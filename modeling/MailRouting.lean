import MailRouting.Text.Blank
import MailRouting.Text.Split
import MailRouting.Text.Utf8
import MailRouting.Text.Lowercase
import MailRouting.Text.Quoted
import MailRouting.Text.Base64
import MailRouting.Text.QuotedPrintable
import MailRouting.Text.Charset
import MailRouting.Address
import MailRouting.Message.Field
import MailRouting.Message.EncodedWord
import MailRouting.Message.FieldText
import MailRouting.Message.AddressList
import MailRouting.Message
import MailRouting.Message.Draft
import MailRouting.Value
import MailRouting.Mail
import MailRouting.Delay
import MailRouting.DomainList
import MailRouting.Users
import MailRouting.Mapping.Resolution
import MailRouting.Queue.Store
import MailRouting.Log
import MailRouting.Clock
import MailRouting.Routine
import MailRouting.Context
import MailRouting.Site
import MailRouting.Value.Codec
import MailRouting.Proofs.Traversal
import MailRouting.Proofs.Entries
import MailRouting.Proofs.Mapping.Hops
import MailRouting.Proofs.Mapping.Resolution
import MailRouting.Proofs.Mapping.Endpoints
import MailRouting.Proofs.Text.Utf8
import MailRouting.Proofs.Text.Occurrences
import MailRouting.Proofs.Text.Lines
import MailRouting.Proofs.DeliveryReport.HeaderSection
import MailRouting.Proofs.DeliveryReport.QuotedFields
import MailRouting.Proofs.Routine
import MailRouting.Proofs.Context.Operation
import MailRouting.Proofs.Queue.Holdings
import MailRouting.Proofs.Context.Dispatch
import MailRouting.Proofs.Text.Lowercase
import MailRouting.Proofs.Address.Grammar
import MailRouting.Proofs.Address.Case
import MailRouting.Proofs.Mapping.Case
import MailRouting.Proofs.LocalDelivery.Directory
import MailRouting.Proofs.LocalDelivery.Case
import MailRouting.Proofs.LocalDelivery.Canonical
import MailRouting.Proofs.LocalDelivery.Failures
import MailRouting.Proofs.Address.Written
import MailRouting.Proofs.LocalDelivery.BareName
import MailRouting.Proofs.Address.Lowered
import MailRouting.Proofs.LocalDelivery.FullName
import MailRouting.Proofs.Delay
import MailRouting.Proofs.Queue.Order
import MailRouting.Proofs.Mapping.Rules
import MailRouting.Proofs.LocalDelivery.Updates
import MailRouting.Proofs.Message.Fields
import MailRouting.Proofs.DeliveryReport.Parts
import MailRouting.Proofs.Message.FieldText
import MailRouting.Proofs.Message.AddressList
import MailRouting.Proofs.Context.Envelope
import MailRouting.Proofs.Context.Bounce
import MailRouting.Proofs.Context.Body
import MailRouting.Proofs.Message.HeaderSection
import MailRouting.Proofs.Address.Bare
import MailRouting.Proofs.Address.Path
import MailRouting.Proofs.Queue.Locality
import MailRouting.Proofs.Context.Spool
import MailRouting.Proofs.Context.NamedQueues
import MailRouting.Proofs.Context.HeldQueues
import MailRouting.Proofs.Mapping.Limit
import MailRouting.Proofs.Mapping.Kinds
import MailRouting.Proofs.Address.Clean
import MailRouting.Proofs.Context.PathLimit
import MailRouting.Proofs.Mapping.Reach
import MailRouting.Proofs.Text.Grammar
import MailRouting.Proofs.Address.Derivation
import MailRouting.Proofs.Domain.Reading
import MailRouting.Proofs.DomainList
import MailRouting.Proofs.Users
import MailRouting.Proofs.Value.Reading
import MailRouting.Proofs.Context.Creation
