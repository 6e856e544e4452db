import MailRouting.Address
import MailRouting.Message.AddressList

/-!
# Messages

A message is the octets of a mail (RFC 5322). It is read only where something asks for its header
section, so that a malformed message can travel untouched.

* `Message.headerBlock` — the text of the header section;
* `Message.fields`, `Message.headers`, `Message.header` — its fields, raw and decoded;
* `Message.addresses` — every mailbox that the fields of one name list.
-/

namespace MailRouting

/-- The octets of a mail. -/
structure Message where
  bytes : List UInt8
  deriving DecidableEq, Repr

namespace Message

/-- The message without content. -/
def empty : Message := ⟨[]⟩

/-- The message with the octets of a text. -/
def ofText (s : String) : Message :=
  ⟨Text.Utf8.encode s.toList⟩

/-- How many octets the message has. -/
def size (m : Message) : Nat :=
  m.bytes.length

/-- The end of a line, twice. -/
def blankLine : List UInt8 := [13, 10, 13, 10]

/-- A line feed, twice. -/
def bareBlankLine : List UInt8 := [10, 10]

/-- The octets of the header section: those before the first blank line ended by CR LF; if there
is none, those before the first blank line ended by LF; if there is none either, all. -/
def headerBytes (m : Message) : List UInt8 :=
  match Text.before blankLine m.bytes with
  | some bs => bs
  | none => (Text.before bareBlankLine m.bytes).getD m.bytes

/-- The text of the header section. -/
def headerBlock (m : Message) : Except MessageError (List Char) :=
  (Text.Utf8.decode m.headerBytes).mapError .invalidUtf8

/-- The fields of the header section. -/
def fields (m : Message) : Except MessageError (List Field) := do
  let block ← m.headerBlock
  (Field.readAll block).mapError .malformedHeader

/-- The names and the decoded values of all fields, in order. -/
def headers (m : Message) : Except MessageError (List (String × String)) := do
  let fields ← m.fields
  pure (fields.map fun f => (String.ofList f.nameText, String.ofList f.text))

/-- The decoded value of the first field of a name. -/
def header (m : Message) (name : String) : Except MessageError (Option String) := do
  let fields ← m.fields
  pure ((fields.find? (·.isNamed name)).map fun f => String.ofList f.text)

/-- The decoded subject. -/
def subject (m : Message) : Except MessageError (Option String) :=
  m.header "Subject"

/-- The mailboxes that one field lists. -/
def fieldAddresses (name : String) (f : Field) : Except MessageError (List Address) := do
  let texts ← (AddressList.mailboxes f.value).mapError .malformedList
  texts.mapM fun s => (Address.parse (String.ofList s)).mapError (.invalidAddress name)

/-- The mailboxes that the fields of a name list, in order, members of groups included. -/
def addresses (m : Message) (name : String) : Except MessageError (List Address) := do
  let fields ← m.fields
  let lists ← (fields.filter (·.isNamed name)).mapM (fieldAddresses name)
  pure lists.flatten

end Message

end MailRouting
