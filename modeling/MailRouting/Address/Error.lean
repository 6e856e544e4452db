/-!
# Why a text is no address

* `DomainFault`, `LiteralFault`, `LocalPartFault`, `QuotedFault` — what breaks the grammar of one
  part of an address;
* `AddressError` — why a text is no mailbox, no reverse-path or no domain;
* `AddressError.message` — the same in words.
-/

namespace MailRouting

/-- What breaks the grammar of a domain name. -/
inductive DomainFault where
  | empty
  /-- A dot at the start or at the end. -/
  | edgeDot
  /-- Two dots in a row. -/
  | emptyLabel
  /-- A label that starts with neither letter nor digit. -/
  | labelStart (c : Char)
  /-- A label that ends with neither letter nor digit. -/
  | labelEnd (c : Char)
  /-- A character inside a label that is no letter, digit or hyphen. -/
  | labelCharacter (c : Char)
  deriving DecidableEq, Repr

/-- The fault in words. -/
def DomainFault.message : DomainFault → String
  | .empty => "Empty domain"
  | .edgeDot => "Domain cannot start or end with '.'"
  | .emptyLabel => "Empty subdomain"
  | .labelStart c => s!"Subdomain must start with letter or digit, got '{c}'"
  | .labelEnd c => s!"Subdomain must end with letter or digit, got '{c}'"
  | .labelCharacter c => s!"Invalid character '{c}' in subdomain"

/-- What breaks the grammar of an address literal. -/
inductive LiteralFault where
  /-- No closing bracket at the end. -/
  | unbracketed
  /-- The text between the brackets is neither an IPv4 address nor a tag and a value. -/
  | format (content : String)
  deriving DecidableEq, Repr

/-- The fault in words. -/
def LiteralFault.message : LiteralFault → String
  | .unbracketed => "Address literal must be enclosed in brackets"
  | .format content => s!"Invalid address literal format: {content}"

/-- What breaks the grammar of an unquoted local part. -/
inductive LocalPartFault where
  | empty
  /-- A dot at the start or at the end. -/
  | edgeDot
  | consecutiveDots
  | atomCharacter (c : Char)
  deriving DecidableEq, Repr

/-- The fault in words. -/
def LocalPartFault.message : LocalPartFault → String
  | .empty => "Empty local-part"
  | .edgeDot => "Dot-string cannot start or end with '.'"
  | .consecutiveDots => "Dot-string cannot contain consecutive dots"
  | .atomCharacter c => s!"Invalid character '{c}' in atom"

/-- What breaks the grammar of a quoted local part. -/
inductive QuotedFault where
  /-- A backslash before a character that cannot be quoted. -/
  | pair (c : Char)
  /-- A backslash before the closing quote. -/
  | trailingBackslash
  | character (c : Char)
  deriving DecidableEq, Repr

/-- The fault in words. -/
def QuotedFault.message : QuotedFault → String
  | .pair c => s!"Invalid quoted-pair: \\{c}"
  | .trailingBackslash => "Backslash at end of quoted string"
  | .character c => s!"Invalid character '{c}' in quoted string"

/-- Why a text is no mailbox, no reverse-path or no domain. -/
inductive AddressError where
  | empty
  /-- More than 256 octets. -/
  | pathTooLong
  /-- A local part of more than 64 octets. -/
  | localPartTooLong
  /-- A domain of more than 255 octets. -/
  | domainTooLong
  | missingCloseBracket
  | missingAtSign
  | invalidLocalPart (fault : LocalPartFault)
  | invalidDomain (fault : DomainFault)
  | invalidLiteral (fault : LiteralFault)
  | unclosedQuotedString
  | invalidQuotedString (fault : QuotedFault)
  /-- The null reverse-path where a mailbox is needed. -/
  | nullSender
  deriving DecidableEq, Repr

/-- The error in words. -/
def AddressError.message : AddressError → String
  | .empty => "Empty address"
  | .pathTooLong => "Path exceeds 256 octets"
  | .localPartTooLong => "Local-part exceeds 64 octets"
  | .domainTooLong => "Domain exceeds 255 octets"
  | .missingCloseBracket => "Missing closing angle bracket '>'"
  | .missingAtSign => "Missing '@' separator in mailbox"
  | .invalidLocalPart fault => "Invalid local-part: " ++ fault.message
  | .invalidDomain fault => "Invalid domain: " ++ fault.message
  | .invalidLiteral fault => "Invalid address literal: " ++ fault.message
  | .unclosedQuotedString => "Unclosed quoted string in local-part"
  | .invalidQuotedString fault => "Invalid quoted string: " ++ fault.message
  | .nullSender => "The null sender is not a mailbox"

end MailRouting
