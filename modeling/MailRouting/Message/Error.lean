import MailRouting.Address.Error
import MailRouting.Text.Utf8

/-!
# Why a message cannot be read

* `HeaderFault` — what breaks the form of a header section;
* `ListFault` — what breaks the form of an address list;
* `MessageError` — why a reading of a message failed, with `message` in words.
-/

namespace MailRouting

/-- What breaks the form of a header section. -/
inductive HeaderFault where
  /-- A field that starts with a space: a folded line with no field before it. -/
  | leadingSpace
  /-- A carriage return without a line feed where a field should start. -/
  | loneCarriageReturn
  deriving DecidableEq, Repr

/-- The fault in words. -/
def HeaderFault.message : HeaderFault → String
  | .leadingSpace =>
    "Header cannot start with a space; it is likely an overhanging line from a previous header"
  | .loneCarriageReturn => "Headers were followed by an unexpected lone CR character!"

/-- What breaks the form of an address list. -/
inductive ListFault where
  /-- A mailbox without an `@`. -/
  | noAtSign
  /-- A semicolon where an address should start, with no group to end. -/
  | unexpectedTerminator
  /-- A group inside a group. -/
  | nestedGroup
  /-- The list ends inside a group. -/
  | unterminatedGroup
  /-- The list ends inside an address. -/
  | unterminatedAddress
  /-- Something other than a separator after a closing bracket. -/
  | afterBracket
  | wordInQuotes
  | wordInBrackets
  | wordAfterBracket
  deriving DecidableEq, Repr

/-- The fault in words. -/
def ListFault.message : ListFault → String
  | .noAtSign => "Invalid address found: must contain a '@' symbol"
  | .unexpectedTerminator => "Unexpected group terminator found in initial list"
  | .nestedGroup => "Found unexpected nested group"
  | .unterminatedGroup => "Found unterminated group address"
  | .unterminatedAddress => "Address string unexpectedly terminated"
  | .afterBracket => "Unexpected char found after bracketed address"
  | .wordInQuotes => "Unexpected encoded word found inside a quoted name"
  | .wordInBrackets => "Unexpected encoded word found inside bracketed address"
  | .wordAfterBracket => "Unexpected encoded word found after bracketed address"

/-- Why a reading of a message failed. -/
inductive MessageError where
  /-- The header section is not UTF-8. -/
  | invalidUtf8 (fault : Text.Utf8.Error)
  | malformedHeader (fault : HeaderFault)
  | malformedList (fault : ListFault)
  /-- A field that an envelope needs is missing. -/
  | missingField (name : String)
  /-- A field lists an address that is no mailbox. -/
  | invalidAddress (field : String) (cause : AddressError)
  deriving DecidableEq, Repr

namespace MessageError

/-- The error in words. -/
def message : MessageError → String
  | .invalidUtf8 fault => "Invalid UTF-8 in headers: " ++ fault.message
  | .malformedHeader fault => "Malformed headers: " ++ fault.message
  | .malformedList fault => "Malformed headers: " ++ fault.message
  | .missingField name => "Missing required header: " ++ name
  | .invalidAddress field cause => s!"Invalid address in {field} header: {cause.message}"

/-- Whether the message itself is unreadable, rather than lacking what was asked for. -/
def isMalformed : MessageError → Bool
  | .invalidUtf8 _ => true
  | .malformedHeader _ => true
  | .malformedList _ => true
  | .missingField _ => false
  | .invalidAddress _ _ => false

end MessageError

end MailRouting
