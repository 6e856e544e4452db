import MailRouting.Address.Error
import MailRouting.Text.Split
import MailRouting.Text.Utf8

/-!
# Local parts

The part of a mailbox before the `@`, by the grammar of RFC 5321:

    Local-part    = Dot-string / Quoted-string
    Dot-string    = Atom *("." Atom)
    Quoted-string = DQUOTE *(qtextSMTP / quoted-pairSMTP) DQUOTE

* `LocalPart.check` — the first fault of a text as a local part.
-/

namespace MailRouting.LocalPart

/-- The most octets that a local part may have. -/
def maxOctets : Nat := 64

/-! ### Dot-strings -/

/-- The characters of an atom: letters, digits and the signs that mean nothing elsewhere in a
mailbox. -/
def isAtomChar (c : Char) : Bool :=
  c.isAlphanum || c ∈ ['!', '#', '$', '%', '&', '\'', '*', '+', '-', '/', '=', '?', '^', '_', '`',
    '\x7b', '|', '\x7d', '~']

/-- An atom is one or more atom characters. -/
def checkAtom (atom : List Char) : Except AddressError Unit :=
  if atom.isEmpty then .error (.invalidLocalPart .consecutiveDots)
  else
    match atom.find? fun c => !isAtomChar c with
    | some c => .error (.invalidLocalPart (.atomCharacter c))
    | none => .ok ()

/-- The first fault among the atoms of a dot-string. -/
def checkAtoms : List (List Char) → Except AddressError Unit
  | [] => .ok ()
  | atom :: rest => do
    checkAtom atom
    checkAtoms rest

/-- A dot-string is one or more atoms with dots between them. -/
def checkDotString (s : List Char) : Except AddressError Unit :=
  if s.head? = some '.' ∨ s.getLast? = some '.' then .error (.invalidLocalPart .edgeDot)
  else checkAtoms (Text.splitOn '.' s)

/-! ### Quoted strings -/

/-- The characters that stand for themselves between quotes: printable ASCII and the space,
without the quote and the backslash. -/
def isQuotedText (c : Char) : Bool :=
  ' ' ≤ c && c ≤ '~' && c != '"' && c != '\\'

/-- The characters that may follow a backslash. -/
def isQuotable (c : Char) : Bool :=
  ' ' ≤ c && c ≤ '~'

/-- The text between the quotes is quoted text and pairs of a backslash and a character. -/
def checkQuotedContent : List Char → Except AddressError Unit
  | [] => .ok ()
  | ['\\'] => .error (.invalidQuotedString .trailingBackslash)
  | '\\' :: c :: rest =>
    if isQuotable c then checkQuotedContent rest else .error (.invalidQuotedString (.pair c))
  | c :: rest =>
    if isQuotedText c then checkQuotedContent rest
    else .error (.invalidQuotedString (.character c))

/-- A quoted string stands between two quotes. -/
def checkQuotedString : List Char → Except AddressError Unit
  | '"' :: rest =>
    if rest.getLast? = some '"' then checkQuotedContent rest.dropLast
    else .error .unclosedQuotedString
  | _ => .error .unclosedQuotedString

/-! ### Either form -/

/-- The first fault of a text as a local part. -/
def check (s : List Char) : Except AddressError Unit :=
  if s.isEmpty then .error (.invalidLocalPart .empty)
  else if maxOctets < Text.Utf8.octetCount s then .error .localPartTooLong
  else if s.head? = some '"' then checkQuotedString s
  else checkDotString s

end MailRouting.LocalPart
