import MailRouting.Address.LocalPart
import MailRouting.Domain

/-!
# Mailboxes and reverse-paths

The addresses of an SMTP envelope (RFC 5321, section 4.1.2):

    Reverse-path = Path / "<>"
    Path         = "<" [ A-d-l ":" ] Mailbox ">"
    Mailbox      = Local-part "@" ( Domain / address-literal )

* `Address` — a mailbox;
* `Address.ofParts` — the mailbox of a local part and a domain, the local part checked;
* `Address.parse` — the mailbox that a text names, bare or as a path;
* `ReversePath` — the envelope sender, which may be unset or null.
-/

namespace MailRouting

/-- A mailbox. -/
structure Address where
  localPart : String
  domain : Domain
  /-- The local part follows the grammar. -/
  valid : LocalPart.check localPart.toList = .ok ()
  deriving DecidableEq, Repr

namespace Address

/-- The most octets that a path may have. -/
def maxPathOctets : Nat := 256

/-- The mailbox as it is written. -/
def text (a : Address) : String :=
  a.localPart ++ "@" ++ a.domain.text

/-- The mailbox of a local part and a domain. -/
def ofParts (localPart : String) (domain : Domain) : Except AddressError Address :=
  match h : LocalPart.check localPart.toList with
  | .ok () => .ok ⟨localPart, domain, h⟩
  | .error e => .error e

/-- The parts of a mailbox make that mailbox. -/
theorem ofParts_localPart_domain (a : Address) : ofParts a.localPart a.domain = .ok a := by
  unfold ofParts
  split
  · rfl
  · rename_i e h
    rw [a.valid] at h
    cases h

/-- The same local part in another domain. -/
def withDomain (a : Address) (domain : Domain) : Address :=
  { a with domain }

/-- The text after the last colon outside of brackets, where a source route ends. -/
def afterRoute (inBrackets : Bool) : List Char → Option (List Char)
  | [] => none
  | c :: rest =>
    let inside := if c = '[' then true else if c = ']' then false else inBrackets
    match afterRoute inside rest with
    | some s => some s
    | none => if c = ':' && !inBrackets then some rest else none

/-- What a scan for the separating `@` has passed so far. -/
structure AtScan where
  /-- Between the quotes of a quoted string. -/
  inQuotes : Bool := false
  /-- Between the brackets of an address literal. -/
  inBrackets : Bool := false
  /-- Directly after a backslash that is not itself escaped. -/
  escaped : Bool := false

/-- Whether the scan stands where an `@` separates. -/
def AtScan.separates (q : AtScan) : Bool :=
  !q.inQuotes && !q.inBrackets

/-- The scan after one more character. -/
def AtScan.step (q : AtScan) (c : Char) : AtScan :=
  let escaped := c = '\\' && !q.escaped
  if c = '"' && !q.escaped && !q.inBrackets then { q with inQuotes := !q.inQuotes, escaped }
  else if c = '[' && !q.inQuotes then { q with inBrackets := true, escaped }
  else if c = ']' && !q.inQuotes then { q with inBrackets := false, escaped }
  else { q with escaped }

/-- The text before and after the first `@` that stands neither in quotes nor in brackets. -/
def splitAtSign (q : AtScan) : List Char → Option (List Char × List Char)
  | [] => none
  | c :: rest =>
    if c = '@' && q.separates then some ([], rest)
    else (splitAtSign (q.step c) rest).map fun (before, after) => (c :: before, after)

/-- The mailbox that a text without brackets around it names. -/
def ofMailboxText (s : List Char) : Except AddressError Address :=
  match splitAtSign {} s with
  | none => .error .missingAtSign
  | some (localPart, domain) =>
    if LocalPart.maxOctets < Text.Utf8.octetCount localPart then .error .localPartTooLong
    else do
      let domain ← Domain.parse (String.ofList domain)
      ofParts (String.ofList localPart) domain

/-- The mailbox text of a path, given what follows the opening bracket. -/
def ofPathText (s : List Char) : Except AddressError (List Char) :=
  if s.getLast? = some '>' then
    let content := s.dropLast
    .ok ((afterRoute false content).getD content)
  else .error .missingCloseBracket

/-- The mailbox that a text names, bare or as a path, blanks around it ignored. -/
def parse (input : String) : Except AddressError Address :=
  let s := Text.trim input.toList
  if s.isEmpty then .error .empty
  else if maxPathOctets < Text.Utf8.octetCount s then .error .pathTooLong
  else if s = ['<', '>'] then .error .nullSender
  else
    match s with
    | '<' :: rest => ofPathText rest >>= ofMailboxText
    | _ => ofMailboxText s

end Address

/-- The sender of an envelope: not given, the null reverse-path, or a mailbox. Only a mailbox can
be answered. -/
inductive ReversePath where
  | unset
  | null
  | mailbox (address : Address)
  deriving DecidableEq, Repr

namespace ReversePath

/-- The reverse-path that a text names: the null one, or any mailbox. -/
def parse (input : String) : Except AddressError ReversePath :=
  match Address.parse input with
  | .ok address => .ok (.mailbox address)
  | .error .nullSender => .ok .null
  | .error e => .error e

/-- The mailbox, if there is one. -/
def address? : ReversePath → Option Address
  | .mailbox address => some address
  | .unset => none
  | .null => none

/-- The reverse-path of a mailbox that may be missing. -/
def ofAddress? : Option Address → ReversePath
  | some address => .mailbox address
  | none => .unset

/-- Whether a report could be sent back. -/
def hasMailbox (path : ReversePath) : Bool :=
  path.address?.isSome

/-- Whether this is the null reverse-path. -/
def isNull : ReversePath → Bool
  | .null => true
  | _ => false

/-- The reverse-path as it is written. -/
def text : ReversePath → String
  | .mailbox address => address.text
  | .unset => "<>"
  | .null => "<>"

end ReversePath

end MailRouting
