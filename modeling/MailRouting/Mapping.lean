import MailRouting.Address
import MailRouting.Text.Lowercase

/-!
# Mappings

* `Mapping` — what an address is mapped to, or that it is refused;
* `MappingKind` — the four kinds of mappings;
* `MappingSource` — what a rule applies to: one mailbox or a whole domain;
* `firstAddress?` — the first mailbox that a list of mappings names.

Local parts match without regard to case: `Address.folded` is the form under which an address is
looked up.
-/

namespace MailRouting

/-- The kind of a mapping. -/
inductive MappingKind where
  | address
  | alias
  | domain
  | error
  deriving DecidableEq, Repr

namespace MappingKind

/-- All kinds. -/
def all : List MappingKind :=
  [.address, .alias, .domain, .error]

/-- The name of a kind. -/
def name : MappingKind → String
  | .address => "Address"
  | .alias => "Alias"
  | .domain => "Domain"
  | .error => "Error"

end MappingKind

/-- What an address is mapped to. -/
inductive Mapping where
  /-- Deliver to another mailbox instead. -/
  | address (target : Address)
  /-- Another name of a user. -/
  | alias (target : Address)
  /-- The same local part in another domain. -/
  | domain (target : Domain)
  /-- Refuse with a message. -/
  | error (message : String)
  deriving DecidableEq, Repr

namespace Mapping

/-- The kind of the mapping. -/
def kind : Mapping → MappingKind
  | .address _ => .address
  | .alias _ => .alias
  | .domain _ => .domain
  | .error _ => .error

/-- The mailbox that the mapping itself names. -/
def address? : Mapping → Option Address
  | .address target => some target
  | .alias target => some target
  | .domain _ => none
  | .error _ => none

end Mapping

/-- The first mailbox that a list of mappings names. -/
def firstAddress? (mappings : List Mapping) : Option Address :=
  mappings.findSome? Mapping.address?

/-- The address with its local part in lower case. -/
def Address.folded (a : Address) : Address :=
  match Address.ofParts (String.ofList (Text.lowercase a.localPart.toList)) a.domain with
  | .ok b => b
  | .error _ => a

/-- What a rule applies to. -/
inductive MappingSource where
  | address (a : Address)
  | domain (d : Domain)
  deriving DecidableEq, Repr

namespace MappingSource

/-- The form under which the source is stored and looked up. -/
def folded : MappingSource → MappingSource
  | .address a => .address a.folded
  | .domain d => .domain d

/-- The source as messages name it. -/
def text : MappingSource → String
  | .address a => a.text
  | .domain d => "*@" ++ d.text

end MappingSource

end MailRouting
