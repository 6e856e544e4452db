import MailRouting.Domain

/-!
# The domains served here

* `DomainList` — the registered domains and the default one among them;
* `DomainList.configure`, `add`, `remove` — changes, of which none unregisters the default domain;
* `DomainList.sorted` — the registered domains in order.
-/

namespace MailRouting

/-- Why the list of domains gives no answer or refuses a change. -/
inductive DomainListError where
  /-- The list cannot be read. -/
  | lookup (reason : String)
  | alreadyExists (domain : Domain)
  | notFound (domain : Domain)
  /-- The default domain stays registered. -/
  | defaultDomain (domain : Domain)
  deriving DecidableEq, Repr

/-- The error in words. -/
def DomainListError.message : DomainListError → String
  | .lookup reason => "Domain list lookup failed: " ++ reason
  | .alreadyExists domain => "Domain already registered: " ++ domain.text
  | .notFound domain => "Domain not registered: " ++ domain.text
  | .defaultDomain domain => "Cannot remove the default domain: " ++ domain.text

/-- The settings of a list of domains. -/
structure DomainListConfig where
  /-- The new default domain, if it is to change. -/
  defaultDomain : Option Domain := none
  /-- Further domains to register. -/
  domains : List Domain := []
  deriving DecidableEq, Repr

/-- The registered domains, each once, and the default one. -/
structure DomainList where
  registered : List Domain
  defaultDomain : Domain
  deriving DecidableEq, Repr

namespace DomainList

/-- The list that serves `localhost` alone. -/
def initial : DomainList :=
  ⟨[.localhost], .localhost⟩

/-- Whether the domain is registered. -/
def contains (l : DomainList) (d : Domain) : Bool :=
  d ∈ l.registered

/-- Registers a domain if it is not yet registered. -/
def register (l : DomainList) (d : Domain) : DomainList :=
  if l.contains d then l else { l with registered := l.registered ++ [d] }

/-- Applies settings: the default domain if they name one, and all their domains. What was
registered before stays registered. -/
def configure (l : DomainList) (config : DomainListConfig) : DomainList :=
  let l := { l with defaultDomain := config.defaultDomain.getD l.defaultDomain }
  config.domains.foldl register (l.register l.defaultDomain)

/-- The list with the given settings. -/
def ofConfig (config : DomainListConfig) : DomainList :=
  initial.configure config

/-- Registers a new domain. -/
def add (l : DomainList) (d : Domain) : Except DomainListError DomainList :=
  if l.contains d then .error (.alreadyExists d)
  else .ok { l with registered := l.registered ++ [d] }

/-- Unregisters a domain other than the default one. -/
def remove (l : DomainList) (d : Domain) : Except DomainListError DomainList :=
  if l.defaultDomain = d then .error (.defaultDomain d)
  else if l.contains d then .ok { l with registered := l.registered.erase d }
  else .error (.notFound d)

/-- How many domains are registered. -/
def size (l : DomainList) : Nat :=
  l.registered.length

/-- The registered domains in the order of their texts. -/
def sorted (l : DomainList) : List Domain :=
  l.registered.mergeSort fun d e => d.text ≤ e.text

end DomainList

end MailRouting
