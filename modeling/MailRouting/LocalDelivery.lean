import MailRouting.Routine

/-!
# Local delivery

Whether a domain, a user name or a mailbox is served here. Every question goes to the authorities,
and the first one that gives no answer ends the work with its error.

* `Lookup` — work that asks authorities;
* `isLocalServer`, `isLocalEmail`, `isLocalUser` — the questions;
* `localRecipients` — the local ones of a list of mailboxes.
-/

namespace MailRouting

/-- Work that ends when an authority gives no answer. -/
abbrev Lookup := ExceptT ResolutionError Routine

namespace LocalDelivery

/-! ### Questions to one authority -/

/-- The answer of an authority, its error wrapped. -/
def consult (wrap : ε → ResolutionError) (question : Routine (Except ε α)) : Lookup α :=
  ExceptT.mk do
    let answer ← question
    pure (answer.mapError wrap)

/-- Asks whether a domain is served here. -/
def containsDomain (d : Domain) : Lookup Bool :=
  consult .domains (Routine.request (.containsDomain d))

/-- Asks for the default domain. -/
def defaultDomain : Lookup Domain :=
  consult .domains (Routine.request .defaultDomain)

/-- Asks whether a principal is a known user. -/
def containsUser (p : Principal) : Lookup Bool :=
  consult .users (Routine.request (.containsUser p))

/-- Asks for the principal of a mailbox. -/
def principalOf (a : Address) : Lookup Principal :=
  consult .users (Routine.request (.principalFor a))

/-- Asks for all mappings of a mailbox. -/
def mappingsOf (a : Address) : Lookup (List Mapping) :=
  consult .mappings
    (Routine.request (.resolvedMappings a.localPart a.domain MappingKind.all))

/-- Writes what was found into the log. -/
def logFinding (message : String) (fields : Log.Fields) : Lookup Unit :=
  Routine.log ⟨.debug, Log.resourcesTarget, message, fields⟩

/-- A truth value as the log shows it. -/
def showBool (b : Bool) : String :=
  if b then "true" else "false"

/-! ### The questions of routing -/

/-- Whether mail for the domain is delivered here. -/
def isLocalServer (d : Domain) : Lookup Bool := do
  let found ← containsDomain d
  logFinding "Resolved local server" [("domain", d.text), ("local", showBool found)]
  pure found

/-- The principal of a mailbox after the mappings. -/
def mappedPrincipal (a : Address) : Lookup Principal := do
  let mappings ← mappingsOf a
  principalOf ((firstAddress? mappings).getD a)

/-- Whether a mailbox is delivered here: its domain is served here, and its principal after
the mappings is a known user. -/
def isLocalEmail : Option Address → Lookup Bool
  | none => pure false
  | some a => do
    if ← isLocalServer a.domain then
      let principal ← mappedPrincipal a
      let found ← containsUser principal
      logFinding "Resolved local email"
        [("address", a.text), ("principal", principal.text), ("local", showBool found)]
      pure found
    else pure false

/-- The mailbox that a user name in lower case stands for; without an `@` it lies in the default
domain. -/
def userAddress (name : String) : Lookup (Except AddressError Address) := do
  if '@' ∈ name.toList then pure (Address.parse name)
  else
    let d ← defaultDomain
    pure (Address.ofParts name d)

/-- Whether a user name names a mailbox that is delivered here, without regard to case. -/
def isLocalUser : Option String → Lookup Bool
  | none => pure false
  | some user => do
    if user.isEmpty then pure false
    else
      let name := String.ofList (Text.lowercase user.toList)
      match ← userAddress name with
      | .ok a => isLocalEmail (some a)
      | .error e =>
        logFinding "Not a valid user name" [("user", name), ("err", e.message)]
        pure false

/-- The mailboxes of a list that are delivered here, in order. -/
def localRecipients : List Address → Lookup (List Address)
  | [] => pure []
  | a :: rest => do
    let found ← isLocalEmail (some a)
    let others ← localRecipients rest
    pure (if found then a :: others else others)

end LocalDelivery

end MailRouting
