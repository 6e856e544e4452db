import MailRouting.Context
import MailRouting.Queue
import MailRouting.Mapping.Table
import MailRouting.Value

/-!
# Types as values

How the types of this library are read from values of a data format, and written as such. What is
written can be read again; reading checks whatever the type itself checks.

* addresses: `Domain`, `Address`, `ReversePath`;
* names: `State`, `Principal`, taken as they are;
* rules: `MappingKind`, `Mapping`, `MappingSource`;
* delays: `TimeUnit`, `Delay`;
* settings: `ContextConfig`, `DomainListConfig`, `MappingConfig`, `QueueConfig`, in which every
  field may be left out.
-/

namespace MailRouting

open Value (Variant asText asNatural asList asOption asVariant asRecord ofOption)

/-! ### Addresses -/

/-- Reads a domain. -/
def Domain.ofValue (v : Value) : Except DecodeError Domain := do
  let s ← asText v
  (Domain.parse s).mapError .invalidAddress

/-- Writes a domain. -/
def Domain.toValue (d : Domain) : Value :=
  .text d.text

/-- Reads a mailbox. -/
def Address.ofValue (v : Value) : Except DecodeError Address := do
  let s ← asText v
  (Address.parse s).mapError .invalidAddress

/-- Writes a mailbox. -/
def Address.toValue (a : Address) : Value :=
  .text a.text

/-- A choice whose content is of another type. -/
def Value.Variant.of (read : Value → Except DecodeError α) (make : α → β) : Variant β :=
  .content fun v => (read v).map make

/-- Reads an envelope sender. -/
def ReversePath.ofValue : Value → Except DecodeError ReversePath :=
  asVariant
    [("NoSender", .constant .unset), ("Null", .constant .null),
      ("Sender", .of Address.ofValue .mailbox)]

/-- Writes an envelope sender. -/
def ReversePath.toValue : ReversePath → Value
  | .unset => .text "NoSender"
  | .null => .text "Null"
  | .mailbox a => .map [("Sender", a.toValue)]

/-! ### Names -/

/-- Reads a state. -/
def State.ofValue (v : Value) : Except DecodeError State :=
  (asText v).map State.mk

/-- Writes a state. -/
def State.toValue (s : State) : Value :=
  .text s.name

/-- Reads a principal. -/
def Principal.ofValue (v : Value) : Except DecodeError Principal :=
  (asText v).map Principal.mk

/-- Writes a principal. -/
def Principal.toValue (p : Principal) : Value :=
  .text p.text

/-! ### Rules -/

/-- Reads a kind of mappings. -/
def MappingKind.ofValue : Value → Except DecodeError MappingKind :=
  asVariant (MappingKind.all.map fun kind => (kind.name, .constant kind))

/-- Writes a kind of mappings. -/
def MappingKind.toValue (kind : MappingKind) : Value :=
  .text kind.name

/-- Reads a mapping. -/
def Mapping.ofValue : Value → Except DecodeError Mapping :=
  asVariant
    [("Address", .of Address.ofValue .address), ("Alias", .of Address.ofValue .alias),
      ("Domain", .of Domain.ofValue .domain), ("Error", .of asText .error)]

/-- Writes a mapping. -/
def Mapping.toValue (m : Mapping) : Value :=
  let content : Value := match m with
    | .address target => target.toValue
    | .alias target => target.toValue
    | .domain target => target.toValue
    | .error message => .text message
  .map [(m.kind.name, content)]

/-- Reads what a rule applies to. -/
def MappingSource.ofValue : Value → Except DecodeError MappingSource :=
  asVariant [("Address", .of Address.ofValue .address), ("Domain", .of Domain.ofValue .domain)]

/-- Writes what a rule applies to. -/
def MappingSource.toValue : MappingSource → Value
  | .address a => .map [("Address", a.toValue)]
  | .domain d => .map [("Domain", d.toValue)]

/-! ### Delays -/

/-- Reads a unit of time. -/
def TimeUnit.ofValue : Value → Except DecodeError TimeUnit :=
  asVariant (TimeUnit.all.map fun unit => (unit.name, .constant unit))

/-- Writes a unit of time. -/
def TimeUnit.toValue (unit : TimeUnit) : Value :=
  .text unit.name

/-- Reads a delay. -/
def Delay.ofValue (v : Value) : Except DecodeError Delay := do
  let slots ← asRecord "Delay" v
  let amount ← slots.optional "amount" 0 (asNatural "u64")
  let unit ← slots.optional "unit" 1 TimeUnit.ofValue
  let amount ← slots.require "amount" "struct Delay with 2 elements" amount
  let unit ← slots.require "unit" "struct Delay with 2 elements" unit
  slots.close 2
  pure ⟨.ofNat amount, unit⟩

/-- Writes a delay. -/
def Delay.toValue (d : Delay) : Value :=
  .map [("amount", .int d.amount.toNat), ("unit", d.unit.toValue)]

/-! ### Settings -/

/-- Reads the settings of a context. -/
def ContextConfig.ofValue (v : Value) : Except DecodeError ContextConfig := do
  let slots ← asRecord "ContextConfig" v
  let usual : ContextConfig := {}
  let postmaster ← slots.optional "postmaster" 0 (asOption asText)
  let reportingHost ← slots.optional "reporting_mta" 1 asText
  let spoolQueue ← slots.optional "spool_queue" 2 asText
  slots.close 3
  pure {
    postmaster := postmaster.getD usual.postmaster
    reportingHost := reportingHost.getD usual.reportingHost
    spoolQueue := spoolQueue.getD usual.spoolQueue }

/-- Writes the settings of a context. -/
def ContextConfig.toValue (c : ContextConfig) : Value :=
  .map [("postmaster", ofOption .text c.postmaster), ("reporting_mta", .text c.reportingHost),
    ("spool_queue", .text c.spoolQueue)]

/-- Reads the settings of a domain list. -/
def DomainListConfig.ofValue (v : Value) : Except DecodeError DomainListConfig := do
  let slots ← asRecord "DomainListConfig" v
  let defaultDomain ← slots.optional "default_domain" 0 (asOption Domain.ofValue)
  let domains ← slots.optional "domains" 1 (asList Domain.ofValue)
  slots.close 2
  pure { defaultDomain := defaultDomain.getD none, domains := domains.getD [] }

/-- Writes the settings of a domain list. -/
def DomainListConfig.toValue (c : DomainListConfig) : Value :=
  .map [("default_domain", ofOption Domain.toValue c.defaultDomain),
    ("domains", .list (c.domains.map Domain.toValue))]

/-- Reads the settings of a mapping table. -/
def MappingConfig.ofValue (v : Value) : Except DecodeError MappingConfig := do
  let slots ← asRecord "RewriteTableConfig" v
  let usual : MappingConfig := {}
  let limit ← slots.optional "recursion_limit" 0 (asNatural "usize")
  slots.close 1
  pure { recursionLimit := limit.getD usual.recursionLimit }

/-- Writes the settings of a mapping table. -/
def MappingConfig.toValue (c : MappingConfig) : Value :=
  .map [("recursion_limit", .int c.recursionLimit)]

/-- Reads the settings of a queue. -/
def QueueConfig.ofValue (v : Value) : Except DecodeError QueueConfig := do
  let slots ← asRecord "MemoryQueueConfig" v
  let capacity ← slots.optional "capacity" 0 (asOption (asNatural "usize"))
  slots.close 1
  pure { capacity := capacity.getD none }

/-- Writes the settings of a queue. -/
def QueueConfig.toValue (c : QueueConfig) : Value :=
  .map [("capacity", ofOption (fun n => .int n) c.capacity)]

end MailRouting
