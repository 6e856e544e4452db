import MailRouting.Mapping

/-!
# Mapping tables

A table holds the mappings of every source, in the order in which they were added.

* `MappingTable.entry?`, `MappingTable.set` — the mappings of one source;
* `MappingTable.add`, `MappingTable.remove` — changes; a source without mappings has no entry;
* `MappingTable.stored` — the mappings that apply to an address: its own, or else its domain's.
-/

namespace MailRouting

/-- Why a mapping table gives no answer or refuses a change. -/
inductive MappingError where
  /-- The table cannot be read. -/
  | lookup (reason : String)
  /-- A rule refuses the address. -/
  | errorMapping (address : Address) (message : String)
  /-- More rules follow one another than the limit allows. -/
  | tooManyMappings (address : Address) (limit : Nat)
  | alreadyExists (source : MappingSource)
  | notFound (source : MappingSource)
  deriving DecidableEq, Repr

/-- The error in words. -/
def MappingError.message : MappingError → String
  | .lookup reason => "Rewrite table lookup failed: " ++ reason
  | .errorMapping address message => s!"Error mapping for {address.text}: {message}"
  | .tooManyMappings address limit =>
    s!"Too many mappings resolving {address.text} (limit {limit})"
  | .alreadyExists source => "Mapping already exists for " ++ source.text
  | .notFound source => "Mapping not found for " ++ source.text

/-- The settings of a mapping table. -/
structure MappingConfig where
  /-- How many rules may follow one another. -/
  recursionLimit : Nat := 10
  deriving DecidableEq, Repr

/-- The mappings of every source that has any. -/
structure MappingTable where
  recursionLimit : Nat
  entries : List (MappingSource × List Mapping) := []
  deriving DecidableEq, Repr

namespace MappingTable

/-- The table with the given settings and no rules. -/
def ofConfig (config : MappingConfig) : MappingTable :=
  { recursionLimit := config.recursionLimit }

/-- The mappings of a source in its folded form, if it has an entry. -/
def entry? (t : MappingTable) (key : MappingSource) : Option (List Mapping) :=
  t.entries.lookup key

/-- The entries with the mappings of one source replaced; no mappings, no entry. -/
def setEntry (key : MappingSource) (mappings : List Mapping) :
    List (MappingSource × List Mapping) → List (MappingSource × List Mapping)
  | [] => if mappings.isEmpty then [] else [(key, mappings)]
  | (k, ms) :: rest =>
    if k = key then
      if mappings.isEmpty then rest else (key, mappings) :: rest
    else (k, ms) :: setEntry key mappings rest

/-- The table with the mappings of one source replaced. -/
def set (t : MappingTable) (key : MappingSource) (mappings : List Mapping) : MappingTable :=
  { t with entries := setEntry key mappings t.entries }

/-- Adds a mapping to a source that does not have it yet. -/
def add (t : MappingTable) (source : MappingSource) (m : Mapping) :
    Except MappingError MappingTable :=
  let key := source.folded
  let mappings := (t.entry? key).getD []
  if m ∈ mappings then .error (.alreadyExists source)
  else .ok (t.set key (mappings ++ [m]))

/-- Removes a mapping from a source that has it. -/
def remove (t : MappingTable) (source : MappingSource) (m : Mapping) :
    Except MappingError MappingTable :=
  let key := source.folded
  let mappings := (t.entry? key).getD []
  if m ∈ mappings then .ok (t.set key (mappings.erase m))
  else .error (.notFound source)

/-- Makes `source` another name of the user `user`. -/
def addAlias (t : MappingTable) (source user : Address) : Except MappingError MappingTable :=
  t.add (.address source) (.alias user)

/-- Sends the mail of one mailbox to another. -/
def addAddress (t : MappingTable) (source target : Address) : Except MappingError MappingTable :=
  t.add (.address source) (.address target)

/-- Sends the mail of one domain to the same mailboxes of another. -/
def addDomain (t : MappingTable) (source target : Domain) : Except MappingError MappingTable :=
  t.add (.domain source) (.domain target)

/-- Refuses the mail of a mailbox. -/
def addError (t : MappingTable) (source : Address) (message : String) :
    Except MappingError MappingTable :=
  t.add (.address source) (.error message)

/-- The mappings that apply to an address: its own, or else those of its domain. -/
def stored (t : MappingTable) (a : Address) : List Mapping :=
  match t.entry? (.address a.folded) with
  | some mappings => mappings
  | none => (t.entry? (.domain a.domain)).getD []

end MappingTable

end MailRouting
