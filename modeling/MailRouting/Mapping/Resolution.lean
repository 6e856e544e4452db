import MailRouting.Mapping.Table

/-!
# Resolution of addresses

The mappings of an address are followed, and those of the addresses they lead to, until nothing
more applies or a mapping leads back to the address that it applies to.

* `Hop` — one mapping followed;
* `MappingTable.rules` — the mappings of some kinds that apply to an address;
* `MappingTable.explore` — all that an address resolves to, and the hops on the way;
* `MappingTable.resolveParts` — what the address of a local part and a domain resolves to, where the
  local part may be none.
-/

namespace MailRouting

/-- A mapping that was followed from `address` to `target`, `depth` others before it. -/
structure Hop where
  address : Address
  target : Address
  depth : Nat
  deriving DecidableEq, Repr

/-- The hops that were made, and the mappings that came out or why none did. -/
structure Exploration where
  hops : List Hop
  result : Except MappingError (List Mapping)

namespace Exploration

/-- The exploration that fails at once. -/
def failed (e : MappingError) : Exploration :=
  ⟨[], .error e⟩

/-- The exploration that makes no hop. -/
def found (mappings : List Mapping) : Exploration :=
  ⟨[], .ok mappings⟩

/-- Makes a hop first. -/
def after (hop : Hop) (x : Exploration) : Exploration :=
  { x with hops := hop :: x.hops }

/-- The mappings of one exploration and then those of another, which is made only if the first one
does not fail. -/
def andThen (x : Exploration) (y : Unit → Exploration) : Exploration :=
  match x.result with
  | .error e => ⟨x.hops, .error e⟩
  | .ok ms =>
    let y := y ()
    ⟨x.hops ++ y.hops, y.result.map (ms ++ ·)⟩

end Exploration

namespace MappingTable

/-- The mapping under which the target of `m` is reported if nothing applies to the target. -/
def leaf (m : Mapping) (target : Address) : Mapping :=
  match m with
  | .alias _ => .alias target
  | _ => .address target

/-- The address that a mapping leads to from `a`. -/
def target? (a : Address) : Mapping → Option Address
  | .address target => some target
  | .alias target => some target
  | .domain d => some (a.withDomain d)
  | .error _ => none

/-- What one mapping of the address `a` comes to, `next` exploring the address it leads to. -/
def exploreMapping (next : Address → Exploration) (a : Address) (depth : Nat) (m : Mapping) :
    Exploration :=
  match m with
  | .error message => .failed (.errorMapping a message)
  | m =>
    match target? a m with
    | none => .found []
    | some target =>
      .after ⟨a, target, depth⟩
        (if target.folded = a.folded then .found [.address target]
          else
            let nested := next target
            match nested.result with
            | .ok [] => { nested with result := .ok [leaf m target] }
            | _ => nested)

/-- What a list of mappings of the address `a` comes to. -/
def exploreAll (next : Address → Exploration) (a : Address) (depth : Nat) :
    List Mapping → Exploration
  | [] => .found []
  | m :: rest =>
    (exploreMapping next a depth m).andThen fun _ => exploreAll next a depth rest

/-- The mappings of some kinds that apply to an address. -/
def rules (t : MappingTable) (kinds : List MappingKind) (a : Address) : List Mapping :=
  (t.stored a).filter fun m => m.kind ∈ kinds

/-- Explores the address `a` with `budget` levels left, the mappings of other kinds left out. No
level left means that more mappings follow one another than the limit allows. -/
def explore (t : MappingTable) (kinds : List MappingKind) : Nat → Address → Exploration
  | 0, a => .failed (.tooManyMappings a t.recursionLimit)
  | budget + 1, a =>
    exploreAll (t.explore kinds budget) a (t.recursionLimit - budget) (t.rules kinds a)

/-- The exploration of an address, mappings of other kinds left out. -/
def exploration (t : MappingTable) (kinds : List MappingKind) (a : Address) : Exploration :=
  t.explore kinds (t.recursionLimit + 1) a

/-- The exploration of the mailbox of a local part and a domain; a text that is no local part has
no mappings. -/
def exploreParts (t : MappingTable) (localPart : String) (d : Domain) (kinds : List MappingKind) :
    Exploration :=
  match Address.ofParts localPart d with
  | .ok a => t.exploration kinds a
  | .error _ => .found []

/-- The mappings of the mailbox of a local part and a domain. -/
def resolveParts (t : MappingTable) (localPart : String) (d : Domain) (kinds : List MappingKind) :
    Except MappingError (List Mapping) :=
  (t.exploreParts localPart d kinds).result

end MappingTable

end MailRouting
