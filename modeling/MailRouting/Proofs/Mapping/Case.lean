import MailRouting.Proofs.Address.Case
import MailRouting.Proofs.Mapping.Resolution

/-!
# Resolution and the case of local parts

Two mailboxes that are equal up to case are resolved side by side: they have the same rules, a rule
leads both to mailboxes that are equal up to case, and whether it leads back is the same question
for both.

* `Mapping.EqUpToCase`, `MappingError.EqUpToCase` — mappings and errors that name mailboxes which
  are equal up to case;
* `follow_alike`, `resolveWithin_alike` — one mapping and all mappings of such mailboxes;
* `resolveParts_alike` — their resolutions.
-/

namespace MailRouting

/-- The same kind of mapping, to mailboxes that are equal up to case or to the same domain. -/
def Mapping.EqUpToCase : Mapping → Mapping → Prop
  | .address u, .address v => u.EqUpToCase v
  | .alias u, .alias v => u.EqUpToCase v
  | .domain d, .domain e => d = e
  | .error message, .error message' => message = message'
  | _, _ => False

/-- The same refusal of mailboxes that are equal up to case, or the same limit passed at such. -/
inductive MappingError.EqUpToCase : MappingError → MappingError → Prop where
  | errorMapping {a b : Address} (message : String) :
      a.EqUpToCase b → EqUpToCase (.errorMapping a message) (.errorMapping b message)
  | tooManyMappings {a b : Address} (limit : Nat) :
      a.EqUpToCase b → EqUpToCase (.tooManyMappings a limit) (.tooManyMappings b limit)

namespace MappingTable

/-- Resolutions that succeed with mappings equal up to case, one by one, or fail with the same
error up to case. -/
abbrev ResolveAlike :
    Except MappingError (List Mapping) → Except MappingError (List Mapping) → Prop :=
  Alike MappingError.EqUpToCase (List.Forall₂ Mapping.EqUpToCase)

variable {t : MappingTable} {kinds : List MappingKind}

theorem leaf_eqUpToCase {a b : Address} (h : a.EqUpToCase b) (m : Mapping) :
    (leaf m a).EqUpToCase (leaf m b) := by
  cases m <;> exact h

/-- One mapping of two mailboxes that are equal up to case comes to the like. -/
theorem follow_alike {next : Address → Except MappingError (List Mapping)}
    (hnext : ∀ {x y : Address}, x.EqUpToCase y → ResolveAlike (next x) (next y)) {a b : Address}
    (h : a.EqUpToCase b) (m : Mapping) : ResolveAlike (follow next a m) (follow next b m) := by
  have hfold : b.folded = a.folded := (Address.folded_eq_folded_iff.2 h).symm
  cases htarget : target? a m with
  | none =>
    obtain ⟨message, rfl⟩ := target?_eq_none_iff.1 htarget
    exact .error (.errorMapping message h)
  | some x =>
    obtain ⟨y, htarget', hyx⟩ := target?_mirror hfold htarget
    have hxy : x.EqUpToCase y := Address.folded_eq_folded_iff.1 hyx.symm
    by_cases hself : x.folded = a.folded
    · have hself' : y.folded = b.folded := by rw [hyx, hself, hfold]
      rw [follow_of_target? htarget, if_pos hself, follow_of_target? htarget', if_pos hself']
      exact .ok (.cons hxy .nil)
    · have hself' : y.folded ≠ b.folded := by rwa [hyx, hfold]
      rw [follow_of_ne htarget hself, follow_of_ne htarget' hself']
      have hrest := hnext hxy
      generalize next x = r, next y = r' at hrest
      cases hrest with
      | error he => exact .error he
      | ok hms =>
        -- the leaf stands for the target on both sides, or on neither
        cases hms with
        | nil => exact .ok (.cons (leaf_eqUpToCase hxy m) .nil)
        | cons hm hrest => exact .ok (.cons hm hrest)

/-- Two mailboxes that are equal up to case come to the like with the same levels left. -/
theorem resolveWithin_alike (budget : Nat) {a b : Address} (h : a.EqUpToCase b) :
    ResolveAlike (t.resolveWithin kinds budget a) (t.resolveWithin kinds budget b) := by
  induction budget generalizing a b with
  | zero => exact .error (.tooManyMappings t.recursionLimit h)
  | succ budget ih =>
    have hrules : t.rules kinds b = t.rules kinds a :=
      rules_congr (Address.folded_eq_folded_iff.2 h).symm
    have hfollow : Alike MappingError.EqUpToCase (List.Forall₂ (List.Forall₂ Mapping.EqUpToCase))
        ((t.rules kinds a).mapM (follow (t.resolveWithin kinds budget) a))
        ((t.rules kinds a).mapM (follow (t.resolveWithin kinds budget) b)) :=
      alike_mapM fun m _ => follow_alike ih h m
    rw [resolveWithin_succ, resolveWithin_succ, hrules]
    generalize (t.rules kinds a).mapM (follow (t.resolveWithin kinds budget) a) = r,
      (t.rules kinds a).mapM (follow (t.resolveWithin kinds budget) b) = r' at hfollow
    cases hfollow with
    | error he => exact .error he
    | ok hrss => exact .ok (List.rel_flatten hrss)

/-- The resolutions of two mailboxes that are equal up to case. -/
theorem resolveParts_alike (t : MappingTable) (kinds : List MappingKind) {a b : Address}
    (h : a.EqUpToCase b) :
    ResolveAlike (t.resolveParts a.localPart a.domain kinds)
      (t.resolveParts b.localPart b.domain kinds) := by
  rw [resolveParts_eq_resolveWithin, resolveParts_eq_resolveWithin]
  exact resolveWithin_alike (t.recursionLimit + 1) h

/-- The first mailboxes that lists of mappings name, if the lists are equal up to case. -/
theorem firstAddress?_alike {ms ns : List Mapping} (h : List.Forall₂ Mapping.EqUpToCase ms ns) :
    Option.Rel Address.EqUpToCase (firstAddress? ms) (firstAddress? ns) := by
  induction h with
  | nil => exact .none
  | @cons m n ms ns hm _ ih =>
    match m, n, hm with
    | .address u, .address v, huv => exact .some huv
    | .alias u, .alias v, huv => exact .some huv
    | .domain _, .domain _, _ => exact ih
    | .error _, .error _, _ => exact ih

end MappingTable

end MailRouting
