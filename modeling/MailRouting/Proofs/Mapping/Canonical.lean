import MailRouting.Proofs.Mapping.Endpoints

/-!
# Resolving what was resolved

The first mailbox that a resolution names lies at the end of the first rules: each first rule leads
on, until a mailbox has no rules or its first rule names it again. Resolving that mailbox stays
there.

* `MappingTable.Settled` — a mailbox that has no rules, or is named again by the first of them;
* `settled_of_firstAddress?` — the first mailbox of a resolution is settled, and reached by hops;
* `exists_resolveWithin_of_chain` — what is reached from a mailbox that resolves resolves itself;
* `firstAddress?_of_settled` — a settled mailbox resolves to itself first, or to nothing.
-/

namespace MailRouting.MappingTable

variable {t : MappingTable} {kinds : List MappingKind} {a u : Address}

/-- The mailbox has no rules, or the first of them has it as its target, written as it is. -/
def Settled (t : MappingTable) (kinds : List MappingKind) (u : Address) : Prop :=
  t.rules kinds u = [] ∨ ∃ m rest, t.rules kinds u = m :: rest ∧ target? u m = some u

/-- A mapping leads from its target to the same target again. -/
theorem target?_target {m : Mapping} (h : target? a m = some u) : target? u m = some u := by
  cases m with
  | address target => exact h
  | «alias» target => exact h
  | domain d =>
    cases h
    rfl
  | error message => cases h

/-- The first mailbox of a resolution comes from the first rule. -/
theorem exists_follow_of_firstAddress? {budget : Nat} {ms : List Mapping}
    (h : t.resolveWithin kinds (budget + 1) a = .ok ms) (hfirst : firstAddress? ms = some u) :
    ∃ m rest rs, t.rules kinds a = m :: rest ∧
      follow (t.resolveWithin kinds budget) a m = .ok rs ∧ firstAddress? rs = some u := by
  obtain ⟨rss, hrules, rfl⟩ := resolveWithin_succ_eq_ok h
  cases hms : t.rules kinds a with
  | nil =>
    rw [hms] at hrules
    cases hrules
    cases hfirst
  | cons m rest =>
    rw [hms] at hrules
    obtain ⟨rs, others, hfollow, _, rfl⟩ := mapM_cons_eq_ok_iff.1 hrules
    have hmailbox : ∀ x ∈ rs, ∃ v, x = .address v ∨ x = .alias v :=
      fun x hx => resolveWithin_isMailbox h (List.mem_flatten.2 ⟨rs, List.mem_cons_self, hx⟩)
    refine ⟨m, rest, rs, rfl, hfollow, ?_⟩
    rw [firstAddress?, List.flatten_cons, List.findSome?_append, ← firstAddress?] at hfirst
    -- the first rule comes to something, and all of that names mailboxes
    cases hrs : firstAddress? rs with
    | none => exact absurd ((firstAddress?_eq_head? hmailbox).2.1 hrs) (follow_ne_nil hfollow)
    | some v =>
      rw [hrs] at hfirst
      exact hfirst

/-- The first mailbox of a resolution is settled, and up to case it is reached by hops. -/
theorem settled_of_firstAddress? {budget : Nat} {ms : List Mapping}
    (h : t.resolveWithin kinds budget a = .ok ms) (hfirst : firstAddress? ms = some u) :
    t.Settled kinds u ∧ ∃ n y, t.Chain kinds n a y ∧ y.folded = u.folded := by
  induction budget generalizing a ms with
  | zero => cases h
  | succ budget ih =>
    obtain ⟨m, rest, rs, hrules, hfollow, hrs⟩ := exists_follow_of_firstAddress? h hfirst
    obtain ⟨b, htarget, ⟨hself, rfl⟩ | ⟨hne, ms', hnext, rfl⟩⟩ := follow_eq_ok_iff.1 hfollow
    · cases hrs
      refine ⟨.inr ⟨m, rest, ?_, target?_target htarget⟩, 0, a, .none a, hself.symm⟩
      rw [rules_congr hself, hrules]
    · have hop : t.HopsTo kinds a b := ⟨m, by rw [hrules]; exact List.mem_cons_self, htarget, hne⟩
      by_cases hms' : ms' = []
      · rw [if_pos hms', firstAddress?, List.findSome?_cons, address?_leaf] at hrs
        obtain rfl : b = u := Option.some.inj hrs
        have hnil : t.rules kinds b = [] := (resolveWithin_eq_nil_iff hnext).1 hms'
        exact ⟨.inl hnil, 1, b, .hop hop (.none b), rfl⟩
      · rw [if_neg hms'] at hrs
        obtain ⟨hsettled, n, y, hchain, hy⟩ := ih hnext hrs
        exact ⟨hsettled, n + 1, y, .hop hop hchain, hy⟩

/-- Up to case, what is reached from a mailbox that resolves resolves with the same levels. -/
theorem exists_resolveWithin_of_chain {budget n : Nat} {y : Address} {ms : List Mapping}
    (h : t.resolveWithin kinds budget a = .ok ms) (hchain : t.Chain kinds n a y)
    (hy : y.folded = u.folded) : ∃ ns, t.resolveWithin kinds budget u = .ok ns := by
  cases hu : t.resolveWithin kinds budget u with
  | ok ns => exact ⟨ns, rfl⟩
  | error e =>
    rcases resolveWithin_eq_error hu with ⟨k, z, message, _, huz, hz, _⟩ | ⟨z, huz, _⟩
    · obtain ⟨z', hyz, hz'⟩ := huz.mirror hy
      have hclean := (resolveWithin_eq_ok_bounds h (hchain.append hyz)).2 message
      rw [rules_congr hz'] at hclean
      exact absurd hz hclean
    · obtain ⟨z', hyz, _⟩ := huz.mirror hy
      have hlt := (resolveWithin_eq_ok_bounds h (hchain.append hyz)).1
      omega

/-- A settled mailbox that resolves resolves to nothing, or to itself first. -/
theorem firstAddress?_of_settled {budget : Nat} {ns : List Mapping} (hu : t.Settled kinds u)
    (h : t.resolveWithin kinds budget u = .ok ns) :
    firstAddress? ns = none ∨ firstAddress? ns = some u := by
  cases hfirst : firstAddress? ns with
  | none => exact .inl rfl
  | some v =>
    cases budget with
    | zero => cases h
    | succ budget =>
      obtain ⟨m, rest, rs, hrules, hfollow, hrs⟩ := exists_follow_of_firstAddress? h hfirst
      rcases hu with hnil | ⟨m', rest', hrules', htarget⟩
      · rw [hnil] at hrules
        cases hrules
      · rw [hrules'] at hrules
        cases hrules
        rw [follow_of_target? htarget, if_pos rfl] at hfollow
        cases hfollow
        cases hrs
        exact .inr rfl

/-- Resolving the first mailbox of a resolution succeeds, and comes to nothing or to that mailbox
first. -/
theorem resolveParts_firstAddress? {ms : List Mapping}
    (h : t.resolveParts a.localPart a.domain kinds = .ok ms) (hfirst : firstAddress? ms = some u) :
    ∃ ns, t.resolveParts u.localPart u.domain kinds = .ok ns ∧
      (firstAddress? ns = none ∨ firstAddress? ns = some u) := by
  rw [resolveParts_eq_resolveWithin] at h ⊢
  obtain ⟨hsettled, n, y, hchain, hy⟩ := settled_of_firstAddress? h hfirst
  obtain ⟨ns, hns⟩ := exists_resolveWithin_of_chain h hchain hy
  exact ⟨ns, hns, firstAddress?_of_settled hsettled hns⟩

end MailRouting.MappingTable
