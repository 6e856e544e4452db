import MailRouting.Proofs.Mapping.Endpoints
import MailRouting.Proofs.Mapping.Rules

/-!
# Resolution by some kinds of mappings

To resolve by some kinds of mappings, the mappings that apply to a mailbox are chosen first, its own
or else those of its domain, and those of other kinds are left out then. So a mailbox that has
mappings of its own does not get those of its domain, even if none of its own is of these kinds.

* `RuleList.ofKinds` — the rules of some kinds; the calls about these kinds alone make them
  (`afterCalls_filter`);
* `MappingTable.masked` — a table with the mappings of some kinds, in which every source keeps its
  entry;
* `MappingTable.Shadowed` — the mailboxes for which it matters whether it does;
* `rules_ofKinds_iff` — the mappings of other mailboxes, and only these, are the same for the table
  with the rules of these kinds alone;
* `resolveParts_of_kinds` — what this means for resolutions.
-/

namespace MailRouting

variable {kinds : List MappingKind}

/-! ### The rules of some kinds -/

namespace RuleList

variable {rs : RuleList} {c : MappingCall}

/-- The rules whose mappings are of some kinds, in order. -/
def ofKinds (rs : RuleList) (kinds : List MappingKind) : RuleList :=
  rs.filter fun r => r.2.kind ∈ kinds

theorem mappings_ofKinds (rs : RuleList) (kinds : List MappingKind) (key : MappingSource) :
    (rs.ofKinds kinds).mappings key = (rs.mappings key).filter fun m => m.kind ∈ kinds := by
  unfold mappings ofKinds
  rw [List.filter_map, List.filter_filter, List.filter_filter]
  simp only [Bool.and_comm, Function.comp_def]

theorem mem_ofKinds_iff {r : MappingSource × Mapping} :
    r ∈ rs.ofKinds kinds ↔ r ∈ rs ∧ r.2.kind ∈ kinds := by
  rw [ofKinds, List.mem_filter, decide_eq_true_eq]

theorem ofKinds_concat (rs : RuleList) (kinds : List MappingKind) (r : MappingSource × Mapping) :
    ofKinds (rs ++ [r]) kinds =
      if r.2.kind ∈ kinds then rs.ofKinds kinds ++ [r] else rs.ofKinds kinds := by
  rw [ofKinds, List.filter_append]
  by_cases h : r.2.kind ∈ kinds
  · rw [if_pos h, List.filter_cons_of_pos (by simpa using h)]
    rfl
  · rw [if_neg h, List.filter_cons_of_neg (by simpa using h)]
    exact List.append_nil _

theorem ofKinds_erase (rs : RuleList) (kinds : List MappingKind) (r : MappingSource × Mapping) :
    ofKinds (rs.erase r) kinds = (rs.ofKinds kinds).erase r :=
  List.erase_filter.symm

/-- A call about a mapping of these kinds does to the rules of these kinds what it does to all. -/
theorem ofKinds_next (h : c.mapping.kind ∈ kinds) (rs : RuleList) :
    (rs.next c).ofKinds kinds = (rs.ofKinds kinds).next c := by
  have hmem : (c.key, c.mapping) ∈ rs.ofKinds kinds ↔ (c.key, c.mapping) ∈ rs := by
    rw [mem_ofKinds_iff, and_iff_left h]
  unfold next call
  simp only [hmem]
  by_cases hadds : c.adds = true <;> by_cases hrule : (c.key, c.mapping) ∈ rs
  · simp only [hadds, hrule, if_true]
  · simp only [hadds, hrule, if_true, if_false]
    rw [ofKinds_concat, if_pos h]
  · simp only [hadds, hrule, if_true, if_false, Bool.false_eq_true]
    rw [ofKinds_erase]
  · simp only [hadds, hrule, if_false, Bool.false_eq_true]

/-- A call about a mapping of another kind does nothing to them. -/
theorem ofKinds_next_of_not_mem (h : c.mapping.kind ∉ kinds) (rs : RuleList) :
    (rs.next c).ofKinds kinds = rs.ofKinds kinds := by
  unfold next call
  by_cases hadds : c.adds = true <;> by_cases hrule : (c.key, c.mapping) ∈ rs
  · simp only [hadds, hrule, if_true]
  · simp only [hadds, hrule, if_true, if_false]
    rw [ofKinds_concat, if_neg h]
  · simp only [hadds, hrule, if_true, if_false, Bool.false_eq_true]
    rw [ofKinds_erase]
    exact List.erase_of_not_mem fun hmem => h (mem_ofKinds_iff.1 hmem).2
  · simp only [hadds, hrule, if_false, Bool.false_eq_true]

/-- Leaving out the calls about other kinds leaves out the rules of other kinds. -/
theorem afterCalls_filter (calls : List MappingCall) (kinds : List MappingKind) :
    afterCalls (calls.filter fun c => c.mapping.kind ∈ kinds) =
      (afterCalls calls).ofKinds kinds := by
  suffices h : ∀ rs : RuleList, (calls.filter fun c => c.mapping.kind ∈ kinds).foldl next
      (rs.ofKinds kinds) = (calls.foldl next rs).ofKinds kinds from h []
  induction calls with
  | nil => exact fun _ => rfl
  | cons c calls ih =>
    intro rs
    by_cases hc : c.mapping.kind ∈ kinds
    · rw [List.filter_cons_of_pos (by simpa using hc), List.foldl_cons, List.foldl_cons,
        ← ofKinds_next hc, ih]
    · rw [List.filter_cons_of_neg (by simpa using hc), List.foldl_cons,
        ← ofKinds_next_of_not_mem hc, ih]

end RuleList

namespace MappingTable

variable {t t' : MappingTable} {rs : RuleList} {a : Address}

/-! ### Mappings that apply -/

theorem rules_all (t : MappingTable) (a : Address) : t.rules MappingKind.all a = t.stored a := by
  refine List.filter_eq_self.2 fun m _ => ?_
  cases m <;> rfl

/-- The table with the mappings of some kinds. A source that is left with none keeps its entry. -/
def masked (t : MappingTable) (kinds : List MappingKind) : MappingTable :=
  { t with entries := t.entries.map fun e => (e.1, e.2.filter fun m => m.kind ∈ kinds) }

theorem entry?_masked (t : MappingTable) (kinds : List MappingKind) (key : MappingSource) :
    entry? (t.masked kinds) key =
      (t.entry? key).map fun ms => ms.filter fun m => m.kind ∈ kinds := by
  unfold masked entry?
  dsimp only
  induction t.entries with
  | nil => rfl
  | cons e entries ih =>
    obtain ⟨k, ms⟩ := e
    rw [List.map_cons, lookup_cons_eq_ite, lookup_cons_eq_ite, ih]
    split <;> rfl

/-- What is left of the mappings that apply is what applies in the masked table. -/
theorem rules_masked (t : MappingTable) (kinds : List MappingKind) (a : Address) :
    (t.masked kinds).rules MappingKind.all a = t.rules kinds a := by
  rw [rules_all, rules, stored, stored, entry?_masked, entry?_masked]
  cases t.entry? (.address a.folded) with
  | some ms => rfl
  | none => cases t.entry? (.domain a.domain) <;> rfl

/-- The mailbox has mappings of its own, none of them of these kinds, and its domain has one that
is. -/
def Shadowed (t : MappingTable) (kinds : List MappingKind) (a : Address) : Prop :=
  (t.entry? (.address a.folded)).isSome = true ∧ t.rules kinds a = [] ∧
    ∃ m ∈ (t.entry? (.domain a.domain)).getD [], m.kind ∈ kinds

instance (t : MappingTable) (kinds : List MappingKind) (a : Address) :
    Decidable (t.Shadowed kinds a) :=
  inferInstanceAs (Decidable (_ ∧ _ ∧ _))

/-- In the table with the rules of some kinds alone, the same mappings apply to a mailbox exactly if
it is not shadowed. -/
theorem rules_ofKinds_iff (h : t.Represents rs) (h' : t'.Represents (rs.ofKinds kinds)) :
    t'.rules MappingKind.all a = t.rules kinds a ↔ ¬t.Shadowed kinds a := by
  have hown : (t.entry? (.address a.folded)).isSome = true ↔
      rs.mappings (.address a.folded) ≠ [] := by
    rw [h.entry_eq, asEntry]
    split <;> simp_all
  have hshadowed : t.Shadowed kinds a ↔ rs.mappings (.address a.folded) ≠ [] ∧
      t.rules kinds a = [] ∧ ∃ m ∈ rs.mappings (.domain a.domain), m.kind ∈ kinds := by
    rw [Shadowed, hown, h.getD_entry?]
  rw [hshadowed, rules_all, h'.stored_eq, rules, h.stored_eq, RuleList.stored, RuleList.stored,
    RuleList.mappings_ofKinds, RuleList.mappings_ofKinds]
  by_cases hnone : rs.mappings (.address a.folded) = []
  · simp [hnone]
  · by_cases hleft : (rs.mappings (.address a.folded)).filter (fun m => m.kind ∈ kinds) = []
    · rw [if_pos hleft, if_neg hnone, hleft]
      simp [hnone]
    · rw [if_neg hleft, if_neg hnone]
      simp [hleft]

/-! ### Resolutions -/

theorem recursionLimit_next (t : MappingTable) (c : MappingCall) :
    (t.next c).recursionLimit = t.recursionLimit := by
  rw [next, call_eq_add_or_remove]
  split
  · rename_i hcall
    split at hcall
    · unfold add at hcall
      dsimp only at hcall
      split at hcall <;> cases hcall
      rfl
    · unfold remove at hcall
      dsimp only at hcall
      split at hcall <;> cases hcall
      rfl
  · rfl

/-- No call changes the limit. -/
theorem recursionLimit_afterCalls (config : MappingConfig) (calls : List MappingCall) :
    (afterCalls config calls).recursionLimit = config.recursionLimit :=
  List.foldlRecOn calls next (motive := fun t => t.recursionLimit = config.recursionLimit) rfl
    fun t ht c _ => (recursionLimit_next t c).trans ht

/-- **Resolution by some kinds.** Compare a table after all calls with the one after those about
mappings of some kinds: it has the same limit, and for every source the mappings of these kinds in
the same order. A mailbox resolves by these kinds as it does by all kinds in that table, unless a
shadowed mailbox can be reached from it within the limit; and a shadowed mailbox itself resolves to
nothing in the one, and never to nothing in the other. What a mailbox resolves to by these kinds is
always what it resolves to by all kinds if every source keeps its entry when mappings of other
kinds go. -/
theorem resolveParts_of_kinds (config : MappingConfig) (calls : List MappingCall)
    (kinds : List MappingKind) (x : Address) :
    let t := afterCalls config calls
    let t' := afterCalls config (calls.filter fun c => c.mapping.kind ∈ kinds)
    (t'.recursionLimit = t.recursionLimit ∧ ∀ source, (t'.entry? source).getD [] =
      ((t.entry? source).getD []).filter fun m => m.kind ∈ kinds) ∧
    ((∀ n y, n ≤ t.recursionLimit → t.Chain kinds n x y → ¬t.Shadowed kinds y) →
      t.resolveParts x.localPart x.domain kinds =
        t'.resolveParts x.localPart x.domain MappingKind.all) ∧
    (t.Shadowed kinds x → t.resolveParts x.localPart x.domain kinds = .ok [] ∧
      t'.resolveParts x.localPart x.domain MappingKind.all ≠ .ok []) ∧
    t.resolveParts x.localPart x.domain kinds =
      (t.masked kinds).resolveParts x.localPart x.domain MappingKind.all := by
  intro t t'
  have h : t.Represents (RuleList.afterCalls calls) :=
    represents_foldl (represents_ofConfig config) calls
  have h' : t'.Represents ((RuleList.afterCalls calls).ofKinds kinds) := by
    rw [← RuleList.afterCalls_filter]
    exact represents_foldl (represents_ofConfig config) _
  have hlimit : t'.recursionLimit = t.recursionLimit := by
    rw [recursionLimit_afterCalls, recursionLimit_afterCalls]
  simp only [resolveParts_eq_resolveWithin]
  refine ⟨⟨hlimit, fun source => ?_⟩, fun hfree => ?_, fun hshadowed => ?_, ?_⟩
  · rw [h'.getD_entry?, h.getD_entry?, RuleList.mappings_ofKinds]
  · rw [hlimit]
    refine (resolveWithin_congr_of_chain hlimit fun n y hn hchain => ?_).symm
    exact (rules_ofKinds_iff h h').2 (hfree n y (Nat.lt_succ_iff.1 hn) hchain)
  · have hnone : t.rules kinds x = [] := hshadowed.2.1
    refine ⟨?_, fun hresolves => ?_⟩
    · rw [resolveWithin_succ, hnone]
      rfl
    · have hnone' := (resolveWithin_eq_nil_iff hresolves).1 rfl
      exact (rules_ofKinds_iff h h').1 (hnone'.trans hnone.symm) hshadowed
  · have hmasked : (t.masked kinds).recursionLimit = t.recursionLimit := rfl
    rw [hmasked]
    exact (resolveWithin_congr_of_chain hmasked fun _ y _ _ => rules_masked t kinds y).symm

/-- The domain to which the mail of another one goes. -/
def laterDomain : Domain :=
  ⟨"example.org", by rfl, by rfl⟩

/-- The mail of a domain goes to another one, except that of `zoe`, who has two other names, and
that of one of these, `nora`. -/
def movedExceptZoe : List MappingCall :=
  [.addDomain .localhost laterDomain,
    .addAlias ⟨"nora", .localhost, rfl⟩ ⟨"otto", .localhost, rfl⟩,
    .addAlias ⟨"zoe", .localhost, rfl⟩ ⟨"nora", .localhost, rfl⟩,
    .addAddress ⟨"zoe", .localhost, rfl⟩ ⟨"ruth", .localhost, rfl⟩]

/-- The mailboxes that `zoe` reaches without aliases. -/
def zoeAndRuth : List Address :=
  [⟨"zoe", .localhost, rfl⟩, ⟨"ruth", .localhost, rfl⟩, ⟨"ruth", laterDomain, rfl⟩]

/-- With aliases left out, `nora` is shadowed, and can only be reached from `zoe` by an alias. So
`zoe` resolves as in the table without aliases, in which `nora` moves with her domain. -/
theorem resolveParts_of_kinds_zoe :
    Shadowed (afterCalls {} movedExceptZoe) [.address, .domain] ⟨"nora", .localhost, rfl⟩ ∧
    (∀ n y, n ≤ (afterCalls {} movedExceptZoe).recursionLimit →
      Chain (afterCalls {} movedExceptZoe) [.address, .domain] n ⟨"zoe", .localhost, rfl⟩ y →
      ¬Shadowed (afterCalls {} movedExceptZoe) [.address, .domain] y) ∧
    (afterCalls {} movedExceptZoe).resolveParts "zoe" .localhost MappingKind.all =
      .ok [.address ⟨"otto", laterDomain, rfl⟩, .address ⟨"ruth", laterDomain, rfl⟩] ∧
    (afterCalls {} movedExceptZoe).resolveParts "zoe" .localhost [.address, .domain] =
      .ok [.address ⟨"ruth", laterDomain, rfl⟩] ∧
    (afterCalls {} (movedExceptZoe.filter
        fun c => c.mapping.kind ∈ [MappingKind.address, .domain])).resolveParts
      "zoe" .localhost MappingKind.all = .ok [.address ⟨"ruth", laterDomain, rfl⟩] ∧
    (afterCalls {} movedExceptZoe).resolveParts "nora" .localhost [.address, .domain] = .ok [] := by
  have hclosed : ∀ a ∈ zoeAndRuth, ∀ b,
      HopsTo (afterCalls {} movedExceptZoe) [.address, .domain] a b → b ∈ zoeAndRuth :=
    mem_of_hopsTo_of_targets (by decide)
  have hfree : ∀ a ∈ zoeAndRuth,
      ¬Shadowed (afterCalls {} movedExceptZoe) [.address, .domain] a := by decide
  have hshadowed : Shadowed (afterCalls {} movedExceptZoe) [.address, .domain]
      ⟨"nora", .localhost, rfl⟩ := by decide
  have hcondition : ∀ n y, n ≤ (afterCalls {} movedExceptZoe).recursionLimit →
      Chain (afterCalls {} movedExceptZoe) [.address, .domain] n ⟨"zoe", .localhost, rfl⟩ y →
      ¬Shadowed (afterCalls {} movedExceptZoe) [.address, .domain] y := by
    intro n y _ hchain
    exact hfree y (hchain.mem_of_closed hclosed List.mem_cons_self)
  have hkinds : (afterCalls {} movedExceptZoe).resolveParts "zoe" .localhost [.address, .domain] =
      .ok [.address ⟨"ruth", laterDomain, rfl⟩] := rfl
  obtain ⟨_, hzoe, _⟩ := resolveParts_of_kinds {} movedExceptZoe [.address, .domain]
    ⟨"zoe", .localhost, rfl⟩
  obtain ⟨_, _, hnora, _⟩ := resolveParts_of_kinds {} movedExceptZoe [.address, .domain]
    ⟨"nora", .localhost, rfl⟩
  exact ⟨hshadowed, hcondition, rfl, hkinds, (hzoe hcondition).symm.trans hkinds,
    (hnora hshadowed).1⟩

/-- The mail of one domain goes to another, except that of `nora`, who has another name there. -/
def movedExceptNora : List MappingCall :=
  [.addDomain .localhost ⟨"example.net", by rfl, by rfl⟩,
    .addAlias ⟨"nora", .localhost, rfl⟩ ⟨"otto", .localhost, rfl⟩]

/-- By mappings of domains alone, `nora` resolves to nothing, because her own mapping is chosen
before its kind is looked at. In the table without that mapping the one of her domain applies. -/
theorem not_resolved_as_ofKinds :
    (afterCalls {} movedExceptNora).resolveParts "nora" .localhost [.domain] = .ok [] ∧
      (afterCalls {} (movedExceptNora.filter
          fun c => c.mapping.kind ∈ [MappingKind.domain])).entries =
        [(.domain .localhost, [.domain ⟨"example.net", by rfl, by rfl⟩])] ∧
      (afterCalls {} (movedExceptNora.filter
          fun c => c.mapping.kind ∈ [MappingKind.domain])).resolveParts
        "nora" .localhost MappingKind.all =
          .ok [.address ⟨"nora", ⟨"example.net", by rfl, by rfl⟩, rfl⟩] := by
  refine ⟨by rfl, by rfl, by rfl⟩

end MappingTable

end MailRouting
