import MailRouting.Proofs.Mapping.Resolution

/-!
# What a mailbox resolves to

* `MappingTable.EndsAt` — the mailboxes at which the walk along the hops stops: those without rules
  and those that a rule of their own names again;
* `endsAt_iff` — the same by the first hop;
* `named_resolveWithin_iff` — a resolution names exactly these mailboxes;
* `exists_target_of_named` — each of them is the target of a mapping of a mailbox that was reached;
* `resolveParts_endpoints` — the same up to case, with what else a resolution looks like.
-/

namespace MailRouting.MappingTable

variable {t : MappingTable} {kinds : List MappingKind}

/-! ### Where the walk ends -/

/-- The walk from `a` ends at `b`: it comes there by a hop and `b` has no rules, or it comes to a
mailbox that has a rule with itself as the target, written like `b`. -/
def EndsAt (t : MappingTable) (kinds : List MappingKind) (a b : Address) : Prop :=
  (∃ n, t.Chain kinds (n + 1) a b ∧ t.rules kinds b = []) ∨
    ∃ n y m, t.Chain kinds n a y ∧ m ∈ t.rules kinds y ∧ target? y m = some b ∧
      b.folded = y.folded

/-- The walk ends behind one of the mappings of `a`: at once if it names `a` again, else at its
target or behind that. -/
theorem endsAt_iff {a u : Address} :
    t.EndsAt kinds a u ↔
      ∃ m ∈ t.rules kinds a, ∃ b, target? a m = some b ∧
        ((b.folded = a.folded ∧ u = b) ∨
          (b.folded ≠ a.folded ∧ ((t.rules kinds b = [] ∧ u = b) ∨ t.EndsAt kinds b u))) := by
  constructor
  · rintro (⟨n, hchain, hu⟩ | ⟨n, y, m, hchain, hm, htarget, hfold⟩)
    · obtain ⟨b, ⟨m, hm, htarget, hne⟩, hrest⟩ := chain_succ_iff.1 hchain
      refine ⟨m, hm, b, htarget, .inr ⟨hne, ?_⟩⟩
      cases n with
      | zero =>
        obtain rfl := chain_zero_iff.1 hrest
        exact .inl ⟨hu, rfl⟩
      | succ n => exact .inr (.inl ⟨n, hrest, hu⟩)
    · cases n with
      | zero =>
        obtain rfl := chain_zero_iff.1 hchain
        exact ⟨m, hm, u, htarget, .inl ⟨hfold, rfl⟩⟩
      | succ n =>
        obtain ⟨b, ⟨m', hm', htarget', hne⟩, hrest⟩ := chain_succ_iff.1 hchain
        exact ⟨m', hm', b, htarget', .inr ⟨hne, .inr (.inr ⟨n, y, m, hrest, hm, htarget, hfold⟩)⟩⟩
  · rintro ⟨m, hm, b, htarget, ⟨hfold, rfl⟩ | ⟨hne, hb⟩⟩
    · exact .inr ⟨0, a, m, .none a, hm, htarget, hfold⟩
    · have hop : t.HopsTo kinds a b := ⟨m, hm, htarget, hne⟩
      rcases hb with ⟨hnil, rfl⟩ | ⟨n, hchain, hu⟩ | ⟨n, y, m', hchain, hm', htarget', hfold⟩
      · exact .inl ⟨0, .hop hop (.none u), hnil⟩
      · exact .inl ⟨n + 1, .hop hop hchain, hu⟩
      · exact .inr ⟨n + 1, y, m', .hop hop hchain, hm', htarget', hfold⟩

/-! ### What a resolution names -/

theorem address?_leaf (m : Mapping) (b : Address) : (leaf m b).address? = some b := by
  cases m <;> rfl

/-- A mapping never comes to nothing. -/
theorem follow_ne_nil {next : Address → Except MappingError (List Mapping)} {a : Address}
    {m : Mapping} {rs : List Mapping} (h : follow next a m = .ok rs) : rs ≠ [] := by
  obtain ⟨b, _, ⟨_, rfl⟩ | ⟨_, ms, _, rfl⟩⟩ := follow_eq_ok_iff.1 h
  · exact List.cons_ne_nil _ _
  · by_cases hms : ms = []
    · rw [if_pos hms]
      exact List.cons_ne_nil _ _
    · rwa [if_neg hms]

/-- Only a mailbox without rules resolves to nothing. -/
theorem resolveWithin_eq_nil_iff {budget : Nat} {a : Address} {rs : List Mapping}
    (h : t.resolveWithin kinds budget a = .ok rs) : rs = [] ↔ t.rules kinds a = [] := by
  cases budget with
  | zero => cases h
  | succ budget =>
    obtain ⟨rss, hrules, rfl⟩ := resolveWithin_succ_eq_ok h
    constructor
    · intro hnil
      cases hms : t.rules kinds a with
      | nil => rfl
      | cons m ms =>
        have hm : m ∈ t.rules kinds a := by rw [hms]; exact List.mem_cons_self
        obtain ⟨r, hr, hfollow⟩ := exists_of_mem_of_mapM_eq_ok hrules hm
        exact absurd (List.flatten_eq_nil_iff.1 hnil r hr) (follow_ne_nil hfollow)
    · intro hnil
      rw [hnil] at hrules
      cases hrules
      rfl

/-- Every mapping that comes out names a mailbox. -/
theorem resolveWithin_isMailbox {budget : Nat} {a : Address} {rs : List Mapping} {x : Mapping}
    (h : t.resolveWithin kinds budget a = .ok rs) (hx : x ∈ rs) :
    ∃ u, x = .address u ∨ x = .alias u := by
  induction budget generalizing a rs with
  | zero => cases h
  | succ budget ih =>
    obtain ⟨rss, hrules, rfl⟩ := resolveWithin_succ_eq_ok h
    obtain ⟨r, hr, hxr⟩ := List.mem_flatten.1 hx
    obtain ⟨m, _, hfollow⟩ := exists_of_mapM_eq_ok_of_mem hrules hr
    obtain ⟨b, _, ⟨_, rfl⟩ | ⟨_, ms, hnext, rfl⟩⟩ := follow_eq_ok_iff.1 hfollow
    · exact ⟨b, .inl (List.mem_singleton.1 hxr)⟩
    · by_cases hms : ms = []
      · rw [if_pos hms, List.mem_singleton] at hxr
        cases m with
        | «alias» target => exact ⟨b, .inr hxr⟩
        | address target => exact ⟨b, .inl hxr⟩
        | domain d => exact ⟨b, .inl hxr⟩
        | error message => exact ⟨b, .inl hxr⟩
      · rw [if_neg hms] at hxr
        exact ih hnext hxr

/-- What one mapping names, if resolutions with the levels left behind it name where the walk
ends. -/
theorem named_follow_iff {budget : Nat} {a u : Address} {m : Mapping} {r : List Mapping}
    (ih : ∀ {b ms}, t.resolveWithin kinds budget b = .ok ms →
      ((∃ x ∈ ms, x.address? = some u) ↔ t.EndsAt kinds b u))
    (h : follow (t.resolveWithin kinds budget) a m = .ok r) :
    (∃ x ∈ r, x.address? = some u) ↔
      ∃ b, target? a m = some b ∧
        ((b.folded = a.folded ∧ u = b) ∨
          (b.folded ≠ a.folded ∧ ((t.rules kinds b = [] ∧ u = b) ∨ t.EndsAt kinds b u))) := by
  obtain ⟨b, htarget, hcase⟩ := follow_eq_ok_iff.1 h
  simp only [htarget, Option.some.injEq, exists_eq_left']
  rcases hcase with ⟨hfold, rfl⟩ | ⟨hne, ms, hnext, rfl⟩
  · simp [hfold, Mapping.address?, @eq_comm _ b u]
  · rw [← ih hnext, ← resolveWithin_eq_nil_iff hnext]
    by_cases hms : ms = []
    · simp [hne, hms, address?_leaf, @eq_comm _ b u]
    · simp [hne, hms]

/-- A resolution names exactly the mailboxes at which the walk ends. -/
theorem named_resolveWithin_iff {budget : Nat} {a u : Address} {rs : List Mapping}
    (h : t.resolveWithin kinds budget a = .ok rs) :
    (∃ x ∈ rs, x.address? = some u) ↔ t.EndsAt kinds a u := by
  induction budget generalizing a rs with
  | zero => cases h
  | succ budget ih =>
    obtain ⟨rss, hrules, rfl⟩ := resolveWithin_succ_eq_ok h
    rw [endsAt_iff]
    constructor
    · rintro ⟨x, hx, hxu⟩
      obtain ⟨r, hr, hxr⟩ := List.mem_flatten.1 hx
      obtain ⟨m, hm, hfollow⟩ := exists_of_mapM_eq_ok_of_mem hrules hr
      exact ⟨m, hm, (named_follow_iff ih hfollow).1 ⟨x, hxr, hxu⟩⟩
    · rintro ⟨m, hm, hends⟩
      obtain ⟨r, hr, hfollow⟩ := exists_of_mem_of_mapM_eq_ok hrules hm
      obtain ⟨x, hxr, hxu⟩ := (named_follow_iff ih hfollow).2 hends
      exact ⟨x, List.mem_flatten.2 ⟨r, hr, hxr⟩, hxu⟩

/-- What a resolution names is the target of a mapping of a mailbox that was reached. -/
theorem exists_target_of_named {budget : Nat} {a u : Address} {rs : List Mapping} {x : Mapping}
    (h : t.resolveWithin kinds budget a = .ok rs) (hx : x ∈ rs) (hu : x.address? = some u) :
    ∃ n y, t.Chain kinds n a y ∧ ∃ m ∈ t.rules kinds y, target? y m = some u := by
  rcases (named_resolveWithin_iff h).1 ⟨x, hx, hu⟩ with
    ⟨n, hchain, _⟩ | ⟨n, y, m, hchain, hm, htarget, _⟩
  · obtain ⟨y, hy, m, hm, htarget, _⟩ := hchain.last
    exact ⟨n, y, hy, m, hm, htarget⟩
  · exact ⟨n, y, hchain, m, hm, htarget⟩

/-! ### Up to case -/

/-- Up to case, the walk ends at `u` if it comes there by a hop and `u` has no rules, or if it
comes there at all and a rule of `u` has `u` as its target. -/
theorem exists_endsAt_folded_iff {a u : Address} :
    (∃ v, t.EndsAt kinds a v ∧ v.folded = u.folded) ↔
      (∃ n v, t.Chain kinds (n + 1) a v ∧ v.folded = u.folded ∧ t.rules kinds u = []) ∨
        ∃ n v, t.Chain kinds n a v ∧ v.folded = u.folded ∧
          ∃ m ∈ t.rules kinds u, ∃ w, target? u m = some w ∧ w.folded = u.folded := by
  constructor
  · rintro ⟨v, ⟨n, hchain, hv⟩ | ⟨n, y, m, hchain, hm, htarget, hfold⟩, hvu⟩
    · exact .inl ⟨n, v, hchain, hvu, by rwa [← rules_congr hvu]⟩
    · have hyu : y.folded = u.folded := hfold.symm.trans hvu
      obtain ⟨w, hw, hwv⟩ := target?_mirror hyu.symm htarget
      refine .inr ⟨n, y, hchain, hyu, m, ?_, w, hw, hwv.trans hvu⟩
      rwa [← rules_congr hyu]
  · rintro (⟨n, v, hchain, hvu, hu⟩ | ⟨n, v, hchain, hvu, m, hm, w, htarget, hwu⟩)
    · exact ⟨v, .inl ⟨n, hchain, by rwa [rules_congr hvu]⟩, hvu⟩
    · obtain ⟨w', hw', hww⟩ := target?_mirror hvu htarget
      have hwu' : w'.folded = u.folded := hww.trans hwu
      refine ⟨w', .inr ⟨n, v, m, hchain, ?_, hw', hwu'.trans hvu.symm⟩, hwu'⟩
      rwa [rules_congr hvu]

/-- If every mapping of a list names a mailbox, the first mailbox is that of its head. -/
theorem firstAddress?_eq_head? {ms : List Mapping}
    (h : ∀ m ∈ ms, ∃ u, m = .address u ∨ m = .alias u) :
    firstAddress? ms = ms.head?.bind Mapping.address? ∧ (firstAddress? ms = none ↔ ms = []) := by
  cases ms with
  | nil => exact ⟨rfl, iff_of_true rfl rfl⟩
  | cons m ms =>
    obtain ⟨u, rfl | rfl⟩ := h m List.mem_cons_self
    · exact ⟨rfl, iff_of_false nofun nofun⟩
    · exact ⟨rfl, iff_of_false nofun nofun⟩

/-- **What a mailbox resolves to.** Only mappings that name a mailbox come out, so that the first
one names the first mailbox; none comes out exactly if the mailbox has no rules. Up to case, the
mailboxes named are those without rules that a hop leads to, and those reached that have a rule with
themselves as its target: no end of the walk is lost, and nothing in between is named. -/
theorem resolveParts_endpoints {x : Address} {ms : List Mapping}
    (h : t.resolveParts x.localPart x.domain kinds = .ok ms) :
    (∀ m ∈ ms, ∃ u, m = .address u ∨ m = .alias u) ∧
      (firstAddress? ms = ms.head?.bind Mapping.address? ∧ (firstAddress? ms = none ↔ ms = [])) ∧
      (ms = [] ↔ t.rules kinds x = []) ∧
      ∀ u : Address, (∃ m ∈ ms, ∃ v, m.address? = some v ∧ v.folded = u.folded) ↔
        (∃ n v, t.Chain kinds (n + 1) x v ∧ v.folded = u.folded ∧ t.rules kinds u = []) ∨
          ∃ n v, t.Chain kinds n x v ∧ v.folded = u.folded ∧
            ∃ m ∈ t.rules kinds u, ∃ w, target? u m = some w ∧ w.folded = u.folded := by
  rw [resolveParts_eq_resolveWithin] at h
  have hmailbox : ∀ m ∈ ms, ∃ u, m = .address u ∨ m = .alias u :=
    fun m hm => resolveWithin_isMailbox h hm
  refine ⟨hmailbox, firstAddress?_eq_head? hmailbox, resolveWithin_eq_nil_iff h, fun u => ?_⟩
  rw [← exists_endsAt_folded_iff]
  constructor
  · rintro ⟨m, hm, v, hv, hvu⟩
    exact ⟨v, (named_resolveWithin_iff h).1 ⟨m, hm, hv⟩, hvu⟩
  · rintro ⟨v, hv, hvu⟩
    obtain ⟨m, hm, hmv⟩ := (named_resolveWithin_iff h).2 hv
    exact ⟨m, hm, v, hmv, hvu⟩

/-- A mailing list with two members, of which the first one keeps its own mail. -/
def listTable : MappingTable :=
  { recursionLimit := 2
    entries :=
      [(.address ⟨"list", .localhost, rfl⟩,
          [.alias ⟨"Bob", .localhost, rfl⟩, .address ⟨"carol", .localhost, rfl⟩]),
        (.address ⟨"bob", .localhost, rfl⟩, [.address ⟨"BOB", .localhost, rfl⟩])] }

theorem resolveParts_endpoints_listTable :
    listTable.resolveParts "list" .localhost MappingKind.all =
        .ok [.address ⟨"BOB", .localhost, rfl⟩, .address ⟨"carol", .localhost, rfl⟩] ∧
      ((∃ n v, listTable.Chain MappingKind.all (n + 1) ⟨"list", .localhost, rfl⟩ v ∧
          v.folded = Address.folded ⟨"bob", .localhost, rfl⟩ ∧
          listTable.rules MappingKind.all ⟨"bob", .localhost, rfl⟩ = []) ∨
        ∃ n v, listTable.Chain MappingKind.all n ⟨"list", .localhost, rfl⟩ v ∧
          v.folded = Address.folded ⟨"bob", .localhost, rfl⟩ ∧
          ∃ m ∈ listTable.rules MappingKind.all ⟨"bob", .localhost, rfl⟩, ∃ w,
            target? ⟨"bob", .localhost, rfl⟩ m = some w ∧
              w.folded = Address.folded ⟨"bob", .localhost, rfl⟩) := by
  have h : listTable.resolveParts "list" .localhost MappingKind.all =
      .ok [.address ⟨"BOB", .localhost, rfl⟩, .address ⟨"carol", .localhost, rfl⟩] := rfl
  obtain ⟨_, _, _, hnames⟩ := resolveParts_endpoints (x := ⟨"list", .localhost, rfl⟩) h
  exact ⟨h, (hnames ⟨"bob", .localhost, rfl⟩).1
    ⟨_, List.mem_cons_self, ⟨"BOB", .localhost, rfl⟩, rfl, rfl⟩⟩

end MailRouting.MappingTable
