import MailRouting.Proofs.Mapping.Hops
import MailRouting.Proofs.Traversal

/-!
# When a mailbox resolves

* `MappingTable.follow`, `MappingTable.resolveWithin` — resolution without the record of its hops:
  what one mapping comes to, and what a mailbox comes to with so many levels left;
* `follow_eq_ok_iff`, `follow_eq_error_iff` — all that one mapping can come to;
* `resolveWithin_eq_error`, `resolveWithin_eq_ok_bounds` — what a failure and a success tell about
  the graph of hops;
* `resolveWithin_congr_of_chain` — only the rules of mailboxes in reach are read;
* `resolveParts_outcome` — a mailbox resolves exactly if no chain of hops from it is longer than
  the limit and nothing that it reaches is refused.
-/

namespace MailRouting.MappingTable

variable {t : MappingTable} {kinds : List MappingKind}

/-! ### Resolution without the record of hops -/

/-- What one mapping of the mailbox `a` comes to, `next` resolving the mailbox it leads to. -/
def follow (next : Address → Except MappingError (List Mapping)) (a : Address) (m : Mapping) :
    Except MappingError (List Mapping) :=
  match m with
  | .error message => .error (.errorMapping a message)
  | m =>
    match target? a m with
    | none => .ok []
    | some b =>
      if b.folded = a.folded then .ok [.address b]
      else
        match next b with
        | .ok [] => .ok [leaf m b]
        | result => result

/-- What the mailbox `a` comes to with `budget` levels left. -/
def resolveWithin (t : MappingTable) (kinds : List MappingKind) (budget : Nat) (a : Address) :
    Except MappingError (List Mapping) :=
  (t.explore kinds budget a).result

/-- Only a refusal leads nowhere. -/
theorem target?_eq_none_iff {a : Address} {m : Mapping} :
    target? a m = none ↔ ∃ message, m = .error message := by
  cases m <;> simp [target?]

/-- A mapping that leads somewhere makes a hop, whatever its kind. -/
theorem exploreMapping_of_target? {next : Address → Exploration} {a b : Address} {depth : Nat}
    {m : Mapping} (h : target? a m = some b) :
    exploreMapping next a depth m =
      .after ⟨a, b, depth⟩
        (if b.folded = a.folded then .found [.address b]
          else match (next b).result with
            | .ok [] => { next b with result := .ok [leaf m b] }
            | _ => next b) := by
  cases m <;> cases h <;> rfl

theorem follow_of_target? {next : Address → Except MappingError (List Mapping)} {a b : Address}
    {m : Mapping} (h : target? a m = some b) :
    follow next a m =
      if b.folded = a.folded then .ok [.address b]
      else match next b with
        | .ok [] => .ok [leaf m b]
        | result => result := by
  cases m <;> cases h <;> rfl

theorem exploreMapping_result (next : Address → Exploration) (a : Address) (depth : Nat)
    (m : Mapping) :
    (exploreMapping next a depth m).result = follow (fun b => (next b).result) a m := by
  cases htarget : target? a m with
  | none =>
    obtain ⟨message, rfl⟩ := target?_eq_none_iff.1 htarget
    rfl
  | some b =>
    rw [exploreMapping_of_target? htarget, follow_of_target? htarget]
    by_cases hfold : b.folded = a.folded
    · rw [if_pos hfold, if_pos hfold]
      rfl
    · rw [if_neg hfold, if_neg hfold]
      show (match (next b).result with
        | .ok [] => { next b with result := Except.ok [leaf m b] }
        | _ => next b).result = _
      split <;> simp_all

theorem exploreAll_result (next : Address → Exploration) (a : Address) (depth : Nat)
    (ms : List Mapping) :
    (exploreAll next a depth ms).result =
      (ms.mapM (follow (fun b => (next b).result) a)).map List.flatten := by
  induction ms with
  | nil => rfl
  | cons m ms ih =>
    rw [List.mapM_cons, exploreAll, Exploration.andThen, ← exploreMapping_result next a depth m]
    cases hm : (exploreMapping next a depth m).result with
    | error e => rfl
    | ok rs =>
      simp only [ih]
      cases ms.mapM (follow (fun b => (next b).result) a) with
      | error e => rfl
      | ok rss => rfl

theorem resolveWithin_succ (budget : Nat) (a : Address) :
    t.resolveWithin kinds (budget + 1) a =
      ((t.rules kinds a).mapM (follow (t.resolveWithin kinds budget) a)).map List.flatten :=
  exploreAll_result _ a _ _

/-- A mailbox is resolved with one level more than the hops that the limit allows. -/
theorem resolveParts_eq_resolveWithin (x : Address) :
    t.resolveParts x.localPart x.domain kinds =
      t.resolveWithin kinds (t.recursionLimit + 1) x := by
  rw [resolveParts, exploreParts, Address.ofParts_localPart_domain]
  rfl

/-! ### What one mapping comes to -/

section

variable {next : Address → Except MappingError (List Mapping)} {a b : Address} {m : Mapping}

theorem follow_error (message : String) :
    follow next a (.error message) = .error (.errorMapping a message) := rfl

/-- A mapping that leads to another mailbox comes to what that one comes to. -/
theorem follow_of_ne (h : target? a m = some b) (hne : b.folded ≠ a.folded) :
    follow next a m = (next b).map fun ms => if ms = [] then [leaf m b] else ms := by
  rw [follow_of_target? h, if_neg hne]
  rcases next b with e | _ | ⟨m', ms⟩
  · rfl
  · rfl
  · rfl

/-- What one mapping comes to hangs on what the mailbox comes to that it leads to, if it does. -/
theorem follow_congr {next' : Address → Except MappingError (List Mapping)}
    (h : ∀ b, target? a m = some b → b.folded ≠ a.folded → next' b = next b) :
    follow next' a m = follow next a m := by
  cases htarget : target? a m with
  | none =>
    obtain ⟨message, rfl⟩ := target?_eq_none_iff.1 htarget
    rfl
  | some b =>
    by_cases hself : b.folded = a.folded
    · rw [follow_of_target? htarget, follow_of_target? htarget, if_pos hself, if_pos hself]
    · rw [follow_of_ne htarget hself, follow_of_ne htarget hself, h b htarget hself]

/-- A mapping comes to something if it leads to its own mailbox, or to one that comes to something
itself; if that is nothing, its own target stands for it. -/
theorem follow_eq_ok_iff {rs : List Mapping} :
    follow next a m = .ok rs ↔
      ∃ b, target? a m = some b ∧
        ((b.folded = a.folded ∧ rs = [.address b]) ∨
          (b.folded ≠ a.folded ∧ ∃ ms, next b = .ok ms ∧
            rs = if ms = [] then [leaf m b] else ms)) := by
  cases h : target? a m with
  | none =>
    obtain ⟨message, rfl⟩ := target?_eq_none_iff.1 h
    simp [follow_error]
  | some b =>
    simp only [Option.some.injEq, exists_eq_left']
    by_cases hfold : b.folded = a.folded
    · rw [follow_of_target? h, if_pos hfold]
      simp [hfold, eq_comm]
    · rw [follow_of_ne h hfold]
      cases next b with
      | error e => simp [hfold, Except.map]
      | ok ms => simp [hfold, Except.map, eq_comm]

/-- A mapping fails if it refuses, or if what it leads to fails. -/
theorem follow_eq_error_iff {e : MappingError} :
    follow next a m = .error e ↔
      (∃ message, m = .error message ∧ e = .errorMapping a message) ∨
        ∃ b, target? a m = some b ∧ b.folded ≠ a.folded ∧ next b = .error e := by
  cases h : target? a m with
  | none =>
    obtain ⟨message, rfl⟩ := target?_eq_none_iff.1 h
    simp [follow_error, eq_comm]
  | some b =>
    have hm : ∀ message, m ≠ .error message := by
      rintro message rfl
      cases h
    simp only [hm, false_and, exists_false, false_or, Option.some.injEq, exists_eq_left']
    by_cases hfold : b.folded = a.folded
    · rw [follow_of_target? h, if_pos hfold]
      simp [hfold]
    · rw [follow_of_ne h hfold]
      cases next b with
      | error e' => simp [hfold, Except.map]
      | ok ms => simp [hfold, Except.map]

end

/-! ### What the outcome tells about the graph -/

/-- The outcomes of a mailbox are those of its rules. -/
theorem resolveWithin_succ_eq_ok {budget : Nat} {a : Address} {rs : List Mapping}
    (h : t.resolveWithin kinds (budget + 1) a = .ok rs) :
    ∃ rss, (t.rules kinds a).mapM (follow (t.resolveWithin kinds budget) a) = .ok rss ∧
      rss.flatten = rs := by
  rw [resolveWithin_succ] at h
  cases hms : (t.rules kinds a).mapM (follow (t.resolveWithin kinds budget) a) with
  | error e =>
    rw [hms] at h
    cases h
  | ok rss =>
    rw [hms] at h
    cases h
    exact ⟨rss, rfl, rfl⟩

/-- A failure comes from a rule that fails. -/
theorem resolveWithin_succ_eq_error {budget : Nat} {a : Address} {e : MappingError}
    (h : t.resolveWithin kinds (budget + 1) a = .error e) :
    ∃ m ∈ t.rules kinds a, follow (t.resolveWithin kinds budget) a m = .error e := by
  rw [resolveWithin_succ] at h
  cases hms : (t.rules kinds a).mapM (follow (t.resolveWithin kinds budget) a) with
  | error e' =>
    rw [hms] at h
    cases h
    exact exists_of_mapM_eq_error hms
  | ok rss =>
    rw [hms] at h
    cases h

/-- Where resolution fails, it has reached a mailbox that is refused, or it has made as many hops
as there were levels. -/
theorem resolveWithin_eq_error {budget : Nat} {a : Address} {e : MappingError}
    (h : t.resolveWithin kinds budget a = .error e) :
    (∃ n y message, n < budget ∧ t.Chain kinds n a y ∧ .error message ∈ t.rules kinds y ∧
        e = .errorMapping y message) ∨
      ∃ y, t.Chain kinds budget a y ∧ e = .tooManyMappings y t.recursionLimit := by
  induction budget generalizing a with
  | zero =>
    cases h
    exact .inr ⟨a, .none a, rfl⟩
  | succ budget ih =>
    obtain ⟨m, hm, hfail⟩ := resolveWithin_succ_eq_error h
    rcases follow_eq_error_iff.1 hfail with ⟨message, rfl, rfl⟩ | ⟨b, htarget, hne, hb⟩
    · exact .inl ⟨0, a, message, Nat.succ_pos budget, .none a, hm, rfl⟩
    · have hop : t.HopsTo kinds a b := ⟨m, hm, htarget, hne⟩
      rcases ih hb with ⟨n, y, message, hn, hchain, hy, rfl⟩ | ⟨y, hchain, rfl⟩
      · exact .inl ⟨n + 1, y, message, Nat.succ_lt_succ hn, .hop hop hchain, hy, rfl⟩
      · exact .inr ⟨y, .hop hop hchain, rfl⟩

/-- Where resolution succeeds, every chain of hops is shorter than the levels that there were, and
none of the mailboxes on it is refused. -/
theorem resolveWithin_eq_ok_bounds {budget n : Nat} {a y : Address} {rs : List Mapping}
    (h : t.resolveWithin kinds budget a = .ok rs) (hchain : t.Chain kinds n a y) :
    n < budget ∧ ∀ message, .error message ∉ t.rules kinds y := by
  induction budget generalizing n a rs with
  | zero => cases h
  | succ budget ih =>
    obtain ⟨rss, hrules, rfl⟩ := resolveWithin_succ_eq_ok h
    cases hchain with
    | none =>
      refine ⟨Nat.succ_pos budget, fun message hmem => ?_⟩
      obtain ⟨r, _, hr⟩ := exists_of_mem_of_mapM_eq_ok hrules hmem
      cases hr
    | hop hop hchain =>
      obtain ⟨m, hm, htarget, hne⟩ := hop
      obtain ⟨r, _, hr⟩ := exists_of_mem_of_mapM_eq_ok hrules hm
      obtain ⟨b, hb, hcase⟩ := follow_eq_ok_iff.1 hr
      cases htarget.symm.trans hb
      rcases hcase with ⟨heq, _⟩ | ⟨_, ms, hnext, _⟩
      · exact absurd heq hne
      · obtain ⟨hlt, hclean⟩ := ih hnext hchain
        exact ⟨Nat.succ_lt_succ hlt, hclean⟩

/-- Resolution reads the rules of the mailboxes that it reaches with the levels that it has, and no
others. -/
theorem resolveWithin_congr_of_chain {t' : MappingTable} {kinds' : List MappingKind}
    (hlimit : t'.recursionLimit = t.recursionLimit) {budget : Nat} {a : Address}
    (h : ∀ n y, n < budget → t.Chain kinds n a y → t'.rules kinds' y = t.rules kinds y) :
    t'.resolveWithin kinds' budget a = t.resolveWithin kinds budget a := by
  induction budget generalizing a with
  | zero =>
    show Except.error (MappingError.tooManyMappings a t'.recursionLimit) = _
    rw [hlimit]
    rfl
  | succ budget ih =>
    rw [resolveWithin_succ, resolveWithin_succ, h 0 a (Nat.succ_pos budget) (.none a)]
    have hfollow : ∀ m ∈ t.rules kinds a, follow (t'.resolveWithin kinds' budget) a m =
        follow (t.resolveWithin kinds budget) a m := by
      refine fun m hm => follow_congr fun b htarget hne => ih fun n y hn hchain => ?_
      exact h (n + 1) y (Nat.succ_lt_succ hn) (.hop ⟨m, hm, htarget, hne⟩ hchain)
    rw [mapM_congr hfollow]

/-- **When a mailbox resolves.** It does exactly if every chain of hops from it has at most as many
hops as the limit says and no mailbox on such a chain is refused. So a loop in reach never resolves.
The error names a mailbox that is refused within the limit, or one that is a hop past it. -/
theorem resolveParts_outcome (t : MappingTable) (kinds : List MappingKind) (x : Address) :
    ((∃ ms, t.resolveParts x.localPart x.domain kinds = .ok ms) ↔
        (∀ n y, t.Chain kinds n x y → n ≤ t.recursionLimit) ∧
          ∀ n y message, t.Chain kinds n x y → Mapping.error message ∉ t.rules kinds y) ∧
      (∀ n y k z, t.Chain kinds n x y → t.Chain kinds (k + 1) y z → z.folded = y.folded →
        ∃ e, t.resolveParts x.localPart x.domain kinds = .error e) ∧
      ∀ e, t.resolveParts x.localPart x.domain kinds = .error e →
        (∃ n y message, n ≤ t.recursionLimit ∧ t.Chain kinds n x y ∧
            Mapping.error message ∈ t.rules kinds y ∧ e = .errorMapping y message) ∨
          ∃ y, t.Chain kinds (t.recursionLimit + 1) x y ∧
            e = .tooManyMappings y t.recursionLimit := by
  rw [resolveParts_eq_resolveWithin]
  refine ⟨⟨?_, ?_⟩, ?_, ?_⟩
  · rintro ⟨ms, h⟩
    refine ⟨fun n y hchain => ?_, fun n y message hchain => ?_⟩
    · exact Nat.lt_succ_iff.1 (resolveWithin_eq_ok_bounds h hchain).1
    · exact (resolveWithin_eq_ok_bounds h hchain).2 message
  · rintro ⟨hbound, hclean⟩
    cases h : t.resolveWithin kinds (t.recursionLimit + 1) x with
    | ok ms => exact ⟨ms, rfl⟩
    | error e =>
      rcases resolveWithin_eq_error h with ⟨n, y, message, _, hchain, hy, _⟩ | ⟨y, hchain, _⟩
      · exact absurd hy (hclean n y message hchain)
      · exact absurd (hbound _ y hchain) (Nat.not_succ_le_self _)
  · intro n y k z hxy hyz hz
    cases h : t.resolveWithin kinds (t.recursionLimit + 1) x with
    | error e => exact ⟨e, rfl⟩
    | ok ms =>
      obtain ⟨n', w, hlt, hyw⟩ := hyz.exists_longer hz (t.recursionLimit + 1)
      have hle := (resolveWithin_eq_ok_bounds h (hxy.append hyw)).1
      omega
  · intro e h
    rcases resolveWithin_eq_error h with ⟨n, y, message, hn, hchain, hy, he⟩ | hlong
    · exact .inl ⟨n, y, message, Nat.lt_succ_iff.1 hn, hchain, hy, he⟩
    · exact .inr hlong

end MailRouting.MappingTable
