import MailRouting.Proofs.Mapping.Kinds

/-!
# Rules out of reach

For a mailbox, a resolution looks up two sources at most: the mailbox itself, in lower case, and its
domain if the mailbox has no mappings of its own. So only the rules of these sources matter, for the
mailboxes that the resolution reaches.

* `MappingTable.OutOfReach` — a source that is looked up for none of the mailboxes in reach;
* `MappingTable.outOfReach_of_closed` — it is enough to look at some mailboxes that no hop leads out
  of;
* `Represents.entry?_next_of_ne`, `Represents.stored_next_of_ne` — what a call leaves as it is;
* `chain_of_rules_eq` — tables with the same rules in reach have the same mailboxes in reach;
* `OutOfReach.rules_next`, `OutOfReach.next` — what one call about a source out of reach does to the
  rules in reach, and to what is out of reach;
* `resolveParts_of_outOfReach` — what any number of such calls do to a resolution.
-/

namespace MailRouting.MappingTable

variable {t t' : MappingTable} {rs : RuleList} {kinds : List MappingKind} {x : Address}
  {source : MappingSource} {c : MappingCall}

/-! ### Reach -/

/-- The source is looked up for no mailbox that is reached within the limit: it is none of these
mailboxes in lower case, and where it is the domain of one, that one has mappings of its own. -/
structure OutOfReach (t : MappingTable) (kinds : List MappingKind) (x : Address)
    (source : MappingSource) : Prop where
  ne_mailbox : ∀ n y, n ≤ t.recursionLimit → t.Chain kinds n x y → source ≠ .address y.folded
  has_own : ∀ n y, n ≤ t.recursionLimit → t.Chain kinds n x y → source = .domain y.domain →
    (t.entry? (.address y.folded)).isSome = true

theorem outOfReach_of_closed {S : List Address} (hx : x ∈ S)
    (hclosed : ∀ a ∈ S, ∀ b, t.HopsTo kinds a b → b ∈ S)
    (hmailbox : ∀ a ∈ S, source ≠ .address a.folded)
    (hown : ∀ a ∈ S, source = .domain a.domain →
      (t.entry? (.address a.folded)).isSome = true) :
    t.OutOfReach kinds x source := by
  constructor
  · intro n y _ hchain
    exact hmailbox y (hchain.mem_of_closed hclosed hx)
  · intro n y _ hchain
    exact hown y (hchain.mem_of_closed hclosed hx)

/-- Where the rules of the mailboxes in reach are the same, no other mailboxes are in reach. -/
theorem chain_of_rules_eq {k : Nat}
    (hrules : ∀ n y, n < k → t.Chain kinds n x y → t'.rules kinds y = t.rules kinds y) {n : Nat}
    {y : Address} (hn : n ≤ k) (hchain : t'.Chain kinds n x y) : t.Chain kinds n x y := by
  induction n generalizing y with
  | zero =>
    rw [chain_zero_iff] at hchain ⊢
    exact hchain
  | succ n ih =>
    obtain ⟨b, hb, m, hm, htarget, hne⟩ := hchain.last
    have hreach : t.Chain kinds n x b := ih (by omega) hb
    rw [hrules n b (by omega) hreach] at hm
    have hop : t.HopsTo kinds b y := ⟨m, hm, htarget, hne⟩
    exact hreach.append (.hop hop (.none y))

/-! ### One call -/

theorem Represents.entry?_next_of_ne (h : t.Represents rs) (hne : c.key ≠ source) :
    entry? (t.next c) source = t.entry? source := by
  rw [(h.next c).entry_eq, h.entry_eq, RuleList.mappings_next_of_ne hne]

/-- A call about another source leaves the mappings that apply to a mailbox as they are. So does one
about its domain, if the mailbox has mappings of its own. -/
theorem Represents.stored_next_of_ne (h : t.Represents rs) {y : Address}
    (hmailbox : c.key ≠ .address y.folded)
    (hown : c.key = .domain y.domain → (t.entry? (.address y.folded)).isSome = true) :
    stored (t.next c) y = t.stored y := by
  have hentry := h.entry?_next_of_ne hmailbox
  unfold stored
  rw [hentry]
  cases hnone : t.entry? (.address y.folded) with
  | some ms => rfl
  | none =>
    have hdomain : c.key ≠ .domain y.domain := by
      intro heq
      have hsome := hown heq
      rw [hnone] at hsome
      cases hsome
    simp only [h.entry?_next_of_ne hdomain]

theorem OutOfReach.rules_next (h : t.Represents rs) (hout : t.OutOfReach kinds x c.key) {n : Nat}
    {y : Address} (hn : n ≤ t.recursionLimit) (hchain : t.Chain kinds n x y) :
    rules (t.next c) kinds y = t.rules kinds y := by
  rw [rules, rules,
    h.stored_next_of_ne (hout.ne_mailbox n y hn hchain) (hout.has_own n y hn hchain)]

/-- A call about a source out of reach brings no source in reach. -/
theorem OutOfReach.next (h : t.Represents rs) (hcall : t.OutOfReach kinds x c.key)
    (hout : t.OutOfReach kinds x source) : OutOfReach (t.next c) kinds x source := by
  have hreach : ∀ n y, n ≤ t.recursionLimit → Chain (t.next c) kinds n x y →
      t.Chain kinds n x y := by
    intro n y hn hchain
    refine chain_of_rules_eq ?_ hn hchain
    intro n y hn hchain
    exact hcall.rules_next h (Nat.le_of_lt hn) hchain
  constructor
  · intro n y hn hchain
    rw [recursionLimit_next] at hn
    exact hout.ne_mailbox n y hn (hreach n y hn hchain)
  · intro n y hn hchain hdomain
    rw [recursionLimit_next] at hn
    rw [h.entry?_next_of_ne (hcall.ne_mailbox n y hn (hreach n y hn hchain))]
    exact hout.has_own n y hn (hreach n y hn hchain) hdomain

theorem OutOfReach.resolveParts_next (h : t.Represents rs) (hout : t.OutOfReach kinds x c.key) :
    resolveParts (t.next c) x.localPart x.domain kinds =
      t.resolveParts x.localPart x.domain kinds := by
  have hlimit := recursionLimit_next t c
  rw [resolveParts_eq_resolveWithin, resolveParts_eq_resolveWithin, hlimit]
  refine resolveWithin_congr_of_chain hlimit ?_
  intro n y hn hchain
  exact hout.rules_next h (Nat.lt_succ_iff.1 hn) hchain

/-! ### Any number of calls -/

theorem resolveParts_foldl (h : t.Represents rs) {changes : List MappingCall}
    (hout : ∀ c ∈ changes, t.OutOfReach kinds x c.key) :
    resolveParts (changes.foldl next t) x.localPart x.domain kinds =
      t.resolveParts x.localPart x.domain kinds := by
  induction changes generalizing t rs with
  | nil => rfl
  | cons c changes ih =>
    obtain ⟨hcall, hrest⟩ := List.forall_mem_cons.1 hout
    rw [List.foldl_cons, ih (h.next c), hcall.resolveParts_next h]
    intro c' hc'
    exact hcall.next h (hrest c' hc')

/-- **Rules out of reach do not matter.** Take a mailbox, and the mailboxes that it reaches within
the limit by rules of some kinds, itself included. Let a call add a mapping to a source or remove
one from it, the source taken in lower case as the table keeps it, and let that be none of these
mailboxes in lower case, nor the domain of one that has no mappings of its own. Whether the call
succeeds or not, the mailbox resolves as before, to the same mappings or with the same error; and so
it does after any number of such calls. -/
theorem resolveParts_of_outOfReach (config : MappingConfig) (calls changes : List MappingCall)
    (kinds : List MappingKind) (x : Address)
    (hout : ∀ c ∈ changes, (afterCalls config calls).OutOfReach kinds x c.key) :
    (afterCalls config (calls ++ changes)).resolveParts x.localPart x.domain kinds =
      (afterCalls config calls).resolveParts x.localPart x.domain kinds := by
  have hafter : afterCalls config (calls ++ changes) =
      changes.foldl next (afterCalls config calls) := List.foldl_append
  rw [hafter]
  exact resolveParts_foldl (represents_foldl (represents_ofConfig config) calls) hout

/-- The domain in which `mira` has another name. -/
def relayDomain : Domain :=
  ⟨"relay.example", by rfl, by rfl⟩

/-- `mira` and her other name. -/
def miraAndNoah : List Address :=
  [⟨"mira", .localhost, rfl⟩, ⟨"noah", relayDomain, rfl⟩]

/-- Mail for `mira` goes to `noah`. -/
def miraElsewhere : List MappingCall :=
  [.addAlias ⟨"mira", .localhost, rfl⟩ ⟨"noah", relayDomain, rfl⟩]

/-- Mail for `zoe` is refused, and the domain moves. -/
def movedExceptMira : List MappingCall :=
  [.addError ⟨"Zoe", .localhost, rfl⟩ "gone", .addDomain .localhost relayDomain]

theorem resolveParts_of_outOfReach_mira :
    (∀ c ∈ movedExceptMira, (afterCalls {} miraElsewhere).OutOfReach MappingKind.all
      ⟨"mira", .localhost, rfl⟩ c.key) ∧
    (afterCalls {} (miraElsewhere ++ movedExceptMira)).resolveParts "zoe" .localhost
      MappingKind.all = .error (.errorMapping ⟨"zoe", .localhost, rfl⟩ "gone") ∧
    (afterCalls {} (miraElsewhere ++ movedExceptMira)).resolveParts "mira" .localhost
      MappingKind.all = .ok [.alias ⟨"noah", relayDomain, rfl⟩] := by
  have hclosed : ∀ a ∈ miraAndNoah, ∀ b,
      HopsTo (afterCalls {} miraElsewhere) MappingKind.all a b → b ∈ miraAndNoah :=
    mem_of_hopsTo_of_targets (by decide)
  have hout : ∀ c ∈ movedExceptMira, (afterCalls {} miraElsewhere).OutOfReach MappingKind.all
      ⟨"mira", .localhost, rfl⟩ c.key := by
    intro c hc
    refine outOfReach_of_closed List.mem_cons_self hclosed ?_ ?_
    · revert c
      decide
    · revert c
      decide
  exact ⟨hout, rfl, resolveParts_of_outOfReach {} miraElsewhere movedExceptMira MappingKind.all
    ⟨"mira", .localhost, rfl⟩ hout⟩

end MailRouting.MappingTable
