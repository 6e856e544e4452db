import MailRouting.Mapping.Resolution

/-!
# Hops from mailbox to mailbox

The graph that resolution walks, stated without it: the mailboxes are its vertices, and every
mapping that leads from one to another is an edge.

* `MappingTable.HopsTo` — one mapping leads from a mailbox to another one;
* `MappingTable.Chain` — so many hops in a row;
* `rules_congr`, `HopsTo.mirror`, `Chain.mirror` — mailboxes whose local parts differ in case only
  have the same rules, and what starts at one of them starts at the other;
* `Chain.last`, `Chain.mem_of_closed` — a chain is taken apart at its end, and stays among mailboxes
  that no hop leads out of;
* `Chain.exists_longer` — a chain that comes back to its start goes on for ever.
-/

namespace MailRouting

/-! ### Mailboxes in folded form -/

theorem Address.ofParts_of_check {s : String} {d : Domain}
    (h : LocalPart.check s.toList = .ok ()) : Address.ofParts s d = .ok ⟨s, d, h⟩ :=
  Address.ofParts_localPart_domain ⟨s, d, h⟩

theorem Address.ofParts_of_check_error {s : String} {d : Domain} {e : AddressError}
    (h : LocalPart.check s.toList = .error e) : Address.ofParts s d = .error e := by
  unfold Address.ofParts
  split
  · rename_i h'
    rw [h] at h'
    cases h'
  · rename_i e' h'
    rw [h] at h'
    cases h'
    rfl

/-- The local part of a mailbox in lower case. -/
def Address.lowered (a : Address) : String :=
  String.ofList (Text.lowercase a.localPart.toList)

theorem Address.folded_of_check {a : Address} (h : LocalPart.check a.lowered.toList = .ok ()) :
    a.folded = ⟨a.lowered, a.domain, h⟩ := by
  have hparts : Address.ofParts (String.ofList (Text.lowercase a.localPart.toList)) a.domain =
      .ok ⟨a.lowered, a.domain, h⟩ := Address.ofParts_of_check h
  rw [Address.folded, hparts]

theorem Address.folded_of_check_error {a : Address} {e : AddressError}
    (h : LocalPart.check a.lowered.toList = .error e) : a.folded = a := by
  have hparts : Address.ofParts (String.ofList (Text.lowercase a.localPart.toList)) a.domain =
      .error e := Address.ofParts_of_check_error h
  rw [Address.folded, hparts]

/-- Folding keeps the domain. -/
theorem Address.domain_folded (a : Address) : a.folded.domain = a.domain := by
  cases h : LocalPart.check a.lowered.toList with
  | ok u => rw [Address.folded_of_check h]
  | error e => rw [Address.folded_of_check_error h]

/-- Folding looks at the local part alone: in another domain it does the same. -/
theorem Address.folded_withDomain (a : Address) (d : Domain) :
    (a.withDomain d).folded = a.folded.withDomain d := by
  cases h : LocalPart.check a.lowered.toList with
  | ok u =>
    have h' : LocalPart.check (a.withDomain d).lowered.toList = .ok u := h
    rw [Address.folded_of_check h, Address.folded_of_check h']
    rfl
  | error e =>
    have h' : LocalPart.check (a.withDomain d).lowered.toList = .error e := h
    rw [Address.folded_of_check_error h, Address.folded_of_check_error h']

namespace MappingTable

variable {t : MappingTable} {kinds : List MappingKind}

/-- Mailboxes of one folded form have the same rules. -/
theorem rules_congr {a b : Address} (h : a.folded = b.folded) :
    t.rules kinds a = t.rules kinds b := by
  have hdomain : a.domain = b.domain := by
    rw [← a.domain_folded, ← b.domain_folded, h]
  simp only [rules, stored, h, hdomain]

/-- One mapping leads mailboxes of one folded form to mailboxes of one folded form. -/
theorem target?_mirror {a a' b : Address} {m : Mapping} (h : a'.folded = a.folded)
    (hb : target? a m = some b) : ∃ b', target? a' m = some b' ∧ b'.folded = b.folded := by
  cases m with
  | address target => exact ⟨b, hb, rfl⟩
  | «alias» target => exact ⟨b, hb, rfl⟩
  | domain d =>
    simp only [target?, Option.some.injEq] at hb
    refine ⟨a'.withDomain d, rfl, ?_⟩
    rw [← hb, Address.folded_withDomain, Address.folded_withDomain, h]
  | error message => cases hb

/-! ### Hops and chains of hops -/

/-- A mapping leads from `a` to `b`, and that is another mailbox, case aside. -/
def HopsTo (t : MappingTable) (kinds : List MappingKind) (a b : Address) : Prop :=
  ∃ m ∈ t.rules kinds a, target? a m = some b ∧ b.folded ≠ a.folded

/-- So many hops in a row lead from one mailbox to another. -/
inductive Chain (t : MappingTable) (kinds : List MappingKind) : Nat → Address → Address → Prop where
  | none (a : Address) : Chain t kinds 0 a a
  | hop {n : Nat} {a b c : Address} :
      t.HopsTo kinds a b → Chain t kinds n b c → Chain t kinds (n + 1) a c

theorem Chain.append {m n : Nat} {a b c : Address} (hab : t.Chain kinds m a b)
    (hbc : t.Chain kinds n b c) : t.Chain kinds (m + n) a c := by
  induction hab with
  | none a => rwa [Nat.zero_add]
  | hop h _ ih =>
    rw [Nat.succ_add]
    exact .hop h (ih hbc)

/-- A chain without hops stays where it is. -/
theorem chain_zero_iff {a b : Address} : t.Chain kinds 0 a b ↔ a = b := by
  constructor
  · intro h
    cases h
    rfl
  · rintro rfl
    exact .none a

/-- A chain with a hop starts with one. -/
theorem chain_succ_iff {n : Nat} {a c : Address} :
    t.Chain kinds (n + 1) a c ↔ ∃ b, t.HopsTo kinds a b ∧ t.Chain kinds n b c := by
  constructor
  · intro h
    cases h with
    | hop h h' => exact ⟨_, h, h'⟩
  · rintro ⟨b, h, h'⟩
    exact .hop h h'

/-- A chain with a hop ends with one. -/
theorem Chain.last {n : Nat} {a c : Address} (h : t.Chain kinds (n + 1) a c) :
    ∃ b, t.Chain kinds n a b ∧ t.HopsTo kinds b c := by
  induction n generalizing a with
  | zero =>
    obtain ⟨b, hop, hrest⟩ := chain_succ_iff.1 h
    obtain rfl := chain_zero_iff.1 hrest
    exact ⟨a, .none a, hop⟩
  | succ n ih =>
    obtain ⟨b, hop, hrest⟩ := chain_succ_iff.1 h
    obtain ⟨y, hchain, hlast⟩ := ih hrest
    exact ⟨y, .hop hop hchain, hlast⟩

/-- No hop leads out of some mailboxes if none of their rules has a target elsewhere. -/
theorem mem_of_hopsTo_of_targets {S : List Address}
    (htargets : ∀ a ∈ S, ∀ m ∈ t.rules kinds a, (target? a m).all fun b => b ∈ S) :
    ∀ a ∈ S, ∀ b, t.HopsTo kinds a b → b ∈ S := by
  intro a ha b hop
  obtain ⟨m, hm, htarget, _⟩ := hop
  have hb := htargets a ha m hm
  rw [htarget] at hb
  exact of_decide_eq_true hb

/-- Mailboxes that no hop leads out of hold all that is reached from one of them. -/
theorem Chain.mem_of_closed {S : List Address}
    (hclosed : ∀ a ∈ S, ∀ b, t.HopsTo kinds a b → b ∈ S) {n : Nat} {a b : Address}
    (h : t.Chain kinds n a b) (ha : a ∈ S) : b ∈ S := by
  induction h with
  | none a => exact ha
  | hop hop _ ih => exact ih (hclosed _ ha _ hop)

/-! ### Case does not matter -/

theorem HopsTo.mirror {a a' b : Address} (h : a'.folded = a.folded) (hab : t.HopsTo kinds a b) :
    ∃ b', t.HopsTo kinds a' b' ∧ b'.folded = b.folded := by
  obtain ⟨m, hm, htarget, hne⟩ := hab
  obtain ⟨b', htarget', hb'⟩ := target?_mirror h htarget
  refine ⟨b', ⟨m, ?_, htarget', ?_⟩, hb'⟩
  · rwa [rules_congr h]
  · rwa [hb', h]

theorem Chain.mirror {n : Nat} {a a' b : Address} (h : a'.folded = a.folded)
    (hab : t.Chain kinds n a b) : ∃ b', t.Chain kinds n a' b' ∧ b'.folded = b.folded := by
  induction hab generalizing a' with
  | none a => exact ⟨a', .none a', h⟩
  | hop hop _ ih =>
    obtain ⟨b', hop', hb'⟩ := hop.mirror h
    obtain ⟨c', hchain, hc'⟩ := ih hb'
    exact ⟨c', .hop hop' hchain, hc'⟩

/-- A chain that comes back to the mailbox where it started can be walked again and again, so that
no number bounds the chains from there. -/
theorem Chain.exists_longer {k : Nat} {a z : Address} (h : t.Chain kinds (k + 1) a z)
    (hz : z.folded = a.folded) (bound : Nat) : ∃ n w, bound < n ∧ t.Chain kinds n a w := by
  suffices ∃ n w, bound < n ∧ t.Chain kinds n a w ∧ w.folded = a.folded by
    obtain ⟨n, w, hn, hw, _⟩ := this
    exact ⟨n, w, hn, hw⟩
  induction bound with
  | zero => exact ⟨k + 1, z, Nat.succ_pos k, h, hz⟩
  | succ bound ih =>
    obtain ⟨n, w, hn, hw, hfold⟩ := ih
    obtain ⟨w', hw', hfold'⟩ := h.mirror hfold
    exact ⟨n + (k + 1), w', by omega, hw.append hw', hfold'.trans hz⟩

end MappingTable

end MailRouting
