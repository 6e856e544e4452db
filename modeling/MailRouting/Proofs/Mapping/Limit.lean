import MailRouting.Proofs.Mapping.Rules
import MailRouting.Proofs.Mapping.Resolution

/-!
# Resolution under another limit

A higher limit leaves more levels for the same walk. It meets the same rules in the same order, so
that it comes to something else only where the lower limit has cut the walk off.

* `Decided` — the walk was not cut off: mailboxes came out, or one was refused;
* `follow_eq_of_decided`, `resolveWithin_eq_of_decided` — what is decided stays as it is with more
  levels: one mapping, and a mailbox by induction on its levels;
* `resolveParts_of_limit_le` — the resolutions of two tables with the same rules.
-/

namespace MailRouting

/-- The error is one that more levels do not avert. -/
def MappingError.IsFinal : MappingError → Prop
  | .tooManyMappings _ _ => False
  | _ => True

namespace MappingTable

variable {t t' : MappingTable} {kinds : List MappingKind}

/-- The resolution succeeds, or fails for another reason than the limit. -/
abbrev Decided (r : Except MappingError (List Mapping)) : Prop :=
  OkOr MappingError.IsFinal r

/-- What one mapping comes to, if that is decided, hangs on decided resolutions alone. -/
theorem follow_eq_of_decided {next next' : Address → Except MappingError (List Mapping)}
    (hnext : ∀ b, Decided (next b) → next' b = next b) {a : Address} {m : Mapping}
    (h : Decided (follow next a m)) : follow next' a m = follow next a m := by
  refine follow_congr fun b htarget hne => hnext b ?_
  rw [follow_of_ne htarget hne] at h
  exact okOr_map_iff.1 h

/-- A mailbox that is decided with so many levels comes to the same with more of them, in every
table that has the same rules. -/
theorem resolveWithin_eq_of_decided (hrules : ∀ a, t'.rules kinds a = t.rules kinds a)
    {budget budget' : Nat} (hle : budget ≤ budget') {a : Address}
    (h : Decided (t.resolveWithin kinds budget a)) :
    t'.resolveWithin kinds budget' a = t.resolveWithin kinds budget a := by
  induction budget generalizing budget' a with
  | zero => exact h.elim
  | succ budget ih =>
    obtain ⟨more, rfl⟩ := Nat.exists_eq_add_of_le' hle
    rw [← Nat.add_assoc, resolveWithin_succ, resolveWithin_succ, hrules]
    rw [resolveWithin_succ] at h
    have hfollow : ∀ m ∈ t.rules kinds a, Decided (follow (t.resolveWithin kinds budget) a m) →
        follow (t'.resolveWithin kinds (more + budget)) a m =
          follow (t.resolveWithin kinds budget) a m :=
      fun m _ => follow_eq_of_decided fun b => ih (Nat.le_add_left budget more)
    rw [mapM_eq_of_okOr hfollow (okOr_map_iff.1 h)]

/-- The resolution of any text as local part in any domain. -/
theorem resolveParts_eq_of_decided (hrules : ∀ a, t'.rules kinds a = t.rules kinds a)
    (hlimit : t.recursionLimit ≤ t'.recursionLimit) {localPart : String} {d : Domain}
    (h : Decided (t.resolveParts localPart d kinds)) :
    t'.resolveParts localPart d kinds = t.resolveParts localPart d kinds := by
  unfold resolveParts exploreParts at h ⊢
  cases hparts : Address.ofParts localPart d with
  | error e => rfl
  | ok a =>
    rw [hparts] at h
    exact resolveWithin_eq_of_decided hrules (Nat.succ_le_succ hlimit) h

/-- A resolution that is not decided has met the limit of its table. -/
theorem decided_or_tooManyMappings (t : MappingTable) (kinds : List MappingKind)
    (localPart : String) (d : Domain) :
    Decided (t.resolveParts localPart d kinds) ∨
      ∃ y, t.resolveParts localPart d kinds = .error (.tooManyMappings y t.recursionLimit) := by
  unfold resolveParts exploreParts
  cases Address.ofParts localPart d with
  | error e => exact .inl trivial
  | ok a =>
    show Decided (t.resolveWithin kinds (t.recursionLimit + 1) a) ∨ ∃ y,
      t.resolveWithin kinds (t.recursionLimit + 1) a = .error (.tooManyMappings y t.recursionLimit)
    cases h : t.resolveWithin kinds (t.recursionLimit + 1) a with
    | ok ms => exact .inl trivial
    | error e =>
      rcases resolveWithin_eq_error h with ⟨_, y, message, _, _, _, rfl⟩ | ⟨y, _, rfl⟩
      · exact .inl trivial
      · exact .inr ⟨y, rfl⟩

/-- **A higher limit.** Let two tables have the same mappings for every source, the second one a
limit that is not lower. What resolves under the lower limit, or is refused, comes to the same
under the higher one, for the same mailbox and with the same message. What resolves under the higher
limit comes to the same under the lower one, or passes that. -/
theorem resolveParts_of_limit_le (hentries : ∀ source, t.entry? source = t'.entry? source)
    (hlimit : t.recursionLimit ≤ t'.recursionLimit) (kinds : List MappingKind) (localPart : String)
    (d : Domain) :
    (∀ ms, t.resolveParts localPart d kinds = .ok ms →
      t'.resolveParts localPart d kinds = .ok ms) ∧
    (∀ y message, t.resolveParts localPart d kinds = .error (.errorMapping y message) →
      t'.resolveParts localPart d kinds = .error (.errorMapping y message)) ∧
    ∀ ms, t'.resolveParts localPart d kinds = .ok ms →
      t.resolveParts localPart d kinds = .ok ms ∨
        ∃ y, t.resolveParts localPart d kinds = .error (.tooManyMappings y t.recursionLimit) := by
  have hrules (a : Address) : t'.rules kinds a = t.rules kinds a := by
    rw [rules, rules, stored_congr hentries]
  refine ⟨fun ms h => ?_, fun y message h => ?_, fun ms h => ?_⟩
  · have hdecided : Decided (t.resolveParts localPart d kinds) := by
      rw [h]
      trivial
    rw [resolveParts_eq_of_decided hrules hlimit hdecided, h]
  · have hdecided : Decided (t.resolveParts localPart d kinds) := by
      rw [h]
      trivial
    rw [resolveParts_eq_of_decided hrules hlimit hdecided, h]
  · refine (decided_or_tooManyMappings t kinds localPart d).imp_left fun hdecided => ?_
    rw [← resolveParts_eq_of_decided hrules hlimit hdecided, h]

/-- Mail for `ines` goes to `jon` and on to `kim`, and mail for `lea` is refused. -/
def relayTable (limit : Nat) : MappingTable :=
  { recursionLimit := limit
    entries :=
      [(.address ⟨"ines", .localhost, rfl⟩, [.alias ⟨"jon", .localhost, rfl⟩]),
        (.address ⟨"jon", .localhost, rfl⟩, [.address ⟨"kim", .localhost, rfl⟩]),
        (.address ⟨"lea", .localhost, rfl⟩, [.error "gone"])] }

theorem resolveParts_of_limit_le_relayTable :
    (∀ source, entry? (relayTable 2) source = entry? (relayTable 3) source) ∧
      (relayTable 2).recursionLimit ≤ (relayTable 3).recursionLimit ∧
      (relayTable 1).resolveParts "ines" .localhost MappingKind.all =
        .error (.tooManyMappings ⟨"kim", .localhost, rfl⟩ 1) ∧
      (relayTable 3).resolveParts "ines" .localhost MappingKind.all =
        .ok [.address ⟨"kim", .localhost, rfl⟩] ∧
      (relayTable 3).resolveParts "lea" .localhost MappingKind.all =
        .error (.errorMapping ⟨"lea", .localhost, rfl⟩ "gone") := by
  have hentries : ∀ source, entry? (relayTable 2) source = entry? (relayTable 3) source :=
    fun _ => rfl
  have hlimit : (relayTable 2).recursionLimit ≤ (relayTable 3).recursionLimit := by decide
  obtain ⟨hines, _, _⟩ := resolveParts_of_limit_le hentries hlimit MappingKind.all "ines" .localhost
  obtain ⟨_, hlea, _⟩ := resolveParts_of_limit_le hentries hlimit MappingKind.all "lea" .localhost
  exact ⟨hentries, hlimit, rfl, hines _ rfl, hlea _ _ rfl⟩

end MappingTable

end MailRouting
