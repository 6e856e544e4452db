import MailRouting.Text.Split
import MailRouting.Proofs.Text.Utf8

/-!
# Occurrences of a mark

Where a mark can lie in a text that is put together from parts, and how a text is cut at it. An
occurrence goes over a seam between two parts only if the sign behind the seam can stand inside the
mark.

* `infix_append_cons_iff`, `infix_append_cons_iff_of_not_mem`, `infix_append_iff_of_not_mem` — the
  occurrences in a whole from those in its parts;
* `splitOnMark`, `splitOnMark_intercalate` — a text cut at every occurrence of a mark, and the
  pieces that it was put together from;
* `before_eq_none_iff`, `length_le_of_before_eq_some` — that what comes before a mark ends where the
  mark is first;
* `after`, `before_append_right` — what comes behind the first occurrence, and that what follows an
  occurrence does not move it;
* `Utf8.infix_of_infix_encode` — the octets of a mark lie only where the mark lies in the text.
-/

namespace MailRouting.Text

variable {α : Type}

/-! ### Where an occurrence can lie -/

section Seams

variable {mark x y : List α} {c : α}

/-- A sign that stands nowhere in the mark but at its front ends every text that the mark is a start
of. -/
theorem prefix_of_prefix_append_cons (hc : c ∉ mark.tail) (hx : x ≠ [])
    (h : mark <+: x ++ c :: y) : mark <+: x := by
  by_cases hlength : mark.length ≤ x.length
  · exact List.prefix_of_prefix_length_le h (List.prefix_append x _) hlength
  · have hlt : x.length < mark.length := Nat.lt_of_not_le hlength
    obtain ⟨rest, rfl⟩ :=
      List.prefix_of_prefix_length_le (List.prefix_append x (c :: y)) h (Nat.le_of_lt hlt)
    have hrest : rest <+: c :: y := (List.prefix_append_right_inj x).1 h
    obtain ⟨d, rest, rfl⟩ : ∃ d rest', rest = d :: rest' := by
      cases rest with
      | nil => simp at hlt
      | cons d rest => exact ⟨d, rest, rfl⟩
    obtain ⟨rfl, _⟩ := List.cons_prefix_cons.1 hrest
    obtain ⟨a, x, rfl⟩ := List.exists_cons_of_ne_nil hx
    exact absurd (List.mem_append_right x List.mem_cons_self) hc

/-- An occurrence does not go over a sign that stands nowhere in the mark but at its front. -/
theorem infix_append_cons_iff (hc : c ∉ mark.tail) :
    mark <:+: x ++ c :: y ↔ mark <:+: x ∨ mark <:+: c :: y := by
  constructor
  · intro h
    induction x with
    | nil => exact .inr h
    | cons a x ih =>
      rcases List.infix_cons_iff.1 h with h | h
      · exact .inl (prefix_of_prefix_append_cons hc (List.cons_ne_nil a x) h).isInfix
      · exact (ih h).imp_left fun hx => List.infix_cons_iff.2 (.inr hx)
  · rintro (h | h)
    · exact h.trans (List.prefix_append x _).isInfix
    · exact h.trans (List.suffix_append x _).isInfix

/-- An occurrence lies before or behind a sign that is not in the mark. -/
theorem infix_append_cons_iff_of_not_mem (hc : c ∉ mark) (hmark : mark ≠ []) :
    mark <:+: x ++ c :: y ↔ mark <:+: x ∨ mark <:+: y := by
  rw [infix_append_cons_iff fun h => hc (List.mem_of_mem_tail h), List.infix_cons_iff]
  have hstart : ¬mark <+: c :: y := by
    obtain ⟨a, mark, rfl⟩ := List.exists_cons_of_ne_nil hmark
    intro h
    exact hc ((List.cons_prefix_cons.1 h).1 ▸ List.mem_cons_self)
  simp only [hstart, false_or]

/-- No occurrence starts in a text without the first sign of the mark. -/
theorem infix_append_iff_of_not_mem {a : α} (ha : a ∉ x) :
    a :: mark <:+: x ++ y ↔ a :: mark <:+: y := by
  induction x with
  | nil => exact Iff.rfl
  | cons b x ih =>
    rw [List.mem_cons, not_or] at ha
    have hstart : ¬a :: mark <+: b :: (x ++ y) := fun h => ha.1 (List.cons_prefix_cons.1 h).1
    rw [List.cons_append, List.infix_cons_iff, ih ha.2]
    simp only [hstart, false_or]

end Seams

/-! ### Cutting at every occurrence -/

section Pieces

variable [BEq α]

/-- The pieces of a text between the occurrences of a mark, looked for from the front on. Where the
first sign of a mark does not come again in it, these are all occurrences, since no two overlap. -/
def splitOnMark (mark : List α) : List α → List (List α)
  | [] => [[]]
  | x :: rest =>
    if mark.isPrefixOf (x :: rest) then [] :: splitOnMark mark (rest.drop (mark.length - 1))
    else
      match splitOnMark mark rest with
      | [] => [[x]]
      | piece :: pieces => (x :: piece) :: pieces
termination_by s => s.length

variable [LawfulBEq α] {a : α} {mark p s : List α}

/-- A text in which the mark does not occur is one piece. -/
theorem splitOnMark_eq_singleton (hp : ¬mark <:+: p) : splitOnMark mark p = [p] := by
  induction p with
  | nil => rw [splitOnMark]
  | cons x p ih =>
    rw [List.infix_cons_iff, not_or] at hp
    rw [splitOnMark, if_neg (mt List.isPrefixOf_iff_prefix.1 hp.1), ih hp.2]

/-- The first piece ends at the first occurrence. -/
theorem splitOnMark_append (ha : a ∉ mark) (hp : ¬a :: mark <:+: p) :
    splitOnMark (a :: mark) (p ++ a :: mark ++ s) = p :: splitOnMark (a :: mark) s := by
  induction p with
  | nil =>
    have hstart : (a :: mark).isPrefixOf (a :: (mark ++ s)) = true :=
      List.isPrefixOf_iff_prefix.2 (List.prefix_append (a :: mark) s)
    have hdrop : (mark ++ s).drop ((a :: mark).length - 1) = s := List.drop_left
    rw [List.nil_append, List.cons_append, splitOnMark, if_pos hstart, hdrop]
  | cons x p ih =>
    have hstart : ¬(a :: mark).isPrefixOf (x :: (p ++ a :: mark ++ s)) = true := by
      rw [List.isPrefixOf_iff_prefix]
      intro h
      rw [List.append_assoc] at h
      exact hp (prefix_of_prefix_append_cons ha (List.cons_ne_nil x p) h).isInfix
    rw [List.infix_cons_iff, not_or] at hp
    rw [List.cons_append, List.cons_append, splitOnMark, if_neg hstart, ih hp.2]

/-- Pieces in which the mark does not occur, with the mark between them, are found again. -/
theorem splitOnMark_intercalate (ha : a ∉ mark) {ps : List (List α)} (hne : ps ≠ [])
    (hps : ∀ p ∈ ps, ¬a :: mark <:+: p) :
    splitOnMark (a :: mark) (List.intercalate (a :: mark) ps) = ps := by
  induction ps with
  | nil => exact absurd rfl hne
  | cons p ps ih =>
    obtain ⟨hp, hrest⟩ := List.forall_mem_cons.1 hps
    cases ps with
    | nil => rw [List.intercalate_singleton, splitOnMark_eq_singleton hp]
    | cons q ps =>
      rw [List.intercalate_cons_cons, splitOnMark_append ha hp, ih (List.cons_ne_nil q ps) hrest]

/-! ### The first occurrence -/

/-- The elements behind the first occurrence of a mark, if there is one. -/
def after (mark s : List α) : Option (List α) :=
  (before mark s).map fun p => s.drop (p.length + mark.length)

/-- What comes before the mark is followed by it. -/
theorem prefix_of_before_eq_some (h : before mark s = some p) : p ++ mark <+: s := by
  induction s generalizing p with
  | nil =>
    rw [before] at h
    split at h
    · next hempty =>
      cases h
      rw [List.isEmpty_iff.1 hempty]
      exact List.prefix_rfl
    · cases h
  | cons x s ih =>
    rw [before] at h
    split at h
    · next hstart =>
      cases h
      exact List.isPrefixOf_iff_prefix.1 hstart
    · obtain ⟨p, hp, rfl⟩ := Option.map_eq_some_iff.1 h
      exact List.cons_prefix_cons.2 ⟨rfl, ih hp⟩

/-- Nothing comes before a mark that does not occur. -/
theorem before_eq_none_iff (hmark : mark ≠ []) : before mark s = none ↔ ¬mark <:+: s := by
  induction s with
  | nil =>
    rw [before, if_neg (mt List.isEmpty_iff.1 hmark), List.infix_nil]
    exact iff_of_true rfl hmark
  | cons x s ih =>
    rw [before, List.infix_cons_iff, not_or, ← ih, ← List.isPrefixOf_iff_prefix]
    split
    · next hstart => exact iff_of_false nofun fun h => h.1 hstart
    · next hstart => rw [Option.map_eq_none_iff, and_iff_right hstart]

/-- The mark does not occur farther to the front than what comes before its first occurrence. -/
theorem length_le_of_before_eq_some {x y : List α} (h : before mark (x ++ y) = some p)
    (hy : mark <+: y) : p.length ≤ x.length := by
  induction x generalizing p with
  | nil =>
    obtain ⟨rest, rfl⟩ := hy
    have hfront : before mark (mark ++ rest) = some [] := by
      cases mark with
      | nil => cases rest <;> rfl
      | cons a mark =>
        rw [List.cons_append, before, if_pos]
        exact List.isPrefixOf_iff_prefix.2 (List.prefix_append (a :: mark) rest)
    rw [List.nil_append, hfront] at h
    cases h
    exact Nat.le_refl 0
  | cons c x ih =>
    rw [List.cons_append, before] at h
    split at h
    · cases h
      exact Nat.zero_le _
    · obtain ⟨p, hp, rfl⟩ := Option.map_eq_some_iff.1 h
      exact Nat.succ_le_succ (ih hp)

/-- What comes before the first occurrence of a mark has none in it. -/
theorem not_infix_of_before_eq_some (hmark : mark ≠ []) (h : before mark s = some p) :
    ¬mark <:+: p := by
  rintro ⟨x, z, rfl⟩
  obtain ⟨rest, rfl⟩ := prefix_of_before_eq_some h
  have hlater : before mark (x ++ (mark ++ (z ++ mark ++ rest))) = some (x ++ mark ++ z) := by
    rw [← h]
    simp only [List.append_assoc]
  have hlength := length_le_of_before_eq_some hlater (List.prefix_append mark _)
  have hpos : 0 < mark.length := List.length_pos_iff.2 hmark
  rw [List.length_append, List.length_append] at hlength
  omega

/-- What follows an occurrence does not move the first one. -/
theorem before_append_right (h : before mark s = some p) (t : List α) :
    before mark (s ++ t) = some p := by
  induction s generalizing p with
  | nil =>
    rw [before] at h
    split at h
    · next hempty =>
      cases h
      rw [List.isEmpty_iff.1 hempty]
      cases t <;> rfl
    · cases h
  | cons x s ih =>
    rw [before] at h
    rw [List.cons_append, before]
    split at h
    · next hstart =>
      cases h
      have hmark : mark <+: x :: s := List.isPrefixOf_iff_prefix.1 hstart
      have hstart' : mark.isPrefixOf (x :: (s ++ t)) = true :=
        List.isPrefixOf_iff_prefix.2 (hmark.trans (List.prefix_append (x :: s) t))
      rw [if_pos hstart']
    · next hstart =>
      obtain ⟨p, hp, rfl⟩ := Option.map_eq_some_iff.1 h
      -- the mark fits into what comes behind `x`, so it could not start at `x` and end in `t`
      have hlength : mark.length ≤ (x :: s).length := by
        have := (prefix_of_before_eq_some hp).length_le
        rw [List.length_append] at this
        rw [List.length_cons]
        omega
      have hstart' : ¬mark.isPrefixOf (x :: (s ++ t)) = true := by
        rw [List.isPrefixOf_iff_prefix] at hstart ⊢
        exact fun h => hstart
          (List.prefix_of_prefix_length_le h (List.prefix_append (x :: s) t) hlength)
      rw [if_neg hstart', ih hp, Option.map_some]

theorem after_append (h : before mark (p ++ mark) = some p) (t : List α) :
    after mark (p ++ mark ++ t) = some t := by
  rw [after, before_append_right h, Option.map_some, ← List.length_append, List.drop_left]

end Pieces

/-! ### Occurrences in octets -/

namespace Utf8

variable {a : Char} {mark s : List Char}

theorem encode_cons_of_le (ha : a.val.toNat ≤ 0x7f) (s : List Char) :
    encode (a :: s) = UInt8.ofNat a.val.toNat :: encode s := by
  show String.utf8EncodeChar a ++ encode s = _
  rw [utf8EncodeChar_of_le ha, List.singleton_append]

/-- A text starts with a text of ASCII if its octets do. -/
theorem prefix_of_prefix_encode (hmark : ∀ c ∈ mark, c.val.toNat ≤ 0x7f)
    (h : encode mark <+: encode s) : mark <+: s := by
  induction mark generalizing s with
  | nil => exact List.nil_prefix
  | cons a mark ih =>
    obtain ⟨ha, hrest⟩ := List.forall_mem_cons.1 hmark
    rw [encode_cons_of_le ha] at h
    cases s with
    | nil => exact absurd (List.prefix_nil.1 h) (List.cons_ne_nil _ _)
    | cons c s =>
      obtain ⟨b, bs, hc⟩ : ∃ b bs, String.utf8EncodeChar c = b :: bs :=
        List.exists_cons_of_ne_nil String.utf8EncodeChar_ne_nil
      have hca : c = a := by
        have hstart : UInt8.ofNat a.val.toNat :: encode mark <+: b :: (bs ++ encode s) := by
          rw [← List.cons_append, ← hc]
          exact h
        refine (mem_utf8EncodeChar_iff ha).1 ?_
        rw [hc, (List.cons_prefix_cons.1 hstart).1]
        exact List.mem_cons_self
      rw [hca] at h ⊢
      rw [encode_cons_of_le ha] at h
      exact List.cons_prefix_cons.2 ⟨rfl, ih hrest (List.cons_prefix_cons.1 h).2⟩

/-- The octets of a text of ASCII lie only where that text lies. -/
theorem infix_of_infix_encode (hmark : ∀ c ∈ mark, c.val.toNat ≤ 0x7f)
    (h : encode mark <:+: encode s) : mark <:+: s := by
  cases mark with
  | nil => exact List.nil_infix
  | cons a mark =>
    have ha : a.val.toNat ≤ 0x7f := hmark a List.mem_cons_self
    induction s with
    | nil =>
      rw [encode_cons_of_le ha] at h
      exact absurd (List.infix_nil.1 h) (List.cons_ne_nil _ _)
    | cons c s ih =>
      by_cases hca : c = a
      · rw [hca] at h ⊢
        rw [encode_cons_of_le ha s, List.infix_cons_iff, ← encode_cons_of_le ha s] at h
        rcases h with h | h
        · exact (prefix_of_prefix_encode hmark h).isInfix
        · exact List.infix_cons_iff.2 (.inr (ih h))
      · have hnot : UInt8.ofNat a.val.toNat ∉ String.utf8EncodeChar c :=
          mt (mem_utf8EncodeChar_iff ha).1 hca
        have hrest : encode (a :: mark) <:+: encode s := by
          rw [encode_cons_of_le ha] at h ⊢
          exact (infix_append_iff_of_not_mem hnot).1 h
        exact List.infix_cons_iff.2 (.inr (ih hrest))

end Utf8

end MailRouting.Text
