import Mathlib.Computability.Language
import MailRouting.Text.CodeRange
import MailRouting.Text.Split
import MailRouting.Text.Utf8

/-!
# Texts by their grammar

The standards of mail give the form of a text by rules. Such a rule is a language over characters
here: a product stands for one form after another, a sum for a choice, and a star for repetition.

* `Text.sign` — one sign;
* `Text.coded` — one character, by the ranges of its code point;
* `Text.mem_coded_kstar_iff`, `Text.mem_coded_mul_kstar_iff` — any number of such characters, and
  one or more of them;
* `Text.eq_inRanges_of_ascii` — a class of characters and the ranges that it consists of;
* `Text.separated` — words of a language with a sign between them;
* `Text.mem_separated_iff` — a text is such a list of words exactly if its pieces are words;
* `Text.edges_of_pieces` — a text of pieces that are not empty neither starts nor ends with the
  sign between them;
* `Text.breakOn_of_not_mem`, `Text.eq_of_breakOn` — what stands around the first place of a sign;
* `Text.Utf8.octetCount_eq_utf8ByteSize` — the octets of a text are those that its string takes.
-/

namespace MailRouting.Text

open Computability

/-! ### Characters -/

/-- One sign. -/
def sign (c : Char) : Language Char :=
  {[c]}

theorem singleton_mem_sign (c : Char) : [c] ∈ sign c :=
  rfl

theorem eq_of_mem_sign {c : Char} {w : List Char} (h : w ∈ sign c) : w = [c] :=
  h

/-- One character whose code point lies in one of the ranges. -/
def coded (ranges : List CodeRange) : Language Char :=
  {w | ∃ c, w = [c] ∧ inRanges ranges c.toNat = true}

theorem singleton_mem_coded_iff {ranges : List CodeRange} {c : Char} :
    [c] ∈ coded ranges ↔ inRanges ranges c.toNat = true := by
  constructor
  · intro h
    obtain ⟨d, hd, hrange⟩ := h
    rw [List.singleton_inj.1 hd]
    exact hrange
  · intro h
    exact ⟨c, rfl, h⟩

theorem mem_coded_kstar_iff {ranges : List CodeRange} {s : List Char} :
    s ∈ (coded ranges)∗ ↔ ∀ c ∈ s, inRanges ranges c.toNat = true := by
  constructor
  · intro h
    obtain ⟨words, hs, hwords⟩ := Language.mem_kstar.1 h
    intro c hc
    rw [hs] at hc
    obtain ⟨word, hword, hmem⟩ := List.mem_flatten.1 hc
    obtain ⟨d, hd, hrange⟩ := hwords word hword
    rw [hd, List.mem_singleton] at hmem
    rwa [hmem]
  · intro h
    have hflatten : s = (s.map fun c => [c]).flatten := by
      rw [← List.flatMap_def, List.flatMap_singleton']
    rw [hflatten]
    apply Language.join_mem_kstar
    intro word hword
    obtain ⟨c, hc, hsingle⟩ := List.mem_map.1 hword
    exact ⟨c, hsingle.symm, h c hc⟩

/-- One or more characters of a class. -/
theorem mem_coded_mul_kstar_iff {ranges : List CodeRange} {s : List Char} :
    s ∈ coded ranges * (coded ranges)∗ ↔ s ≠ [] ∧ ∀ c ∈ s, inRanges ranges c.toNat = true := by
  constructor
  · intro h
    obtain ⟨first, hfirst, rest, hrest, happend⟩ := Language.mem_mul.1 h
    obtain ⟨c, hc, hrange⟩ := hfirst
    rw [← happend, hc]
    refine ⟨List.cons_ne_nil c rest, ?_⟩
    exact List.forall_mem_cons.2 ⟨hrange, mem_coded_kstar_iff.1 hrest⟩
  · intro h
    obtain ⟨hne, hall⟩ := h
    obtain ⟨c, rest, hs⟩ := List.exists_cons_of_ne_nil hne
    rw [hs] at hall ⊢
    obtain ⟨hc, hrest⟩ := List.forall_mem_cons.1 hall
    exact Language.append_mem_mul (singleton_mem_coded_iff.2 hc) (mem_coded_kstar_iff.2 hrest)

/-- A class of ASCII characters is given by ranges if both have the same code points. -/
theorem eq_inRanges_of_ascii {p : Char → Bool} {ranges : List CodeRange}
    (hp : ∀ c, p c = true → c.toNat < 128)
    (hranges : ranges.all (fun r => decide (r.2 < 128)) = true)
    (h : ∀ n < 128, p (Char.ofNat n) = inRanges ranges n) (c : Char) :
    p c = inRanges ranges c.toNat := by
  by_cases hc : c.toNat < 128
  · have hsame := h c.toNat hc
    rwa [Char.ofNat_toNat] at hsame
  · have hleft : p c = false := by
      rw [Bool.eq_false_iff]
      intro hclass
      exact hc (hp c hclass)
    have hright : inRanges ranges c.toNat = false := by
      rw [Bool.eq_false_iff]
      intro hclass
      obtain ⟨r, hr, hbounds⟩ := List.any_eq_true.1 hclass
      have hlast := List.all_eq_true.1 hranges r hr
      simp only [Bool.and_eq_true, decide_eq_true_eq] at hbounds hlast
      omega
    rw [hleft, hright]

/-! ### Repetition -/

/-- One more word before a repetition. -/
theorem append_mem_kstar {l : Language Char} {w s : List Char} (hw : w ∈ l) (hs : s ∈ l∗) :
    w ++ s ∈ l∗ := by
  obtain ⟨words, hwords, hmem⟩ := Language.mem_kstar.1 hs
  rw [hwords, ← List.flatten_cons]
  exact Language.join_mem_kstar (List.forall_mem_cons.2 ⟨hw, hmem⟩)

/-! ### Words with a sign between them -/

/-- One or more words of a language, with a sign between them. -/
def separated (sep : Char) (l : Language Char) : Language Char :=
  l * (sign sep * l)∗

variable {sep : Char} {l : Language Char} {s : List Char}

/-- A word, a sign and words with such signs between them. -/
theorem append_mem_separated {w : List Char} (hw : w ∈ l) (hs : s ∈ separated sep l) :
    w ++ ([sep] ++ s) ∈ separated sep l := by
  obtain ⟨first, hfirst, rest, hrest, happend⟩ := Language.mem_mul.1 hs
  have hgroup : [sep] ++ first ∈ sign sep * l :=
    Language.append_mem_mul (singleton_mem_sign sep) hfirst
  rw [← happend, ← List.append_assoc [sep]]
  exact Language.append_mem_mul hw (append_mem_kstar hgroup hrest)

/-- Words with a sign between them are separated. -/
theorem intercalate_mem_separated {words : List (List Char)} (hne : words ≠ [])
    (hwords : ∀ w ∈ words, w ∈ l) : List.intercalate [sep] words ∈ separated sep l := by
  induction words with
  | nil => exact absurd rfl hne
  | cons word words ih =>
    obtain ⟨hword, hrest⟩ := List.forall_mem_cons.1 hwords
    cases words with
    | nil =>
      have hsingle : word ++ [] ∈ separated sep l :=
        Language.append_mem_mul hword (Language.nil_mem_kstar _)
      rw [List.append_nil] at hsingle
      rw [List.intercalate_singleton]
      exact hsingle
    | cons next words =>
      rw [List.intercalate_cons_cons, List.append_assoc]
      exact append_mem_separated hword (ih (List.cons_ne_nil _ _) hrest)

/-- A word and groups of a sign and a word are words with the sign between them. -/
theorem exists_words_of_groups {word : List Char} (hword : word ∈ l) {groups : List (List Char)}
    (hgroups : ∀ g ∈ groups, g ∈ sign sep * l) :
    ∃ words, words ≠ [] ∧ (∀ w ∈ words, w ∈ l) ∧
      word ++ groups.flatten = List.intercalate [sep] words := by
  induction groups generalizing word with
  | nil =>
    refine ⟨[word], List.cons_ne_nil _ _, by simpa using hword, ?_⟩
    rw [List.flatten_nil, List.append_nil, List.intercalate_singleton]
  | cons group groups ih =>
    obtain ⟨hgroup, hrest⟩ := List.forall_mem_cons.1 hgroups
    obtain ⟨first, hfirst, next, hnext, happend⟩ := Language.mem_mul.1 hgroup
    obtain ⟨words, hne, hwords, heq⟩ := ih hnext hrest
    refine ⟨word :: words, List.cons_ne_nil _ _, List.forall_mem_cons.2 ⟨hword, hwords⟩, ?_⟩
    rw [List.intercalate_cons_of_ne_nil hne, ← heq, ← happend, eq_of_mem_sign hfirst,
      List.flatten_cons]
    simp only [List.append_assoc]

/-! ### The pieces of a text -/

/-- Pieces are those that the library cuts a list into. -/
theorem splitOn_eq_splitOn (sep : Char) (s : List Char) : splitOn sep s = s.splitOn sep := by
  induction s with
  | nil => simp [splitOn]
  | cons c s ih =>
    obtain ⟨piece, pieces, hpieces⟩ := List.exists_cons_of_ne_nil (List.splitOn_ne_nil sep s)
    rw [splitOn, ih, hpieces]
    rw [List.splitOn] at hpieces ⊢
    rw [List.splitOnP_cons_eq_if_modifyHead, hpieces]
    by_cases hc : c = sep <;> simp [hc]

/-- Words that do not hold the sign between them are the pieces of the text that they make. -/
theorem mem_separated_iff (hl : ∀ w ∈ l, sep ∉ w) :
    s ∈ separated sep l ↔ ∀ piece ∈ splitOn sep s, piece ∈ l := by
  rw [splitOn_eq_splitOn]
  constructor
  · intro h
    obtain ⟨word, hword, rest, hrest, happend⟩ := Language.mem_mul.1 h
    obtain ⟨groups, hflatten, hgroups⟩ := Language.mem_kstar.1 hrest
    obtain ⟨words, hne, hwords, heq⟩ := exists_words_of_groups hword hgroups
    rw [← happend, hflatten, heq,
      List.splitOn_intercalate sep (fun w hw => hl w (hwords w hw)) hne]
    exact hwords
  · intro h
    have hwords : List.intercalate [sep] (s.splitOn sep) ∈ separated sep l :=
      intercalate_mem_separated (List.splitOn_ne_nil sep s) h
    rwa [List.intercalate_splitOn] at hwords

/-- A sign at the end has an empty piece behind it. -/
theorem splitOn_concat (sep : Char) (s : List Char) :
    splitOn sep (s ++ [sep]) = splitOn sep s ++ [[]] := by
  induction s with
  | nil => simp [splitOn]
  | cons c s ih =>
    obtain ⟨piece, pieces, hpieces⟩ : ∃ piece pieces, splitOn sep s = piece :: pieces := by
      rw [splitOn_eq_splitOn]
      exact List.exists_cons_of_ne_nil (List.splitOn_ne_nil sep s)
    rw [List.cons_append, splitOn, splitOn, ih, hpieces]
    by_cases hc : c = sep <;> simp [hc]

/-- A text of pieces that are not empty neither starts nor ends with the sign between them. -/
theorem edges_of_pieces (h : ∀ piece ∈ splitOn sep s, piece ≠ []) :
    s.head? ≠ some sep ∧ s.getLast? ≠ some sep := by
  constructor
  · intro hhead
    cases s with
    | nil => cases hhead
    | cons c s =>
      rw [List.head?_cons, Option.some.injEq] at hhead
      rw [splitOn, if_pos hhead] at h
      exact h [] List.mem_cons_self rfl
  · intro hlast
    obtain ⟨t, ht⟩ := List.getLast?_eq_some_iff.1 hlast
    rw [ht, splitOn_concat] at h
    exact h [] (List.mem_append_right _ List.mem_cons_self) rfl

/-! ### The first place of a sign -/

/-- A text is cut at a sign that does not stand before. -/
theorem breakOn_of_not_mem {mark : Char} {before : List Char} (h : mark ∉ before)
    (after : List Char) : breakOn mark (before ++ mark :: after) = some (before, after) := by
  induction before with
  | nil => simp [breakOn]
  | cons c before ih =>
    rw [List.mem_cons, not_or] at h
    rw [List.cons_append, breakOn, if_neg (Ne.symm h.1), ih h.2]
    rfl

/-- A text that is cut at a sign has it there for the first time. -/
theorem eq_of_breakOn {mark : Char} {s before after : List Char}
    (h : breakOn mark s = some (before, after)) :
    s = before ++ mark :: after ∧ mark ∉ before := by
  induction s generalizing before with
  | nil => cases h
  | cons c s ih =>
    rw [breakOn] at h
    by_cases hc : c = mark
    · rw [if_pos hc] at h
      cases h
      simp [hc]
    · rw [if_neg hc] at h
      obtain ⟨⟨before', after'⟩, hbreak, hcons⟩ := Option.map_eq_some_iff.1 h
      cases hcons
      obtain ⟨hs, hmark⟩ := ih hbreak
      rw [hs]
      simp [hmark, Ne.symm hc]

/-! ### Octets -/

theorem Utf8.octetCount_eq_utf8ByteSize (s : List Char) :
    Utf8.octetCount s = (String.ofList s).utf8ByteSize := by
  induction s with
  | nil => rfl
  | cons c s ih =>
    rw [octetCount, ih, String.ofList_cons, String.utf8ByteSize_append,
      String.utf8ByteSize_singleton]

theorem Utf8.one_le_octetCount_iff : 1 ≤ Utf8.octetCount s ↔ s ≠ [] := by
  cases s with
  | nil => simp [octetCount]
  | cons c s =>
    have hpos := c.utf8Size_pos
    simp only [octetCount, ne_eq, reduceCtorEq, not_false_eq_true, iff_true]
    omega

end MailRouting.Text
