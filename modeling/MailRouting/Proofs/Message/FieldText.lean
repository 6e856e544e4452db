import Mathlib.Data.List.Chain
import Mathlib.Data.List.DropRight
import MailRouting.Message.FieldText
import MailRouting.Proofs.Address.Written

/-!
# Field values without encoded words

An encoded word ends at a `?=` with a boundary behind it. Where an equals sign never stands before a
boundary, none can end, and a line is text and blanks only, whatever `=?` it holds.

* `WordsStayOpen` — no encoded word can end in the line;
* `wordInside_eq_none` — so none is found there;
* `Spells` — tokens that are text and blanks, and spell a line;
* `spells_tokens` — what a value on one line is cut into spells it.
-/

namespace MailRouting

/-! ### Cutting texts -/

namespace Text

theorem splitOn_of_not_mem {sep : Char} {s : List Char} (h : sep ∉ s) : splitOn sep s = [s] := by
  induction s with
  | nil => rfl
  | cons c s ih =>
    rw [List.mem_cons, not_or] at h
    rw [splitOn, if_neg (Ne.symm h.1), ih h.2]

/-- The two sides of a pair of characters. -/
theorem eq_of_breakOnPair {a b : Char} {s before after : List Char}
    (h : breakOnPair a b s = some (before, after)) : s = before ++ a :: b :: after := by
  fun_induction breakOnPair a b s generalizing before with
  | case1 => cases h
  | case2 => cases h
  | case3 c d rest hpair =>
    obtain ⟨rfl, rfl⟩ := hpair
    cases h
    rfl
  | case4 c d rest _ ih =>
    obtain ⟨⟨before', after'⟩, hrest, hp⟩ := Option.map_eq_some_iff.1 h
    cases hp
    rw [ih hrest]
    rfl

theorem octetCount_of_ascii {s : List Char} (h : ∀ c ∈ s, c.toNat < 128) :
    Utf8.octetCount s = s.length := by
  induction s with
  | nil => rfl
  | cons c s ih =>
    obtain ⟨hc, hs⟩ := List.forall_mem_cons.1 h
    have hsize : c.utf8Size = 1 := forall_ascii (P := fun c => c.utf8Size = 1) (by decide) hc
    rw [Utf8.octetCount, ih hs, List.length_cons, hsize, Nat.add_comm]

end Text

namespace FieldText

open Text (isBlank breakOnPair)

/-! ### Lines in which no encoded word ends -/

/-- No encoded word can end in the line: behind every equals sign stands a character next to which
none may stand. -/
def WordsStayOpen (line : List Char) : Prop :=
  List.IsChain (fun c d => c = '=' → isBoundaryChar d = false) line ∧ line.getLast? ≠ some '='

variable {line s : List Char} {ts : List Token}

theorem WordsStayOpen.isBoundary_eq_false {text before rest : List Char} (h : WordsStayOpen text)
    (htext : text = before ++ '=' :: rest) : isBoundary text (before.length + 1) = false := by
  obtain ⟨hchain, hlast⟩ := h
  have hplace : text[before.length + 1]? = rest.head? := by
    have hindex : before.length + 1 - before.length = 0 + 1 := by omega
    rw [htext, List.getElem?_append_right (Nat.le_succ _), hindex, List.getElem?_cons_succ,
      List.head?_eq_getElem?]
  rw [isBoundary, hplace]
  cases rest with
  | nil => exact absurd (by rw [htext, List.getLast?_concat]) hlast
  | cons d rest =>
    rw [htext] at hchain
    exact (List.isChain_cons_cons.1 (List.isChain_append.1 hchain).2.1).1 rfl

/-- Where no encoded word can end, none is found. -/
theorem wordInside_eq_none (hascii : ∀ c ∈ line, c.toNat < 128) (hopen : WordsStayOpen line)
    {before : List Char} (hline : line = before ++ s) {start : Nat}
    (hstart : before.length = start) : wordInside line start s = none := by
  fun_induction wordInside line start s generalizing before with
  | case1 => rfl
  | case2 => rfl
  | case3 start rest hboundary =>
    have hpassed : line = before ++ ['?'] ++ '=' :: rest := by rw [hline, List.append_assoc]; rfl
    have hclosed := hopen.isBoundary_eq_false hpassed
    rw [List.length_append, hstart] at hclosed
    cases hboundary.symm.trans hclosed
  | case4 start rest _ ih =>
    have hpassed : line = before ++ ['?', '='] ++ rest := by rw [hline, List.append_assoc]; rfl
    rw [ih hpassed (by rw [List.length_append, hstart]; rfl)]
    rfl
  | case5 start c d rest _ ih =>
    have hc : c.toNat < 128 := hascii c (by rw [hline]; simp)
    have hsize : c.utf8Size = 1 := Text.forall_ascii (P := fun c => c.utf8Size = 1) (by decide) hc
    have hpassed : line = before ++ [c] ++ d :: rest := by rw [hline, List.append_assoc]; rfl
    rw [ih hpassed (by rw [List.length_append, hstart, hsize]; rfl)]
    rfl

/-! ### Tokens that spell a line -/

/-- The tokens are text and blanks only, and together they are the line. -/
inductive Spells : List Token → List Char → Prop where
  | nil : Spells [] []
  | plain (t : List Char) {ts : List Token} {s : List Char} :
      Spells ts s → Spells (.plain t :: ts) (t ++ s)
  | blank {t : List Char} {ts : List Token} {s : List Char} :
      (∀ c ∈ t, isBlank c = true) → Spells ts s → Spells (.blank t :: ts) (t ++ s)

theorem Spells.piece (h : Spells ts s) (t : List Char) :
    Spells (pieceToken t :: ts) (t ++ s) := by
  unfold pieceToken
  split
  · next hempty =>
    have hblank : t.rdropWhile isBlank = [] := List.isEmpty_iff.1 hempty
    exact .blank (List.rdropWhile_eq_nil_iff.1 hblank) h
  · exact .plain t h

/-- What stands before the text behind a `=?`. In a line of ASCII octets count as characters. -/
theorem before_mark (hascii : ∀ c ∈ line, c.toNat < 128) {before t after : List Char}
    (hline : line = before ++ s) (hbreak : breakOnPair '=' '?' s = some (t, after)) :
    line = before ++ t ++ ['=', '?'] ++ after ∧
      (before ++ t ++ ['=', '?']).length = before.length + Text.Utf8.octetCount t + 2 := by
  have hs := Text.eq_of_breakOnPair hbreak
  have ht : ∀ c ∈ t, c.toNat < 128 := fun c hc => hascii c (by rw [hline, hs]; simp [hc])
  constructor
  · rw [hline, hs]
    simp
  · rw [Text.octetCount_of_ascii ht, List.length_append, List.length_append]
    rfl

/-- A line in which no encoded word ends is cut into text and blanks. -/
theorem spells_lineTokensFrom (hascii : ∀ c ∈ line, c.toNat < 128) (hopen : WordsStayOpen line)
    {before : List Char} (hline : line = before ++ s) {start : Nat}
    (hstart : before.length = start) : Spells (lineTokensFrom line start s) s := by
  fun_induction lineTokensFrom line start s generalizing before with
  | case1 start s hnone =>
    have hpiece := Spells.nil.piece s
    rwa [List.append_nil] at hpiece
  | case2 start s t after hbreak =>
    rename_i ih
    obtain ⟨hrest, hlength⟩ := before_mark hascii hline hbreak
    rw [hstart] at hlength
    have hword := wordInside_eq_none hascii hopen hrest hlength
    have hspells := ((ih hrest hlength).plain ['=', '?']).piece t
    rw [Text.eq_of_breakOnPair hbreak]
    split
    · next hw =>
      rw [hword] at hw
      cases hw
    · exact hspells
  | case3 start s t after hbreak =>
    rename_i ih
    obtain ⟨hrest, hlength⟩ := before_mark hascii hline hbreak
    rw [hstart] at hlength
    have hspells := (ih hrest hlength).plain (t ++ ['=', '?'])
    rw [List.append_assoc] at hspells
    rw [Text.eq_of_breakOnPair hbreak]
    exact hspells

/-- A value on one line in which no encoded word ends is cut into text and blanks. -/
theorem spells_tokens (hblank : ∀ c, s.head? = some c → isBlank c = false)
    (hne : s ≠ []) (hlf : '\n' ∉ s) (hascii : ∀ c ∈ s, c.toNat < 128) (hopen : WordsStayOpen s) :
    Spells (tokens s) s := by
  have hlines : lines s = [s] := by
    unfold lines
    rw [Text.splitOn_of_not_mem hlf]
    obtain ⟨c, t, rfl⟩ := List.exists_cons_of_ne_nil hne
    rfl
  have htrim : Text.trimStart s = s := by
    obtain ⟨c, t, rfl⟩ := List.exists_cons_of_ne_nil hne
    exact List.dropWhile_cons_of_neg (by rw [hblank c rfl]; exact Bool.false_ne_true)
  have htokens : tokens s = lineTokens s := by
    rw [tokens, hlines, List.map_singleton, htrim]
    exact List.append_nil _
  rw [htokens]
  exact spells_lineTokensFrom hascii hopen (List.nil_append s).symm rfl

end FieldText

end MailRouting
