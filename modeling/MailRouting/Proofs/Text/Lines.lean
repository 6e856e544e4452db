import MailRouting.Message
import MailRouting.Proofs.Text.Utf8

/-!
# Lines of octets

A line ends at CR LF, and also at a CR or an LF alone: whatever a reader takes for a line end.

* `IsLine`, `IsOctetLine` — a text, and a list of octets, without a line end in it;
* `lines` — the lines of a list of octets;
* `forall_mem_lines` — none of them has a line end in it;
* `lines_intercalate` — lines written with CR LF between them are read again as they were;
* `before_blankLine` — what stands before the first empty line after a list of lines.
-/

namespace MailRouting.Text

/-! ### Texts without a line end -/

/-- The text has no line end in it. -/
def IsLine (s : String) : Prop :=
  '\r' ∉ s.toList ∧ '\n' ∉ s.toList

instance (s : String) : Decidable (IsLine s) :=
  inferInstanceAs (Decidable (_ ∧ _))

/-- The octets have no line end among them. -/
def IsOctetLine (bs : List UInt8) : Prop :=
  13 ∉ bs ∧ 10 ∉ bs

theorem isLine_append {s t : String} : IsLine (s ++ t) ↔ IsLine s ∧ IsLine t := by
  simp only [IsLine, String.toList_append, List.mem_append, not_or]
  constructor
  · rintro ⟨⟨h₁, h₂⟩, h₃, h₄⟩
    exact ⟨⟨h₁, h₃⟩, h₂, h₄⟩
  · rintro ⟨⟨h₁, h₂⟩, h₃, h₄⟩
    exact ⟨⟨h₁, h₃⟩, h₂, h₄⟩

theorem isOctetLine_encode {s : String} : IsOctetLine (Utf8.encode s.toList) ↔ IsLine s := by
  have hcr := Utf8.mem_encode_iff (s := s.toList) (x := '\r') (by decide)
  have hlf := Utf8.mem_encode_iff (s := s.toList) (x := '\n') (by decide)
  exact and_congr (not_congr hcr) (not_congr hlf)

/-! ### Lines -/

/-- The lines of a list of octets. -/
def lines : List UInt8 → List (List UInt8)
  | [] => [[]]
  | 13 :: 10 :: rest => [] :: lines rest
  | b :: rest =>
    if b = 13 ∨ b = 10 then [] :: lines rest
    else
      match lines rest with
      | [] => [[b]]
      | line :: more => (b :: line) :: more

theorem lines_ne_nil (bs : List UInt8) : lines bs ≠ [] := by
  fun_induction lines bs <;> simp

theorem forall_mem_lines (bs : List UInt8) : ∀ l ∈ lines bs, IsOctetLine l := by
  have hnil : IsOctetLine [] := ⟨List.not_mem_nil, List.not_mem_nil⟩
  fun_induction lines bs with
  | case1 => simpa using hnil
  | case2 rest ih => simpa using ⟨hnil, ih⟩
  | case3 b rest _ _ ih => simpa using ⟨hnil, ih⟩
  | case4 b rest _ _ hlines _ => exact absurd hlines (lines_ne_nil rest)
  | case5 b rest _ hb line more hlines ih =>
    rw [hlines] at ih
    obtain ⟨hline, hmore⟩ := List.forall_mem_cons.1 ih
    rw [not_or] at hb
    refine List.forall_mem_cons.2 ⟨⟨?_, ?_⟩, hmore⟩
    · rw [List.mem_cons, not_or]
      exact ⟨Ne.symm hb.1, hline.1⟩
    · rw [List.mem_cons, not_or]
      exact ⟨Ne.symm hb.2, hline.2⟩

/-- An octet that ends no line belongs to the line before which it stands. -/
theorem lines_cons {b : UInt8} {bs line : List UInt8} {more : List (List UInt8)} (hcr : b ≠ 13)
    (hlf : b ≠ 10) (h : lines bs = line :: more) : lines (b :: bs) = (b :: line) :: more := by
  rw [lines.eq_3 _ _ (fun _ hb _ => hcr hb), if_neg (not_or.2 ⟨hcr, hlf⟩), h]

/-- Octets without a line end belong to the line before which they stand. -/
theorem lines_append {l bs line : List UInt8} {more : List (List UInt8)} (hl : IsOctetLine l)
    (h : lines bs = line :: more) : lines (l ++ bs) = (l ++ line) :: more := by
  induction l with
  | nil => exact h
  | cons b l ih =>
    obtain ⟨hcr, hlf⟩ := hl
    rw [List.mem_cons, not_or] at hcr hlf
    exact lines_cons (Ne.symm hcr.1) (Ne.symm hlf.1) (ih ⟨hcr.2, hlf.2⟩)

/-- Lines written with CR LF between them are read again as they were. -/
theorem lines_intercalate {ls : List (List UInt8)} (hne : ls ≠ [])
    (hls : ∀ l ∈ ls, IsOctetLine l) : lines (List.intercalate [13, 10] ls) = ls := by
  induction ls with
  | nil => exact absurd rfl hne
  | cons l ls ih =>
    obtain ⟨hl, hrest⟩ := List.forall_mem_cons.1 hls
    cases ls with
    | nil =>
      have h : lines (l ++ []) = [l ++ []] := lines_append hl rfl
      simpa only [List.intercalate_singleton, List.append_nil] using h
    | cons l' ls =>
      have htail : lines ([13, 10] ++ List.intercalate [13, 10] (l' :: ls)) = [] :: l' :: ls :=
        congrArg ([] :: ·) (ih (List.cons_ne_nil l' ls) hrest)
      rw [List.intercalate_cons_cons, List.append_assoc, lines_append hl htail, List.append_nil]

/-! ### The first empty line -/

/-- A mark does not start in octets that its first one is not among. -/
theorem before_append {b : UInt8} {mark l : List UInt8} (hb : b ∉ l) (bs : List UInt8) :
    before (b :: mark) (l ++ bs) = (before (b :: mark) bs).map (l ++ ·) := by
  induction l with
  | nil => simp
  | cons c l ih =>
    rw [List.mem_cons, not_or] at hb
    have hstart : (b :: mark).isPrefixOf (c :: (l ++ bs)) = false := by
      simp [List.isPrefixOf, hb.1]
    rw [List.cons_append, before, if_neg (by simp [hstart]), ih hb.2, Option.map_map]
    rfl

/-- Behind a line end that another line follows, the search goes on with that line. -/
theorem before_blankLine_crlf {b : UInt8} (hb : b ≠ 13) (bs : List UInt8) :
    before Message.blankLine (13 :: 10 :: b :: bs) =
      (before Message.blankLine (b :: bs)).map ([13, 10] ++ ·) := by
  have h₁ : Message.blankLine.isPrefixOf (13 :: 10 :: b :: bs) = false := by
    simp [Message.blankLine, List.isPrefixOf, Ne.symm hb]
  have h₂ : Message.blankLine.isPrefixOf (10 :: b :: bs) = false := by
    simp [Message.blankLine, List.isPrefixOf]
  rw [before, if_neg (by simp [h₁]), before, if_neg (by simp [h₂]), Option.map_map]
  rfl

/-- The first empty line after a list of lines, none of them empty, is the one behind them. -/
theorem before_blankLine {ls : List (List UInt8)} (hne : ls ≠ [])
    (hls : ∀ l ∈ ls, IsOctetLine l ∧ l ≠ []) (bs : List UInt8) :
    before Message.blankLine (ls.flatMap (· ++ [13, 10]) ++ 13 :: 10 :: bs) =
      some (List.intercalate [13, 10] ls) := by
  induction ls with
  | nil => exact absurd rfl hne
  | cons l ls ih =>
    obtain ⟨⟨hl, _⟩, hrest⟩ := List.forall_mem_cons.1 hls
    rw [List.flatMap_cons, List.append_assoc, List.append_assoc, Message.blankLine,
      before_append hl.1]
    cases ls with
    | nil =>
      have hstart : before [13, 10, 13, 10] (13 :: 10 :: 13 :: 10 :: bs) = some [] := by
        simp [before, List.isPrefixOf]
      simpa [List.intercalate_singleton] using hstart
    | cons l' ls =>
      obtain ⟨⟨hl', hne'⟩, _⟩ := List.forall_mem_cons.1 hrest
      obtain ⟨b, l'', rfl⟩ := List.exists_cons_of_ne_nil hne'
      have hb : b ≠ 13 := by
        rintro rfl
        exact hl'.1 List.mem_cons_self
      obtain ⟨next, hnext⟩ : ∃ next,
          ((b :: l'') :: ls).flatMap (· ++ [13, 10]) ++ 13 :: 10 :: bs = b :: next := ⟨_, rfl⟩
      have hih := ih (List.cons_ne_nil _ _) hrest
      rw [hnext] at hih ⊢
      have hstep := before_blankLine_crlf hb next
      rw [hih] at hstep
      show (before Message.blankLine (13 :: 10 :: b :: next)).map (l ++ ·) = _
      rw [hstep, List.intercalate_cons_cons]
      simp only [Option.map_some, List.append_assoc]

end MailRouting.Text
