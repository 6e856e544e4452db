import Mathlib.Data.List.DropRight
import MailRouting.Proofs.DeliveryReport.HeaderSection

/-!
# Header fields read back

Fields that are written one a line, `name: value`, are read as they were written, whatever the body
after them is. Only the spaces at the start of a value go.

* `Field.IsName` — a name with which a line can start to be the line of that field;
* `Field.ofPair` — the field that the line of a name and a value is read as;
* `Field.read_line`, `Field.read_last` — a line is read as its field, with another line after it or
  none;
* `Field.readAll_lines` — lines are read as their fields;
* `Message.fields_of_lines` — and so is a message that starts with them.
-/

namespace MailRouting

open DeliveryReport (fieldText fieldOctets)
open Text (IsLine)

namespace Field

/-- The name can stand before the colon of a line that goes on from no other one. -/
def IsName (name : String) : Prop :=
  name.toList ≠ [] ∧ ∀ c ∈ name.toList, isNameChar c = true ∧ c ∉ ['\r', ' ', '\t']

-- the characters of the name are gone through, never all characters
instance (name : String) : Decidable (IsName name) :=
  @instDecidableAnd _ _ _ (List.decidableBAll _ name.toList)

/-- The field of a name and a value on a line. -/
def ofPair (f : String × String) : Field :=
  ⟨f.1.toList, f.2.toList.dropWhile (· = ' ')⟩

variable {name value rest : List Char} {c : Char}

/-! ### The value of a line -/

theorem takeFolded_cons (hc : c ≠ '\n') (s : List Char) :
    takeFolded (c :: s) = (c :: (takeFolded s).1, (takeFolded s).2) :=
  takeFolded.eq_4 c s (fun h => absurd h hc) fun _ _ h => absurd h hc

/-- A text without a line feed goes up to the first one, if the next line does not start with a
blank. -/
theorem takeFolded_line {s : List Char} (hs : '\n' ∉ s) (hc : c ∉ [' ', '\t']) :
    takeFolded (s ++ '\n' :: c :: rest) = (s ++ ['\n'], c :: rest) := by
  induction s with
  | nil =>
    have hfold : ¬(c = ' ' || c = '\t') = true := by simpa using hc
    show (if (c = ' ' || c = '\t') = true then _ else _) = _
    rw [if_neg hfold]
    rfl
  | cons d s ih =>
    rw [List.mem_cons, not_or] at hs
    rw [List.cons_append, takeFolded_cons (Ne.symm hs.1), ih hs.2]
    rfl

theorem takeFolded_last {s : List Char} (hs : '\n' ∉ s) : takeFolded s = (s, []) := by
  induction s with
  | nil => rfl
  | cons d s ih =>
    rw [List.mem_cons, not_or] at hs
    rw [takeFolded_cons (Ne.symm hs.1), ih hs.2]

/-- Line ends go, and what stands before them stays. -/
theorem dropLineEnds_append {s ends : List Char} (hs : '\r' ∉ s ∧ '\n' ∉ s)
    (hends : ∀ c ∈ ends, c = '\r' ∨ c = '\n') : dropLineEnds (s ++ ends) = s := by
  have hall : ∀ c ∈ ends.reverse, (c = '\r' || c = '\n') = true := by simpa using hends
  unfold dropLineEnds
  rw [List.reverse_append, List.dropWhile_append_of_pos hall]
  show s.rdropWhile (fun c => c = '\r' || c = '\n') = s
  rw [List.rdropWhile_eq_self_iff]
  intro hne
  have hmem : s.getLast hne ∈ s := List.getLast_mem hne
  rw [Bool.or_eq_true, decide_eq_true_eq, decide_eq_true_eq]
  rintro (hcr | hlf)
  · exact hs.1 (hcr ▸ hmem)
  · exact hs.2 (hlf ▸ hmem)

/-! ### One line -/

theorem read_eq (hname : ∀ c ∈ name, isNameChar c = true) (s : List Char) :
    read (name ++ ':' :: s) =
      (⟨name, dropLineEnds (takeFolded (s.dropWhile (· = ' '))).1⟩,
        (takeFolded (s.dropWhile (· = ' '))).2) := by
  unfold read
  rw [List.takeWhile_append_of_pos hname, List.dropWhile_append_of_pos hname,
    List.dropWhile_cons_of_neg (by decide), List.takeWhile_cons_of_neg (by decide),
    List.append_nil]
  rfl

theorem not_mem_dropWhile {p : Char → Bool} {s : List Char} (h : c ∉ s) : c ∉ s.dropWhile p :=
  fun hmem => h ((List.dropWhile_sublist p).subset hmem)

/-- The last line is read as its field. -/
theorem read_last (hname : ∀ c ∈ name, isNameChar c = true) (hvalue : '\r' ∉ value ∧ '\n' ∉ value) :
    read (name ++ ':' :: ' ' :: value) = (⟨name, value.dropWhile (· = ' ')⟩, []) := by
  have hdropped := And.intro (not_mem_dropWhile (p := (· = ' ')) hvalue.1)
    (not_mem_dropWhile (p := (· = ' ')) hvalue.2)
  have hends : dropLineEnds (value.dropWhile (· = ' ') ++ []) = value.dropWhile (· = ' ') :=
    dropLineEnds_append hdropped nofun
  rw [List.append_nil] at hends
  rw [read_eq hname, List.dropWhile_cons_of_pos (by decide), takeFolded_last hdropped.2, hends]

/-- A line is read as its field, if the next line does not start with a blank. -/
theorem read_line (hname : ∀ c ∈ name, isNameChar c = true) (hvalue : '\r' ∉ value ∧ '\n' ∉ value)
    (hc : c ∉ [' ', '\t']) :
    read (name ++ ':' :: ' ' :: value ++ '\r' :: '\n' :: c :: rest) =
      (⟨name, value.dropWhile (· = ' ')⟩, c :: rest) := by
  have hdropped := And.intro (not_mem_dropWhile (p := (· = ' ')) hvalue.1)
    (not_mem_dropWhile (p := (· = ' ')) hvalue.2)
  have hspaces : (' ' :: value ++ '\r' :: '\n' :: c :: rest).dropWhile (· = ' ') =
      value.dropWhile (· = ' ') ++ ['\r'] ++ '\n' :: c :: rest := by
    rw [List.cons_append, List.dropWhile_cons_of_pos (by decide), List.dropWhile_append]
    split
    · next hempty =>
      rw [List.isEmpty_iff.1 hempty, List.dropWhile_cons_of_neg (by decide)]
      rfl
    · rw [List.append_assoc]
      rfl
  have hfolded :
      takeFolded (value.dropWhile (· = ' ') ++ ['\r'] ++ '\n' :: c :: rest) =
        (value.dropWhile (· = ' ') ++ ['\r'] ++ ['\n'], c :: rest) :=
    takeFolded_line (by simpa using hdropped.2) hc
  rw [List.append_assoc, List.cons_append, read_eq hname, hspaces, hfolded, List.append_assoc,
    dropLineEnds_append hdropped (by simp)]

/-! ### All lines -/

/-- The text of a line that starts with a name starts a field. -/
theorem readAll_of_read {f : Field} {name : String} {s : List Char} (hname : IsName name)
    (hread : read (name.toList ++ s) = (f, rest)) :
    readAll (name.toList ++ s) = (readAll rest).map (f :: ·) := by
  obtain ⟨c, cs, hcons⟩ := List.exists_cons_of_ne_nil hname.1
  obtain ⟨hc, hblank⟩ := hname.2 c (hcons ▸ List.mem_cons_self)
  simp only [List.mem_cons, List.not_mem_nil, or_false, not_or] at hblank
  have hlf : c ≠ '\n' := by
    rintro rfl
    exact absurd hc (by decide)
  rw [hcons, List.cons_append] at hread ⊢
  rw [readAll.eq_6 c _ hlf (fun _ h => absurd h hblank.1) hblank.1 hblank.2.1, hread]

/-- A name and a value as they stand on a line. -/
def lineText (f : String × String) : List Char :=
  f.1.toList ++ ':' :: ' ' :: f.2.toList

theorem lineText_eq (f : String × String) : lineText f = (fieldText f).toList := by
  simp [lineText, fieldText]

/-- Lines, the first of which starts with a name, start with a character of that name. -/
theorem exists_head_lines {f : String × String} (hname : IsName f.1)
    (fields : List (String × String)) :
    ∃ c rest, c ∉ [' ', '\t'] ∧
      List.intercalate ['\r', '\n'] ((f :: fields).map lineText) = c :: rest := by
  obtain ⟨c, cs, hcons⟩ := List.exists_cons_of_ne_nil hname.1
  have hc : c ∉ [' ', '\t'] := fun hmem =>
    (hname.2 c (hcons ▸ List.mem_cons_self)).2 (List.mem_cons_of_mem _ hmem)
  obtain ⟨rest, hrest⟩ : ∃ rest,
      List.intercalate ['\r', '\n'] ((f :: fields).map lineText) = c :: rest := by
    cases fields <;> simp [List.intercalate_cons_cons, lineText, hcons]
  exact ⟨c, rest, hc, hrest⟩

/-- Lines that start with names are read as their fields. -/
theorem readAll_lines {fields : List (String × String)}
    (hfields : ∀ f ∈ fields, IsName f.1 ∧ IsLine f.2) :
    readAll (List.intercalate ['\r', '\n'] (fields.map lineText)) = .ok (fields.map ofPair) := by
  induction fields with
  | nil =>
    show readAll [] = _
    rw [readAll]
    rfl
  | cons f fields ih =>
    obtain ⟨⟨hname, hvalue⟩, hrest⟩ := List.forall_mem_cons.1 hfields
    have hchars : ∀ c ∈ f.1.toList, isNameChar c = true := fun c hc => (hname.2 c hc).1
    cases fields with
    | nil =>
      have hread := readAll_of_read hname (read_last hchars hvalue)
      rw [List.map_cons, List.map_nil, List.intercalate_singleton, lineText, hread, readAll]
      rfl
    | cons g fields =>
      obtain ⟨c, next, hc, hnext⟩ :=
        exists_head_lines (List.forall_mem_cons.1 hrest).1.1 fields
      have hline : read (f.1.toList ++ ':' :: ' ' :: f.2.toList ++ '\r' :: '\n' :: c :: next) =
          (ofPair f, c :: next) := read_line hchars hvalue hc
      rw [List.append_assoc] at hline
      have hread := readAll_of_read hname hline
      have hih := ih hrest
      rw [hnext] at hih
      have htext : List.intercalate ['\r', '\n'] ((f :: g :: fields).map lineText) =
          f.1.toList ++ (':' :: ' ' :: f.2.toList ++ '\r' :: '\n' :: c :: next) := by
        rw [← hnext]
        simp [List.intercalate_cons_cons, lineText]
      rw [htext, hread, hih]
      rfl

end Field

/-! ### Messages -/

namespace Message

theorem encode_intercalate (sep : List Char) (ls : List (List Char)) :
    Text.Utf8.encode (List.intercalate sep ls) =
      List.intercalate (Text.Utf8.encode sep) (ls.map Text.Utf8.encode) := by
  induction ls with
  | nil => rfl
  | cons l ls ih =>
    cases ls with
    | nil => simp [List.intercalate_singleton]
    | cons l' ls =>
      rw [List.intercalate_cons_cons, Text.Utf8.encode_append, Text.Utf8.encode_append, ih]
      simp only [List.map_cons, List.intercalate_cons_cons]

/-- The fields of a message that starts with their lines and an empty one. -/
theorem fields_of_lines {m : Message} {fields : List (String × String)} {body : List UInt8}
    (hne : fields ≠ []) (hfields : ∀ f ∈ fields, Field.IsName f.1 ∧ IsLine f.2)
    (hbytes : m.bytes = (fields.map fieldOctets).flatMap (· ++ [13, 10]) ++ 13 :: 10 :: body) :
    m.fields = .ok (fields.map Field.ofPair) := by
  have hlines : ∀ l ∈ fields.map fieldOctets, Text.IsOctetLine l ∧ l ≠ [] := by
    intro l hl
    obtain ⟨f, hf, rfl⟩ := List.mem_map.1 hl
    obtain ⟨⟨_, hname⟩, hvalue⟩ := hfields f hf
    have hline : IsLine f.1 := by
      refine ⟨fun h => ?_, fun h => ?_⟩
      · exact (hname _ h).2 List.mem_cons_self
      · exact absurd (hname _ h).1 (by decide)
    exact ⟨Text.isOctetLine_encode.2 (DeliveryReport.isLine_fieldText.2 ⟨hline, hvalue⟩),
      DeliveryReport.fieldOctets_ne_nil f⟩
  have hmap : fields.map fieldOctets ≠ [] := fun h => hne (List.map_eq_nil_iff.1 h)
  have hheader : m.headerBytes =
      Text.Utf8.encode (List.intercalate ['\r', '\n'] (fields.map Field.lineText)) := by
    have hoctets : fields.map fieldOctets = (fields.map Field.lineText).map Text.Utf8.encode := by
      rw [List.map_map]
      exact List.map_congr_left fun f _ => congrArg Text.Utf8.encode (Field.lineText_eq f).symm
    rw [headerBytes, hbytes, Text.before_blankLine hmap hlines, encode_intercalate, hoctets]
    rfl
  have hread := Field.readAll_lines hfields
  rw [Message.fields, headerBlock, hheader, Text.Utf8.decode_encode]
  show (Field.readAll _).mapError MessageError.malformedHeader = _
  rw [hread]
  rfl

end Message

end MailRouting
