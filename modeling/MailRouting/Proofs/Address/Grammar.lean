import MailRouting.Address

/-!
# What addresses consist of

* `LocalPart.QuotedContent` — what may stand between the quotes of a quoted string, by the grammar;
* `LocalPart.check_eq_ok_iff` — the two forms of a local part;
* `LocalPart.forall_mem_quotable`, `LocalPart.check_asciiLower_iff` — a local part is printable
  ASCII, and a text is a local part exactly if it is one in lower case;
* `DomainGrammar.literal_or_name`, `DomainGrammar.forall_mem_of_checkName` — a domain is a text in
  brackets, or a name of letters, digits, hyphens and dots.
-/

namespace MailRouting

/-! ### Pieces of a text -/

/-- Every character of a text is the separator, or in one of the pieces. -/
theorem Text.exists_mem_splitOn {sep c : Char} {s : List Char} (hc : c ∈ s) (hsep : c ≠ sep) :
    ∃ piece ∈ Text.splitOn sep s, c ∈ piece := by
  induction s with
  | nil => cases hc
  | cons d rest ih =>
    rw [Text.splitOn]
    by_cases hd : d = sep
    · rw [if_pos hd]
      rcases List.mem_cons.1 hc with rfl | hrest
      · exact absurd hd hsep
      · obtain ⟨piece, hpiece, hmem⟩ := ih hrest
        exact ⟨piece, List.mem_cons_of_mem _ hpiece, hmem⟩
    · rw [if_neg hd]
      rcases List.mem_cons.1 hc with rfl | hrest
      · cases Text.splitOn sep rest with
        | nil => exact ⟨[c], List.mem_cons_self, List.mem_cons_self⟩
        | cons piece pieces => exact ⟨c :: piece, List.mem_cons_self, List.mem_cons_self⟩
      · obtain ⟨piece, hpiece, hmem⟩ := ih hrest
        cases hsplit : Text.splitOn sep rest with
        | nil =>
          rw [hsplit] at hpiece
          cases hpiece
        | cons first pieces =>
          rw [hsplit] at hpiece
          rcases List.mem_cons.1 hpiece with rfl | hpiece
          · exact ⟨d :: piece, List.mem_cons_self, List.mem_cons_of_mem d hmem⟩
          · exact ⟨piece, List.mem_cons_of_mem _ hpiece, hmem⟩

/-! ### Local parts -/

namespace LocalPart

open Text (asciiLower)

/-- What may stand between the quotes: characters that stand for themselves, and pairs of a
backslash and a character. -/
inductive QuotedContent : List Char → Prop where
  | nil : QuotedContent []
  | text {c : Char} {s : List Char} :
      isQuotedText c = true → QuotedContent s → QuotedContent (c :: s)
  | pair {c : Char} {s : List Char} :
      isQuotable c = true → QuotedContent s → QuotedContent ('\\' :: c :: s)

theorem checkQuotedContent_eq_ok_iff {s : List Char} :
    checkQuotedContent s = .ok () ↔ QuotedContent s := by
  fun_induction checkQuotedContent s with
  | case1 => exact iff_of_true rfl .nil
  | case2 =>
    refine iff_of_false nofun fun h => ?_
    cases h with
    | text hc _ => cases hc
  | case3 c rest hc ih =>
    rw [ih]
    constructor
    · exact .pair hc
    · intro h
      cases h with
      | text hslash _ => cases hslash
      | pair _ hrest => exact hrest
  | case4 c rest hc =>
    refine iff_of_false nofun fun h => ?_
    cases h with
    | text hslash _ => cases hslash
    | pair hc' _ => exact hc hc'
  | case5 c rest hlast hpair hc ih =>
    rw [ih]
    constructor
    · exact .text hc
    · intro h
      cases h with
      | text _ hrest => exact hrest
      | pair _ _ => cases hc
  | case6 c rest hlast hpair hc =>
    refine iff_of_false nofun fun h => ?_
    cases h with
    | text hc' _ => exact hc hc'
    | pair _ _ => exact hpair _ _ rfl rfl

/-- A quoted string is its content between two quotes. -/
theorem checkQuotedString_eq_ok_iff {s : List Char} :
    checkQuotedString s = .ok () ↔ ∃ content, s = '"' :: content ++ ['"'] ∧
      QuotedContent content := by
  constructor
  · intro h
    unfold checkQuotedString at h
    split at h
    · rename_i rest
      split at h
      · rename_i hlast
        obtain ⟨content, rfl⟩ := List.getLast?_eq_some_iff.1 hlast
        rw [List.dropLast_concat] at h
        exact ⟨content, rfl, checkQuotedContent_eq_ok_iff.1 h⟩
      · cases h
    · cases h
  · rintro ⟨content, rfl, hcontent⟩
    show (if (content ++ ['"']).getLast? = some '"' then
      checkQuotedContent (content ++ ['"']).dropLast else _) = _
    rw [if_pos (List.getLast?_concat ..), List.dropLast_concat]
    exact checkQuotedContent_eq_ok_iff.2 hcontent

/-- A dot-string has only atom characters in its atoms, and no atom is empty. -/
theorem checkAtoms_eq_ok_iff {atoms : List (List Char)} :
    checkAtoms atoms = .ok () ↔
      ∀ atom ∈ atoms, atom ≠ [] ∧ ∀ c ∈ atom, isAtomChar c = true := by
  induction atoms with
  | nil => exact iff_of_true rfl fun atom h => absurd h List.not_mem_nil
  | cons atom rest ih =>
    have hatom : checkAtom atom = .ok () ↔ atom ≠ [] ∧ ∀ c ∈ atom, isAtomChar c = true := by
      unfold checkAtom
      split
      · rename_i hempty
        exact iff_of_false nofun fun h => h.1 (List.isEmpty_iff.1 hempty)
      · rename_i hempty
        rw [List.isEmpty_iff] at hempty
        split
        · rename_i c hfind
          have hc := List.find?_some hfind
          have hmem := List.mem_of_find?_eq_some hfind
          refine iff_of_false nofun fun h => ?_
          rw [h.2 c hmem] at hc
          cases hc
        · rename_i hfind
          refine iff_of_true rfl ⟨hempty, fun c hc => ?_⟩
          simpa using List.find?_eq_none.1 hfind c hc
    rw [List.forall_mem_cons, ← hatom, ← ih, checkAtoms]
    cases checkAtom atom with
    | error e => exact iff_of_false nofun fun h => nomatch h.1
    | ok u => exact (and_iff_right rfl).symm

theorem checkDotString_eq_ok_iff {s : List Char} :
    checkDotString s = .ok () ↔
      (s.head? ≠ some '.' ∧ s.getLast? ≠ some '.') ∧
        ∀ atom ∈ Text.splitOn '.' s, atom ≠ [] ∧ ∀ c ∈ atom, isAtomChar c = true := by
  rw [← checkAtoms_eq_ok_iff, ← not_or]
  unfold checkDotString
  split
  · rename_i hedge
    exact iff_of_false nofun fun h => h.1 hedge
  · rename_i hedge
    exact (and_iff_right hedge).symm

/-- A local part is neither empty nor too long, and has one of the two forms. -/
theorem check_eq_ok_iff {s : List Char} :
    check s = .ok () ↔ s ≠ [] ∧ Text.Utf8.octetCount s ≤ maxOctets ∧
      if s.head? = some '"' then checkQuotedString s = .ok () else checkDotString s = .ok () := by
  unfold check
  split
  · rename_i hempty
    exact iff_of_false nofun fun h => h.1 (List.isEmpty_iff.1 hempty)
  · rename_i hempty
    rw [List.isEmpty_iff] at hempty
    split
    · rename_i hlong
      exact iff_of_false nofun fun h => absurd h.2.1 (Nat.not_le_of_lt hlong)
    · rename_i hlong
      rw [and_iff_right hempty, and_iff_right (Nat.le_of_not_lt hlong)]
      split <;> rfl

/-! ### The characters of a local part -/

theorem ascii_of_isAlphanum {c : Char} (hc : c.isAlphanum = true) : c.toNat < 128 := by
  have hranges : ((decide ('A'.val ≤ c.val ∧ c.val ≤ 'Z'.val) ||
      (decide ('a'.val ≤ c.val) && decide (c.val ≤ 'z'.val))) ||
        (decide ('0'.val ≤ c.val) && decide (c.val ≤ '9'.val))) = true := hc
  simp only [Bool.or_eq_true, Bool.and_eq_true, decide_eq_true_eq,
    UInt32.le_iff_toNat_le] at hranges
  have hupper : 'Z'.val.toNat = 90 := rfl
  have hlower : 'z'.val.toNat = 122 := rfl
  have hdigit : '9'.val.toNat = 57 := rfl
  show c.val.toNat < 128
  omega

theorem ascii_of_isAtomChar {c : Char} (hc : isAtomChar c = true) : c.toNat < 128 := by
  rw [isAtomChar, Bool.or_eq_true, decide_eq_true_eq] at hc
  rcases hc with hc | hc
  · exact ascii_of_isAlphanum hc
  · have hsigns : ['!', '#', '$', '%', '&', '\'', '*', '+', '-', '/', '=', '?', '^', '_', '`',
        '\x7b', '|', '\x7d', '~'].all (fun d => decide (d.toNat < 128)) = true := by decide
    exact of_decide_eq_true (List.all_eq_true.1 hsigns c hc)

theorem ascii_of_isQuotable {c : Char} (hc : isQuotable c = true) : c.toNat < 128 := by
  simp only [isQuotable, Bool.and_eq_true, decide_eq_true_eq] at hc
  exact Nat.lt_of_le_of_lt (UInt32.le_iff_toNat_le.1 hc.2) (by decide)

theorem isQuotable_of_isQuotedText {c : Char} (hc : isQuotedText c = true) :
    isQuotable c = true := by
  simp only [isQuotedText, Bool.and_eq_true] at hc
  simp only [isQuotable, Bool.and_eq_true]
  exact hc.1.1

theorem QuotedContent.forall_mem_quotable {s : List Char} (h : QuotedContent s) :
    ∀ c ∈ s, isQuotable c = true := by
  induction h with
  | nil => exact fun c hc => absurd hc List.not_mem_nil
  | text hc _ ih => exact List.forall_mem_cons.2 ⟨isQuotable_of_isQuotedText hc, ih⟩
  | pair hc _ ih => exact List.forall_mem_cons.2 ⟨by decide, List.forall_mem_cons.2 ⟨hc, ih⟩⟩

theorem isQuotable_of_isAtomChar {c : Char} (hc : isAtomChar c = true) : isQuotable c = true :=
  Text.forall_ascii (P := fun c => isAtomChar c = true → isQuotable c = true) (by decide)
    (ascii_of_isAtomChar hc) hc

/-- The characters of a dot-string are dots and atom characters. -/
theorem forall_mem_of_checkDotString {s : List Char} (h : checkDotString s = .ok ()) :
    ∀ c ∈ s, c = '.' ∨ isAtomChar c = true := by
  intro c hc
  by_cases hdot : c = '.'
  · exact .inl hdot
  · obtain ⟨atom, hatom, hmem⟩ := Text.exists_mem_splitOn hc hdot
    exact .inr (((checkDotString_eq_ok_iff.1 h).2 atom hatom).2 c hmem)

/-- The characters of a local part are printable ones of ASCII and spaces. -/
theorem forall_mem_quotable {s : List Char} (h : check s = .ok ()) :
    ∀ c ∈ s, isQuotable c = true := by
  obtain ⟨_, _, hform⟩ := check_eq_ok_iff.1 h
  split at hform
  · obtain ⟨content, rfl, hcontent⟩ := checkQuotedString_eq_ok_iff.1 hform
    intro c hc
    rcases List.mem_append.1 hc with hc | hc
    · rcases List.mem_cons.1 hc with rfl | hc
      · decide
      · exact hcontent.forall_mem_quotable c hc
    · rw [List.mem_singleton.1 hc]
      decide
  · intro c hc
    rcases forall_mem_of_checkDotString hform c hc with rfl | hatom
    · decide
    · exact isQuotable_of_isAtomChar hatom

/-- A local part is ASCII. -/
theorem forall_mem_ascii {s : List Char} (h : check s = .ok ()) : ∀ c ∈ s, c.toNat < 128 :=
  fun c hc => ascii_of_isQuotable (forall_mem_quotable h c hc)

/-! ### Local parts in lower case -/

theorem isAtomChar_toLower (c : Char) : isAtomChar c.toLower = isAtomChar c := by
  by_cases hc : c.toNat < 128
  · exact Text.forall_ascii (P := fun c => isAtomChar c.toLower = isAtomChar c) (by decide) hc
  · rw [Text.toLower_of_not_ascii hc]

theorem isQuotable_toLower (c : Char) : isQuotable c.toLower = isQuotable c := by
  by_cases hc : c.toNat < 128
  · exact Text.forall_ascii (P := fun c => isQuotable c.toLower = isQuotable c) (by decide) hc
  · rw [Text.toLower_of_not_ascii hc]

theorem isQuotedText_toLower (c : Char) : isQuotedText c.toLower = isQuotedText c := by
  by_cases hc : c.toNat < 128
  · exact Text.forall_ascii (P := fun c => isQuotedText c.toLower = isQuotedText c) (by decide) hc
  · rw [Text.toLower_of_not_ascii hc]

/-- What stands between quotes can stand there in lower case, and nothing else can. -/
theorem quotedContent_asciiLower_iff {s : List Char} :
    QuotedContent (asciiLower s) ↔ QuotedContent s := by
  constructor
  · intro h
    generalize hs : asciiLower s = t at h
    induction h generalizing s with
    | nil =>
      rw [List.map_eq_nil_iff.1 hs]
      exact .nil
    | text hc _ ih =>
      obtain ⟨c, rest, rfl, rfl, hrest⟩ := List.map_eq_cons_iff.1 hs
      rw [isQuotedText_toLower] at hc
      exact .text hc (ih hrest)
    | pair hc _ ih =>
      obtain ⟨slash, tail, rfl, hslash, htail⟩ := List.map_eq_cons_iff.1 hs
      obtain ⟨c, rest, rfl, rfl, hrest⟩ := List.map_eq_cons_iff.1 htail
      rw [Text.toLower_eq_iff (by decide)] at hslash
      rw [isQuotable_toLower] at hc
      rw [hslash]
      exact .pair hc (ih hrest)
  · intro h
    induction h with
    | nil => exact .nil
    | text hc _ ih => exact .text (by rwa [isQuotedText_toLower]) ih
    | pair hc _ ih => exact .pair (by rwa [isQuotable_toLower]) ih

theorem checkQuotedString_asciiLower_iff {s : List Char} :
    checkQuotedString (asciiLower s) = .ok () ↔ checkQuotedString s = .ok () := by
  have hquote : '"'.isAlpha = false := by decide
  rw [checkQuotedString_eq_ok_iff, checkQuotedString_eq_ok_iff]
  constructor
  · rintro ⟨content, hs, hcontent⟩
    obtain ⟨opening, last, rfl, hopening, hlast⟩ := List.map_eq_append_iff.1 hs
    obtain ⟨c, inner, rfl, hc, rfl⟩ := List.map_eq_cons_iff.1 hopening
    obtain ⟨d, rfl, hd⟩ := List.map_eq_singleton_iff.1 hlast
    rw [Text.toLower_eq_iff hquote] at hc hd
    rw [hc, hd]
    exact ⟨inner, rfl, quotedContent_asciiLower_iff.1 hcontent⟩
  · rintro ⟨content, rfl, hcontent⟩
    exact ⟨asciiLower content, List.map_append, quotedContent_asciiLower_iff.2 hcontent⟩

theorem checkDotString_asciiLower_iff {s : List Char} :
    checkDotString (asciiLower s) = .ok () ↔ checkDotString s = .ok () := by
  have hletter : '.'.isAlpha = false := by decide
  rw [checkDotString_eq_ok_iff, checkDotString_eq_ok_iff, ne_eq, ne_eq,
    Text.head?_asciiLower hletter, Text.getLast?_asciiLower hletter,
    DomainGrammar.splitOn_asciiLower hletter, List.forall_mem_map]
  simp only [asciiLower, ne_eq, List.map_eq_nil_iff, List.forall_mem_map, isAtomChar_toLower]

/-- A text is a local part exactly if it is one in lower case. -/
theorem check_asciiLower_iff {s : List Char} :
    check (asciiLower s) = .ok () ↔ check s = .ok () := by
  have hempty : asciiLower s ≠ [] ↔ s ≠ [] := not_congr List.map_eq_nil_iff
  rw [check_eq_ok_iff, check_eq_ok_iff, hempty, DomainGrammar.octetCount_asciiLower,
    checkQuotedString_asciiLower_iff, checkDotString_asciiLower_iff]
  simp only [Text.head?_asciiLower (show '"'.isAlpha = false by decide)]

end LocalPart

/-! ### Domains -/

namespace DomainGrammar

theorem checkName_eq_ok_iff {name : List Char} :
    checkName name = .ok () ↔ name ≠ [] ∧ (name.head? ≠ some '.' ∧ name.getLast? ≠ some '.') ∧
      ∀ label ∈ Text.splitOn '.' name, checkLabel label = .ok () := by
  rw [← checkLabels_eq_ok_iff, ← not_or]
  unfold checkName
  split
  · rename_i hempty
    exact iff_of_false nofun fun h => h.1 (List.isEmpty_iff.1 hempty)
  · rename_i hempty
    rw [List.isEmpty_iff] at hempty
    split
    · rename_i hedge
      exact iff_of_false nofun fun h => h.2.1 hedge
    · rename_i hedge
      rw [and_iff_right hempty, and_iff_right hedge]

/-- The characters of a domain name are dots and those of its labels. -/
theorem forall_mem_of_checkName {name : List Char} (h : checkName name = .ok ()) :
    ∀ c ∈ name, c = '.' ∨ isLabelChar c = true := by
  intro c hc
  by_cases hdot : c = '.'
  · exact .inl hdot
  · obtain ⟨label, hlabel, hmem⟩ := Text.exists_mem_splitOn hc hdot
    have hok := (checkName_eq_ok_iff.1 h).2.2 label hlabel
    exact .inr ((checkLabel_eq_ok_iff.1 hok).2.2 c hmem)

/-- A domain is a text in brackets, or a name. -/
theorem literal_or_name {s : List Char} (h : check s = .ok ()) :
    (∃ content, s = '[' :: content ++ [']']) ∨ s.head? ≠ some '[' ∧ checkName s = .ok () := by
  unfold check at h
  split at h
  · cases h
  · split at h
    · unfold checkLiteral at h
      split at h
      · split at h
        · rename_i hlast
          obtain ⟨content, rfl⟩ := List.getLast?_eq_some_iff.1 hlast
          exact .inl ⟨content, rfl⟩
        · cases h
      · cases h
    · rename_i hhead
      exact .inr ⟨hhead, h⟩

theorem ascii_of_isLabelChar {c : Char} (hc : isLabelChar c = true) : c.toNat < 128 := by
  rw [isLabelChar, Bool.or_eq_true, beq_iff_eq] at hc
  rcases hc with hc | rfl
  · exact LocalPart.ascii_of_isAlphanum hc
  · decide

/-- A domain name is ASCII. -/
theorem forall_mem_ascii_of_checkName {name : List Char} (h : checkName name = .ok ()) :
    ∀ c ∈ name, c.toNat < 128 := by
  intro c hc
  rcases forall_mem_of_checkName h c hc with rfl | hlabel
  · decide
  · exact ascii_of_isLabelChar hlabel

end DomainGrammar

end MailRouting
