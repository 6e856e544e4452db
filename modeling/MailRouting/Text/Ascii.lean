/-!
# Letters of ASCII

* `asciiLower` — a text with its capitals A to Z in lower case and all else as it is;
* `equalIgnoringCase` — equality of texts up to the case of these letters;
* `forall_ascii` — what holds of 128 characters holds of every character of ASCII.

Lowering changes letters only, and turns letters into letters (`toLower_eq_self_or`), so that it
keeps every mark, every digit and the number of octets.
-/

namespace MailRouting.Text

/-- The text with the capitals of ASCII in lower case and all else as it is. -/
def asciiLower (s : List Char) : List Char :=
  s.map Char.toLower

/-- Whether two texts differ at most in the case of ASCII letters. -/
def equalIgnoringCase (s t : List Char) : Bool :=
  asciiLower s == asciiLower t

/-! ### Single characters -/

/-- What holds of the first 128 code points holds of every character of ASCII. -/
theorem forall_ascii {P : Char → Prop} (h : ∀ n < 128, P (Char.ofNat n)) {c : Char}
    (hc : c.toNat < 128) : P c := by
  have := h c.toNat hc
  rwa [Char.ofNat_toNat] at this

theorem toLower_of_not_ascii {c : Char} (hc : ¬c.toNat < 128) : c.toLower = c := by
  unfold Char.toLower
  rw [dif_neg]
  rintro ⟨_, h⟩
  rw [UInt32.le_iff_toNat_le] at h
  exact hc (Nat.lt_of_le_of_lt h (by decide))

/-- Lowering leaves a character as it is, or turns a letter into a letter. -/
theorem toLower_eq_self_or (c : Char) :
    c.toLower = c ∨ (c.isAlpha = true ∧ c.toLower.isAlpha = true) := by
  by_cases h : c.toNat < 128
  · exact forall_ascii
      (P := fun c => c.toLower = c ∨ (c.isAlpha = true ∧ c.toLower.isAlpha = true))
      (by decide) h
  · exact .inl (toLower_of_not_ascii h)

theorem toLower_toLower (c : Char) : c.toLower.toLower = c.toLower := by
  by_cases h : c.toNat < 128
  · exact forall_ascii (P := fun c => c.toLower.toLower = c.toLower) (by decide) h
  · rw [toLower_of_not_ascii h, toLower_of_not_ascii h]

/-- A character that is no letter is the lower-case form of itself alone. -/
theorem toLower_eq_iff {c x : Char} (hx : x.isAlpha = false) : c.toLower = x ↔ c = x := by
  constructor
  · rintro rfl
    rcases toLower_eq_self_or c with h | ⟨_, h⟩
    · exact h.symm
    · rw [hx] at h
      cases h
  · rintro rfl
    rcases toLower_eq_self_or c with h | ⟨h, _⟩
    · exact h
    · rw [hx] at h
      cases h

theorem isAlphanum_toLower (c : Char) : c.toLower.isAlphanum = c.isAlphanum := by
  rcases toLower_eq_self_or c with h | ⟨h, h'⟩
  · rw [h]
  · simp [Char.isAlphanum, h, h']

theorem isDigit_toLower (c : Char) : c.toLower.isDigit = c.isDigit := by
  by_cases h : c.toNat < 128
  · exact forall_ascii (P := fun c => c.toLower.isDigit = c.isDigit) (by decide) h
  · rw [toLower_of_not_ascii h]

theorem toLower_of_isDigit {c : Char} (hc : c.isDigit = true) : c.toLower = c := by
  by_cases h : c.toNat < 128
  · exact forall_ascii (P := fun c => c.isDigit = true → c.toLower = c) (by decide) h hc
  · exact toLower_of_not_ascii h

theorem utf8Size_toLower (c : Char) : c.toLower.utf8Size = c.utf8Size := by
  by_cases h : c.toNat < 128
  · exact forall_ascii (P := fun c => c.toLower.utf8Size = c.utf8Size) (by decide) h
  · rw [toLower_of_not_ascii h]

/-! ### Texts -/

/-- Whether a text is ASCII can be told from its characters one by one. -/
theorem ascii_of_all {s : List Char} (h : s.all (·.toNat < 128) = true) :
    ∀ c ∈ s, c.toNat < 128 :=
  fun c hc => of_decide_eq_true (List.all_eq_true.1 h c hc)

theorem asciiLower_asciiLower (s : List Char) : asciiLower (asciiLower s) = asciiLower s := by
  simp only [asciiLower, List.map_map]
  exact List.map_congr_left fun c _ => toLower_toLower c

theorem head?_asciiLower {s : List Char} {x : Char} (hx : x.isAlpha = false) :
    (asciiLower s).head? = some x ↔ s.head? = some x := by
  simp [asciiLower, toLower_eq_iff hx]

theorem getLast?_asciiLower {s : List Char} {x : Char} (hx : x.isAlpha = false) :
    (asciiLower s).getLast? = some x ↔ s.getLast? = some x := by
  simp [asciiLower, toLower_eq_iff hx]

end MailRouting.Text
