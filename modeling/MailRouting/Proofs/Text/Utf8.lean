import MailRouting.Text.Utf8

/-!
# Texts and their octets in UTF-8

* `mem_utf8EncodeChar_iff`, `mem_encode_iff` — an octet below 128 stands for the character of that
  number and is no part of any other, so that marks of ASCII can be looked for in the octets;
* `pieces_utf8EncodeChar_append` — the octets of a character are read as it, whatever follows;
* `decode_encode` — the octets of a text are read as that text;
* `flatMap_octets_pieces`, `decode_eq_ok_iff` — cutting octets into pieces loses none of them, so no
  other octets are read as that text.
-/

namespace MailRouting.Text.Utf8

theorem encode_append (s t : List Char) : encode (s ++ t) = encode s ++ encode t := by
  simp only [encode, List.flatMap_append]

/-- The octets of a character above U+007F are all above 127. -/
theorem le_toNat_of_mem_utf8EncodeChar {c : Char} {b : UInt8} (hc : ¬c.val.toNat ≤ 0x7f)
    (h : b ∈ String.utf8EncodeChar c) : 128 ≤ b.toNat := by
  simp only [String.utf8EncodeChar, if_neg hc] at h
  split at h
  · simp only [List.mem_cons, List.not_mem_nil, or_false] at h
    rcases h with rfl | rfl <;> simp only [UInt8.toNat_ofNat'] <;> omega
  · split at h
    · simp only [List.mem_cons, List.not_mem_nil, or_false] at h
      rcases h with rfl | rfl | rfl <;> simp only [UInt8.toNat_ofNat'] <;> omega
    · simp only [List.mem_cons, List.not_mem_nil, or_false] at h
      rcases h with rfl | rfl | rfl | rfl <;> simp only [UInt8.toNat_ofNat'] <;> omega

theorem utf8EncodeChar_of_le {c : Char} (hc : c.val.toNat ≤ 0x7f) :
    String.utf8EncodeChar c = [UInt8.ofNat c.val.toNat] := by
  simp only [String.utf8EncodeChar, if_pos hc]

/-- An octet below 128 belongs to the character of its number only. -/
theorem mem_utf8EncodeChar_iff {c x : Char} (hx : x.val.toNat ≤ 0x7f) :
    UInt8.ofNat x.val.toNat ∈ String.utf8EncodeChar c ↔ c = x := by
  constructor
  · intro h
    by_cases hc : c.val.toNat ≤ 0x7f
    · rw [utf8EncodeChar_of_le hc, List.mem_singleton] at h
      have hnat := congrArg UInt8.toNat h
      simp only [UInt8.toNat_ofNat'] at hnat
      apply Char.ext
      apply UInt32.toNat_inj.1
      omega
    · have hle := le_toNat_of_mem_utf8EncodeChar hc h
      simp only [UInt8.toNat_ofNat'] at hle
      omega
  · rintro rfl
    rw [utf8EncodeChar_of_le hx]
    exact List.mem_singleton_self _

theorem mem_encode_iff {s : List Char} {x : Char} (hx : x.val.toNat ≤ 0x7f) :
    UInt8.ofNat x.val.toNat ∈ encode s ↔ x ∈ s := by
  simp only [encode, List.mem_flatMap, mem_utf8EncodeChar_iff hx, exists_eq_right]

/-! ### Octets read back -/

/-- The kind of sequence that an octet starts, told from its number. -/
theorem Lead.of_ofNat {n : Nat} (hn : n < 256) :
    Lead.of (UInt8.ofNat n) =
      if n < 0x80 then .single
      else if n < 0xC2 then .none
      else if n < 0xE0 then .pair
      else if n = 0xE0 then .triple 0xA0 0xBF
      else if n = 0xED then .triple 0x80 0x9F
      else if n < 0xF0 then .triple 0x80 0xBF
      else if n = 0xF0 then .quad 0x90 0xBF
      else if n < 0xF4 then .quad 0x80 0xBF
      else if n = 0xF4 then .quad 0x80 0x8F
      else .none := by
  have hnat : (UInt8.ofNat n).toNat = n := UInt8.toNat_ofNat_of_lt' hn
  simp only [Lead.of, UInt8.lt_iff_toNat_lt, ← UInt8.toNat_inj, hnat]
  rfl

theorem toNat_tail (n : Nat) : (UInt8.ofNat (n % 64 + 128)).toNat = n % 64 + 128 :=
  UInt8.toNat_ofNat_of_lt' (show _ < 256 by omega)

theorem tailBits_ofNat (n : Nat) : tailBits (UInt8.ofNat (n % 64 + 128)) = n % 64 := by
  rw [tailBits, toNat_tail]
  omega

theorem mem_range_ofNat {low high : UInt8} {n : Nat} (hlow : low.toNat ≤ n % 64 + 128)
    (hhigh : n % 64 + 128 ≤ high.toNat) :
    (low ≤ UInt8.ofNat (n % 64 + 128) && UInt8.ofNat (n % 64 + 128) ≤ high) = true := by
  simp only [Bool.and_eq_true, decide_eq_true_eq, UInt8.le_iff_toNat_le, toNat_tail]
  exact ⟨hlow, hhigh⟩

theorem isTail_ofNat (n : Nat) : isTail (UInt8.ofNat (n % 64 + 128)) = true := by
  have hhigh : n % 64 + 128 ≤ 191 := by omega
  exact mem_range_ofNat (Nat.le_add_left 128 _) hhigh

/-! The octets of a character that takes two, three or four of them. -/

theorem pieces_pair {n : Nat} (h : 0x80 ≤ n) (h' : n ≤ 0x7ff) (bs : List UInt8) :
    pieces (UInt8.ofNat (n / 64 % 32 + 192) :: UInt8.ofNat (n % 64 + 128) :: bs) =
      .char (Char.ofNat n) :: pieces bs := by
  have hlead : Lead.of (UInt8.ofNat (n / 64 % 32 + 192)) = .pair := by
    rw [Lead.of_ofNat (by omega), if_neg (by omega), if_neg (by omega), if_pos (by omega)]
  have hnat : (UInt8.ofNat (n / 64 % 32 + 192)).toNat = n / 64 % 32 + 192 :=
    UInt8.toNat_ofNat_of_lt' (show _ < 256 by omega)
  have hvalue : (n / 64 % 32 + 192) % 32 * 64 + n % 64 = n := by omega
  rw [pieces.eq_def]
  simp only [hlead]
  rw [if_pos (isTail_ofNat n), tailBits_ofNat, hnat, hvalue]

theorem pieces_triple {n : Nat} (h : 0x800 ≤ n) (h' : n ≤ 0xffff) (hvalid : n.isValidChar)
    (bs : List UInt8) :
    pieces (UInt8.ofNat (n / 4096 % 16 + 224) :: UInt8.ofNat (n / 64 % 64 + 128) ::
        UInt8.ofNat (n % 64 + 128) :: bs) =
      .char (Char.ofNat n) :: pieces bs := by
  have hnat : (UInt8.ofNat (n / 4096 % 16 + 224)).toNat = n / 4096 % 16 + 224 :=
    UInt8.toNat_ofNat_of_lt' (show _ < 256 by omega)
  have hvalue : ((n / 4096 % 16 + 224) % 16 * 64 + n / 64 % 64) * 64 + n % 64 = n := by omega
  obtain ⟨low, high, hlead, hlow, hhigh⟩ : ∃ low high : UInt8,
      Lead.of (UInt8.ofNat (n / 4096 % 16 + 224)) = .triple low high ∧
        low.toNat ≤ n / 64 % 64 + 128 ∧ n / 64 % 64 + 128 ≤ high.toNat := by
    rw [Lead.of_ofNat (by omega), if_neg (by omega), if_neg (by omega), if_neg (by omega)]
    unfold Nat.isValidChar at hvalid
    -- E0 starts what needs three octets, and ED no surrogate
    split
    · exact ⟨_, _, rfl, (by omega : 160 ≤ _), (by omega : _ ≤ 191)⟩
    · split
      · exact ⟨_, _, rfl, (by omega : 128 ≤ _), (by omega : _ ≤ 159)⟩
      · rw [if_pos (by omega)]
        exact ⟨_, _, rfl, (by omega : 128 ≤ _), (by omega : _ ≤ 191)⟩
  rw [pieces.eq_def]
  simp only [hlead]
  rw [if_pos (mem_range_ofNat hlow hhigh), if_pos (isTail_ofNat n), tailBits_ofNat, tailBits_ofNat,
    hnat, hvalue]

theorem pieces_quad {n : Nat} (h : 0x10000 ≤ n) (hvalid : n.isValidChar) (bs : List UInt8) :
    pieces (UInt8.ofNat (n / 262144 % 8 + 240) :: UInt8.ofNat (n / 4096 % 64 + 128) ::
        UInt8.ofNat (n / 64 % 64 + 128) :: UInt8.ofNat (n % 64 + 128) :: bs) =
      .char (Char.ofNat n) :: pieces bs := by
  have hlimit : n < 1114112 := by
    unfold Nat.isValidChar at hvalid
    omega
  have hnat : (UInt8.ofNat (n / 262144 % 8 + 240)).toNat = n / 262144 % 8 + 240 :=
    UInt8.toNat_ofNat_of_lt' (show _ < 256 by omega)
  have hvalue : (((n / 262144 % 8 + 240) % 8 * 64 + n / 4096 % 64) * 64 + n / 64 % 64) * 64 +
      n % 64 = n := by omega
  obtain ⟨low, high, hlead, hlow, hhigh⟩ : ∃ low high : UInt8,
      Lead.of (UInt8.ofNat (n / 262144 % 8 + 240)) = .quad low high ∧
        low.toNat ≤ n / 4096 % 64 + 128 ∧ n / 4096 % 64 + 128 ≤ high.toNat := by
    rw [Lead.of_ofNat (by omega), if_neg (by omega), if_neg (by omega), if_neg (by omega),
      if_neg (by omega), if_neg (by omega), if_neg (by omega)]
    -- F0 starts what needs four octets, and F4 nothing above U+10FFFF
    split
    · exact ⟨_, _, rfl, (by omega : 144 ≤ _), (by omega : _ ≤ 191)⟩
    · split
      · exact ⟨_, _, rfl, (by omega : 128 ≤ _), (by omega : _ ≤ 191)⟩
      · rw [if_pos (by omega)]
        exact ⟨_, _, rfl, (by omega : 128 ≤ _), (by omega : _ ≤ 143)⟩
  rw [pieces.eq_def]
  simp only [hlead]
  rw [if_pos (mem_range_ofNat hlow hhigh), if_pos (isTail_ofNat _), if_pos (isTail_ofNat n),
    tailBits_ofNat, tailBits_ofNat, tailBits_ofNat, hnat, hvalue]

/-- The octets of a character are read as that character, whatever follows. -/
theorem pieces_utf8EncodeChar_append (c : Char) (bs : List UInt8) :
    pieces (String.utf8EncodeChar c ++ bs) = .char c :: pieces bs := by
  have hchar : Char.ofNat c.val.toNat = c := Char.ofNat_toNat c
  unfold String.utf8EncodeChar
  dsimp only
  by_cases h₁ : c.val.toNat ≤ 0x7f
  · have hlead : Lead.of (UInt8.ofNat c.val.toNat) = .single := by
      rw [Lead.of_ofNat (by omega), if_pos (by omega)]
    have hnat : (UInt8.ofNat c.val.toNat).toNat = c.val.toNat :=
      UInt8.toNat_ofNat_of_lt' (show _ < 256 by omega)
    rw [if_pos h₁, List.singleton_append, pieces.eq_def]
    simp only [hlead]
    rw [hnat, hchar]
  · rw [if_neg h₁]
    by_cases h₂ : c.val.toNat ≤ 0x7ff
    · rw [if_pos h₂]
      exact (pieces_pair (by omega) h₂ bs).trans (by rw [hchar])
    · rw [if_neg h₂]
      by_cases h₃ : c.val.toNat ≤ 0xffff
      · rw [if_pos h₃]
        exact (pieces_triple (by omega) h₃ c.valid bs).trans (by rw [hchar])
      · rw [if_neg h₃]
        exact (pieces_quad (by omega) c.valid bs).trans (by rw [hchar])

theorem pieces_encode (s : List Char) : pieces (encode s) = s.map .char := by
  induction s with
  | nil => rfl
  | cons c s ih =>
    show pieces (String.utf8EncodeChar c ++ encode s) = _
    rw [pieces_utf8EncodeChar_append, ih, List.map_cons]

theorem textOf_map_char (s : List Char) (index : Nat) : textOf index (s.map .char) = .ok s := by
  induction s generalizing index with
  | nil => rfl
  | cons c s ih =>
    rw [List.map_cons, textOf, ih]
    rfl

/-- The octets of a text are read as that text. -/
theorem decode_encode (s : List Char) : decode (encode s) = .ok s := by
  rw [decode, pieces_encode, textOf_map_char]

/-! ### Texts written back -/

/-- The lead octet of a sequence is in a range that its kind tells, and so is the second one where
it has a range of its own. -/
def Lead.Fits (n : Nat) : Lead → Prop
  | .single => n < 0x80
  | .pair => 0xC2 ≤ n ∧ n < 0xE0
  | .triple low high => 0xE0 ≤ n ∧ n < 0xF0 ∧ 0x80 ≤ low.toNat ∧ high.toNat ≤ 0xBF ∧
      (n = 0xE0 → 0xA0 ≤ low.toNat) ∧ (n = 0xED → high.toNat ≤ 0x9F)
  | .quad low high => 0xF0 ≤ n ∧ n < 0xF5 ∧ 0x80 ≤ low.toNat ∧ high.toNat ≤ 0xBF ∧
      (n = 0xF0 → 0x90 ≤ low.toNat) ∧ (n = 0xF4 → high.toNat ≤ 0x8F)
  | .none => True

theorem Lead.fits_of (a : UInt8) : (Lead.of a).Fits a.toNat := by
  have h := Lead.of_ofNat a.toNat_lt
  rw [UInt8.ofNat_toNat] at h
  rw [h]
  repeat' split
  all_goals simp [Fits]
  all_goals omega

theorem toNat_val_ofNat {n : Nat} (h : n.isValidChar) : (Char.ofNat n).val.toNat = n := by
  unfold Char.ofNat
  rw [dif_pos h]
  rfl

theorem eq_ofNat_of_toNat {a : UInt8} {n : Nat} (h : n = a.toNat) : UInt8.ofNat n = a := by
  rw [h, UInt8.ofNat_toNat]

theorem isTail_iff {b : UInt8} : isTail b = true ↔ 128 ≤ b.toNat ∧ b.toNat ≤ 191 := by
  simp only [isTail, Bool.and_eq_true, decide_eq_true_eq, UInt8.le_iff_toNat_le]
  rfl

/-! The octets of the character that one, two, three or four octets are read as. -/

theorem utf8EncodeChar_single {a : UInt8} (ha : a.toNat < 128) :
    String.utf8EncodeChar (Char.ofNat a.toNat) = [a] := by
  have hval : (Char.ofNat a.toNat).val.toNat = a.toNat := toNat_val_ofNat (.inl (by omega))
  rw [utf8EncodeChar_of_le (by omega), hval, UInt8.ofNat_toNat]

theorem utf8EncodeChar_pair {a b : UInt8} (ha : 0xC2 ≤ a.toNat ∧ a.toNat < 0xE0)
    (hb : 128 ≤ b.toNat ∧ b.toNat ≤ 191) :
    String.utf8EncodeChar (Char.ofNat (a.toNat % 32 * 64 + tailBits b)) = [a, b] := by
  unfold tailBits
  have hval := toNat_val_ofNat (n := a.toNat % 32 * 64 + b.toNat % 64) (.inl (by omega))
  simp only [String.utf8EncodeChar]
  rw [hval, if_neg (by omega), if_pos (by omega), eq_ofNat_of_toNat (a := a) (by omega),
    eq_ofNat_of_toNat (a := b) (by omega)]

theorem utf8EncodeChar_triple {a b c : UInt8} (ha : 0xE0 ≤ a.toNat ∧ a.toNat < 0xF0)
    (hb : 128 ≤ b.toNat ∧ b.toNat ≤ 191) (hc : 128 ≤ c.toNat ∧ c.toNat ≤ 191)
    (hlow : a.toNat = 0xE0 → 0xA0 ≤ b.toNat) (hhigh : a.toNat = 0xED → b.toNat ≤ 0x9F) :
    String.utf8EncodeChar (Char.ofNat ((a.toNat % 16 * 64 + tailBits b) * 64 + tailBits c)) =
      [a, b, c] := by
  unfold tailBits
  have hvalid : ((a.toNat % 16 * 64 + b.toNat % 64) * 64 + c.toNat % 64).isValidChar := by
    unfold Nat.isValidChar
    omega
  simp only [String.utf8EncodeChar]
  rw [toNat_val_ofNat hvalid, if_neg (by omega), if_neg (by omega), if_pos (by omega),
    eq_ofNat_of_toNat (a := a) (by omega), eq_ofNat_of_toNat (a := b) (by omega),
    eq_ofNat_of_toNat (a := c) (by omega)]

theorem utf8EncodeChar_quad {a b c d : UInt8} (ha : 0xF0 ≤ a.toNat ∧ a.toNat < 0xF5)
    (hb : 128 ≤ b.toNat ∧ b.toNat ≤ 191) (hc : 128 ≤ c.toNat ∧ c.toNat ≤ 191)
    (hd : 128 ≤ d.toNat ∧ d.toNat ≤ 191) (hlow : a.toNat = 0xF0 → 0x90 ≤ b.toNat)
    (hhigh : a.toNat = 0xF4 → b.toNat ≤ 0x8F) :
    String.utf8EncodeChar
        (Char.ofNat (((a.toNat % 8 * 64 + tailBits b) * 64 + tailBits c) * 64 + tailBits d)) =
      [a, b, c, d] := by
  unfold tailBits
  have hvalid :
      (((a.toNat % 8 * 64 + b.toNat % 64) * 64 + c.toNat % 64) * 64 +
        d.toNat % 64).isValidChar := by
    unfold Nat.isValidChar
    omega
  simp only [String.utf8EncodeChar]
  rw [toNat_val_ofNat hvalid, if_neg (by omega), if_neg (by omega), if_neg (by omega),
    eq_ofNat_of_toNat (a := a) (by omega), eq_ofNat_of_toNat (a := b) (by omega),
    eq_ofNat_of_toNat (a := c) (by omega), eq_ofNat_of_toNat (a := d) (by omega)]

theorem mem_range_iff {low high b : UInt8} :
    (decide (low ≤ b) && decide (b ≤ high)) = true ↔
      low.toNat ≤ b.toNat ∧ b.toNat ≤ high.toNat := by
  simp only [Bool.and_eq_true, decide_eq_true_eq, UInt8.le_iff_toNat_le]

/-- Cutting octets into pieces loses none of them. -/
theorem flatMap_octets_pieces (bs : List UInt8) : (pieces bs).flatMap Piece.octets = bs := by
  fun_induction pieces bs with
  | case2 a rest hlead ih =>
    have ha := Lead.fits_of a
    rw [hlead] at ha
    rw [List.flatMap_cons, ih, Piece.octets, utf8EncodeChar_single ha]
    rfl
  | case5 a hlead b rest hb ih =>
    have ha := Lead.fits_of a
    rw [hlead] at ha
    rw [List.flatMap_cons, ih, Piece.octets, utf8EncodeChar_pair ha (isTail_iff.1 hb)]
    rfl
  | case9 a low high hlead b hb c rest hc ih =>
    have ha := Lead.fits_of a
    rw [hlead] at ha
    obtain ⟨hle, hlt, hlow, hhigh, hfirst, hlast⟩ := ha
    rw [mem_range_iff] at hb
    rw [List.flatMap_cons, ih, Piece.octets, utf8EncodeChar_triple ⟨hle, hlt⟩ (by omega)
      (isTail_iff.1 hc) (by omega) (by omega)]
    rfl
  | case15 a low high hlead b hb c hc d rest hd ih =>
    have ha := Lead.fits_of a
    rw [hlead] at ha
    obtain ⟨hle, hlt, hlow, hhigh, hfirst, hlast⟩ := ha
    rw [mem_range_iff] at hb
    rw [List.flatMap_cons, ih, Piece.octets, utf8EncodeChar_quad ⟨hle, hlt⟩ (by omega)
      (isTail_iff.1 hc) (isTail_iff.1 hd) (by omega) (by omega)]
    rfl
  | _ => simp [Piece.octets, *]

theorem eq_map_char_of_textOf {ps : List Piece} {index : Nat} {s : List Char}
    (h : textOf index ps = .ok s) : ps = s.map .char := by
  induction ps generalizing index s with
  | nil =>
    cases h
    rfl
  | cons p ps ih =>
    cases p with
    | char c =>
      rw [textOf] at h
      cases hrest : textOf (index + c.utf8Size) ps with
      | error e =>
        rw [hrest] at h
        cases h
      | ok rest =>
        rw [hrest] at h
        cases h
        rw [List.map_cons, ih hrest]
    | invalid bs => cases h
    | cut bs => cases h

/-- Octets are read as a text exactly if they are the octets of that text. -/
theorem decode_eq_ok_iff {bs : List UInt8} {s : List Char} : decode bs = .ok s ↔ encode s = bs := by
  constructor
  · intro h
    have hpieces : pieces bs = s.map .char := eq_map_char_of_textOf h
    rw [← flatMap_octets_pieces bs, hpieces, List.flatMap_map]
    rfl
  · rintro rfl
    exact decode_encode s

end MailRouting.Text.Utf8
