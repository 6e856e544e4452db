import MailRouting.Text.Lowercase

/-!
# Lower case and ASCII

* `lowercase_of_ascii` — on ASCII the lower case of a text is that of its letters one by one;
* `lowercase_append_at` — no letter looks past an `@`, so that the two sides of one are lowered on
  their own;
* `lowercase_brackets` — brackets around a text stay;
* `toLower_of_mem_lowercase`, `at_mem_lowercase_iff` — a text in lower case has no capitals of
  ASCII, and an `@` exactly where the text had one;
* `CaseRun.avoids`, `all_avoids` — the table takes no character to one that it takes further;
* `lowercase_lowercase` — so a text in lower case stays as it is.
-/

namespace MailRouting.Text

/-! ### Single characters -/

theorem lowerChar_of_ascii {c : Char} (hc : c.toNat < 128) : lowerChar c = [c.toLower] :=
  if_pos hc

theorem toLower_of_not_capital {c : Char} (hc : ¬(65 ≤ c.toNat ∧ c.toNat ≤ 90)) :
    c.toLower = c := by
  by_cases h : c.toNat < 128
  · exact forall_ascii (P := fun c => ¬(65 ≤ c.toNat ∧ c.toNat ≤ 90) → c.toLower = c)
      (by decide) h hc
  · exact toLower_of_not_ascii h

/-- No run of the table leads to a sign or a capital of ASCII. -/
theorem all_lowerRuns :
    lowerRuns.all (fun run => decide (90 < (run.first : Int) + run.shift)) = true := by
  decide +kernel

theorem lt_lowerCode {n : Nat} (hn : 128 ≤ n) : 90 < lowerCode n := by
  unfold lowerCode
  cases hfind : lowerRuns.find? (·.covers n) with
  | none =>
    show 90 < n
    omega
  | some run =>
    have hrun := List.all_eq_true.1 all_lowerRuns run (List.mem_of_find?_eq_some hfind)
    have hcovers := List.find?_some hfind
    simp only [CaseRun.covers, Bool.and_eq_true, decide_eq_true_eq] at hcovers hrun
    show 90 < ((n : Int) + run.shift).toNat
    omega

/-- What a character above ASCII is lowered to is neither a sign nor a capital of ASCII. -/
theorem not_sign_of_mem_lowerChar {c x : Char} (hc : ¬c.toNat < 128) (hx : x ∈ lowerChar c) :
    x ≠ '@' ∧ x.toLower = x := by
  unfold lowerChar at hx
  rw [if_neg hc] at hx
  split at hx
  · have hcases : x = 'i' ∨ x = '\u0307' := by simpa using hx
    rcases hcases with rfl | rfl <;> decide
  · rw [List.mem_singleton] at hx
    have hlt := lt_lowerCode (Nat.le_of_not_lt hc)
    have hcode : x.toNat = lowerCode c.toNat ∨ x.toNat = 0 := by
      rw [hx, Char.ofNat]
      by_cases hvalid : (lowerCode c.toNat).isValidChar
      · rw [dif_pos hvalid]
        exact .inl rfl
      · rw [dif_neg hvalid]
        exact .inr rfl
    refine ⟨?_, toLower_of_not_capital (by omega)⟩
    rintro rfl
    have hsign : ('@' : Char).toNat = 64 := rfl
    omega

theorem at_mem_lowerChar_iff {c : Char} : '@' ∈ lowerChar c ↔ c = '@' := by
  by_cases hc : c.toNat < 128
  · rw [lowerChar_of_ascii hc, List.mem_singleton, eq_comm, toLower_eq_iff (by decide)]
  · constructor
    · intro h
      exact absurd rfl (not_sign_of_mem_lowerChar hc h).1
    · rintro rfl
      exact absurd (by decide) hc

theorem toLower_of_mem_lowerChar {c x : Char} (hx : x ∈ lowerChar c) : x.toLower = x := by
  by_cases hc : c.toNat < 128
  · rw [lowerChar_of_ascii hc, List.mem_singleton] at hx
    rw [hx, toLower_toLower]
  · exact (not_sign_of_mem_lowerChar hc hx).2

/-! ### ASCII texts -/

theorem lowercaseAfter_of_ascii {s : List Char} (hs : ∀ c ∈ s, c.toNat < 128) (seen : List Char) :
    lowercaseAfter seen s = asciiLower s := by
  induction s generalizing seen with
  | nil => rfl
  | cons c s ih =>
    obtain ⟨hc, hrest⟩ := List.forall_mem_cons.1 hs
    have hsigma : c ≠ 'Σ' := by
      rintro rfl
      exact absurd hc (by decide)
    rw [lowercaseAfter, if_neg hsigma, lowerChar_of_ascii hc, ih hrest]
    rfl

/-- On ASCII the lower case of a text is that of its letters. -/
theorem lowercase_of_ascii {s : List Char} (hs : ∀ c ∈ s, c.toNat < 128) :
    lowercase s = asciiLower s :=
  lowercaseAfter_of_ascii hs []

/-! ### The two sides of a sign -/

/-- A search for a cased letter ends at an `@`. -/
theorem startsCased_append_at (s t : List Char) : startsCased (s ++ '@' :: t) = startsCased s := by
  unfold startsCased
  rw [List.dropWhile_append]
  cases hdrop : s.dropWhile isCaseIgnorable with
  | nil => rfl
  | cons c rest => rfl

/-- What stands before an `@` does not matter for what comes after it. -/
theorem lowercaseAfter_append_at (u seen t : List Char) :
    lowercaseAfter (u ++ '@' :: seen) t = lowercaseAfter u t := by
  induction t generalizing u with
  | nil => rfl
  | cons c t ih =>
    rw [lowercaseAfter, lowercaseAfter, startsCased_append_at, ← List.cons_append, ih]

theorem lowercaseAfter_at (seen s t : List Char) :
    lowercaseAfter seen (s ++ '@' :: t) = lowercaseAfter seen s ++ '@' :: lowercase t := by
  induction s generalizing seen with
  | nil =>
    show lowerChar '@' ++ lowercaseAfter ([] ++ '@' :: seen) t = _
    rw [lowercaseAfter_append_at]
    rfl
  | cons c s ih =>
    rw [List.cons_append, lowercaseAfter, lowercaseAfter, startsCased_append_at, ih,
      List.append_assoc]

/-- The sides of an `@` are lowered on their own. -/
theorem lowercase_append_at (s t : List Char) :
    lowercase (s ++ '@' :: t) = lowercase s ++ '@' :: lowercase t :=
  lowercaseAfter_at [] s t

theorem lowercaseAfter_bracket (seen s : List Char) :
    ∃ t, lowercaseAfter seen (s ++ [']']) = t ++ [']'] := by
  induction s generalizing seen with
  | nil => exact ⟨[], rfl⟩
  | cons c s ih =>
    obtain ⟨t, ht⟩ := ih (c :: seen)
    rw [List.cons_append, lowercaseAfter, ht, ← List.append_assoc]
    exact ⟨_, rfl⟩

/-- A text in brackets stays in brackets. -/
theorem lowercase_brackets (s : List Char) :
    ∃ t, lowercase ('[' :: s ++ [']']) = '[' :: t ++ [']'] := by
  obtain ⟨t, ht⟩ := lowercaseAfter_bracket ['['] s
  exact ⟨t, congrArg ('[' :: ·) ht⟩

/-! ### What a text in lower case consists of -/

theorem exists_of_mem_lowercaseAfter {x : Char} {s seen : List Char}
    (hx : x ∈ lowercaseAfter seen s) : (∃ c ∈ s, x ∈ lowerChar c) ∨ x = 'ς' ∨ x = 'σ' := by
  induction s generalizing seen with
  | nil => cases hx
  | cons c s ih =>
    rw [lowercaseAfter] at hx
    rcases List.mem_append.1 hx with hx | hx
    · split at hx
      · split at hx
        · exact .inr (.inl (List.mem_singleton.1 hx))
        · exact .inr (.inr (List.mem_singleton.1 hx))
      · exact .inl ⟨c, List.mem_cons_self, hx⟩
    · rcases ih hx with ⟨d, hd, hxd⟩ | hsigma
      · exact .inl ⟨d, List.mem_cons_of_mem c hd, hxd⟩
      · exact .inr hsigma

theorem toLower_of_mem_lowercase {x : Char} {s : List Char} (hx : x ∈ lowercase s) :
    x.toLower = x := by
  rcases exists_of_mem_lowercaseAfter hx with ⟨c, _, hxc⟩ | rfl | rfl
  · exact toLower_of_mem_lowerChar hxc
  · decide
  · decide

/-- A text in lower case has no capitals of ASCII. -/
theorem asciiLower_lowercase (s : List Char) : asciiLower (lowercase s) = lowercase s := by
  rw [asciiLower, List.map_congr_left fun x hx => toLower_of_mem_lowercase hx, List.map_id']

/-- Lowering neither makes nor takes away an `@`. -/
theorem at_mem_lowercase_iff {s : List Char} : '@' ∈ lowercase s ↔ '@' ∈ s := by
  constructor
  · intro h
    rcases exists_of_mem_lowercaseAfter h with ⟨c, hc, hat⟩ | h | h
    · rwa [← at_mem_lowerChar_iff.1 hat]
    · exact absurd h (by decide)
    · exact absurd h (by decide)
  · intro h
    obtain ⟨u, v, rfl⟩ := List.append_of_mem h
    rw [lowercase_append_at]
    exact List.mem_append_right _ List.mem_cons_self

/-! ### Lowering twice -/

/-- Where a run takes a code point. -/
def CaseRun.target (run : CaseRun) (n : Nat) : Nat :=
  (n + run.shift).toNat

/-- The targets of a run lie before another run, or behind it, or between its code points. -/
def CaseRun.avoids (run other : CaseRun) : Bool :=
  Nat.blt (run.target run.last) other.first || Nat.blt other.last (run.target run.first) ||
    ((Nat.beq run.first run.last || Nat.beq (run.step % other.step) 0) &&
      Nat.ble other.first (run.target run.first) &&
      Nat.blt 0 ((run.target run.first - other.first) % other.step))

namespace CaseRun

variable {run other : CaseRun} {n : Nat}

theorem covers_iff :
    run.covers n = true ↔ (run.first ≤ n ∧ n ≤ run.last) ∧ run.step ∣ n - run.first := by
  simp [covers, Nat.dvd_iff_mod_eq_zero]

theorem avoids_iff : run.avoids other = true ↔
    run.target run.last < other.first ∨ other.last < run.target run.first ∨
      ((run.first = run.last ∨ other.step ∣ run.step) ∧ other.first ≤ run.target run.first ∧
        ¬other.step ∣ run.target run.first - other.first) := by
  simp [avoids, Nat.blt_eq, Nat.dvd_iff_mod_eq_zero, Nat.pos_iff_ne_zero, and_assoc, or_assoc]

/-- A run that avoids another one takes no code point into it. -/
theorem not_covers_target (hpositive : 0 ≤ run.first + run.shift)
    (havoids : run.avoids other = true) (hn : run.covers n = true) :
    ¬other.covers (run.target n) = true := by
  obtain ⟨⟨hfirst, hlast⟩, hstep⟩ := covers_iff.1 hn
  have htarget : run.target n = run.target run.first + (n - run.first) := by
    unfold target
    omega
  have hle : run.target n ≤ run.target run.last := by
    unfold target
    omega
  intro hcovers
  obtain ⟨⟨hfirst', hlast'⟩, hstep'⟩ := covers_iff.1 hcovers
  rcases avoids_iff.1 havoids with hbefore | hbehind | ⟨hstride, hinside, hbetween⟩
  · omega
  · omega
  · have hdvd : other.step ∣ n - run.first := by
      rcases hstride with hsingle | hstride
      · have hzero : n - run.first = 0 := by omega
        rw [hzero]
        exact Nat.dvd_zero _
      · exact Nat.dvd_trans hstride hstep
    have hsplit : run.target n - other.first =
        (run.target run.first - other.first) + (n - run.first) := by omega
    rw [hsplit] at hstep'
    exact hbetween ((Nat.dvd_add_left hdvd).1 hstep')

end CaseRun

/-- The one code point with a lower-case form of two characters, as a run of its own. -/
def dottedRun : CaseRun := ⟨0x130, 0x130, 1, 0⟩

/-- No run takes a code point into any run. -/
theorem all_avoids :
    (lowerRuns.all fun run => (dottedRun :: lowerRuns).all run.avoids) = true := by
  decide +kernel

theorem not_covers_lowerCode {n : Nat} {run other : CaseRun}
    (hfind : lowerRuns.find? (·.covers n) = some run) (hother : other ∈ dottedRun :: lowerRuns) :
    ¬other.covers (lowerCode n) = true := by
  have hmem : run ∈ lowerRuns := List.mem_of_find?_eq_some hfind
  have hcovers : run.covers n = true :=
    List.find?_some (p := fun run : CaseRun => run.covers n) hfind
  have hpositive : 90 < (run.first : Int) + run.shift :=
    of_decide_eq_true (List.all_eq_true.1 all_lowerRuns run hmem)
  have havoids : run.avoids other = true :=
    List.all_eq_true.1 (List.all_eq_true.1 all_avoids run hmem) other hother
  have htarget : lowerCode n = run.target n := by
    rw [lowerCode, hfind]
    rfl
  rw [htarget]
  exact CaseRun.not_covers_target (by omega) havoids hcovers

/-- A code point in lower case stays as it is. -/
theorem lowerCode_lowerCode (n : Nat) : lowerCode (lowerCode n) = lowerCode n := by
  cases hfind : lowerRuns.find? (·.covers n) with
  | none =>
    have hsame : lowerCode n = n := by rw [lowerCode, hfind]
    rw [hsame, hsame]
  | some run =>
    have hnone : lowerRuns.find? (·.covers (lowerCode n)) = none := by
      rw [List.find?_eq_none]
      intro other hother
      exact not_covers_lowerCode hfind (List.mem_cons_of_mem _ hother)
    rw [lowerCode.eq_def (lowerCode n), hnone]

theorem lowerCode_ne_dotted {n : Nat} (hn : n ≠ 0x130) : lowerCode n ≠ 0x130 := by
  cases hfind : lowerRuns.find? (·.covers n) with
  | none =>
    have hsame : lowerCode n = n := by rw [lowerCode, hfind]
    rwa [hsame]
  | some run =>
    intro hdotted
    have hnot := not_covers_lowerCode hfind List.mem_cons_self
    rw [hdotted] at hnot
    exact hnot (by decide)

/-- What is not ASCII comes out of the table, unless it is a part of the one longer form. -/
theorem toNat_of_mem_lowerChar {c x : Char} (hx : x ∈ lowerChar c) (hascii : ¬x.toNat < 128)
    (hdotted : c.toNat ≠ 0x130) : x.toNat = lowerCode c.toNat := by
  have hc : ¬c.toNat < 128 := by
    intro hc
    rw [lowerChar_of_ascii hc, List.mem_singleton] at hx
    have hlow := forall_ascii (P := fun c => c.toLower.toNat < 128) (by decide) hc
    rw [hx] at hascii
    exact hascii hlow
  rw [lowerChar, if_neg hc, if_neg hdotted, List.mem_singleton] at hx
  rw [hx, Char.ofNat] at hascii ⊢
  by_cases hvalid : (lowerCode c.toNat).isValidChar
  · rw [dif_pos hvalid]
    rfl
  · rw [dif_neg hvalid] at hascii
    exact absurd (by decide) hascii

theorem lowerChar_of_code {x : Char} {n : Nat} (hascii : ¬x.toNat < 128) (hn : n ≠ 0x130)
    (hx : x.toNat = lowerCode n) : lowerChar x = [x] ∧ x ≠ 'Σ' := by
  constructor
  · have hne : x.toNat ≠ 0x130 := by
      rw [hx]
      exact lowerCode_ne_dotted hn
    rw [lowerChar, if_neg hascii, if_neg hne, hx, lowerCode_lowerCode, ← hx, Char.ofNat_toNat]
  · intro hsigma
    have htwice := lowerCode_lowerCode n
    rw [← hx, hsigma] at htwice
    exact absurd htwice (by decide)

/-- What a character is lowered to stays as it is, and is no capital sigma. -/
theorem lowerChar_of_mem_lowerChar {c x : Char} (hx : x ∈ lowerChar c) :
    lowerChar x = [x] ∧ x ≠ 'Σ' := by
  by_cases hascii : x.toNat < 128
  · rw [lowerChar_of_ascii hascii, toLower_of_mem_lowerChar hx]
    refine ⟨rfl, ?_⟩
    intro hsigma
    rw [hsigma] at hascii
    exact absurd hascii (by decide)
  · by_cases hdotted : c.toNat = 0x130
    · have hlong : ¬c.toNat < 128 := by omega
      rw [lowerChar, if_neg hlong, if_pos hdotted] at hx
      simp only [List.mem_cons, List.not_mem_nil, or_false] at hx
      rcases hx with hx | hx
      · rw [hx]
        decide
      · rw [hx]
        decide
    · exact lowerChar_of_code hascii hdotted (toNat_of_mem_lowerChar hx hascii hdotted)

theorem lowercaseAfter_of_lower {s : List Char} (hs : ∀ c ∈ s, lowerChar c = [c] ∧ c ≠ 'Σ')
    (seen : List Char) : lowercaseAfter seen s = s := by
  induction s generalizing seen with
  | nil => rfl
  | cons c s ih =>
    obtain ⟨⟨hc, hsigma⟩, hrest⟩ := List.forall_mem_cons.1 hs
    rw [lowercaseAfter, if_neg hsigma, hc, ih hrest]
    rfl

/-- A text in lower case stays as it is. -/
theorem lowercase_lowercase (s : List Char) : lowercase (lowercase s) = lowercase s := by
  apply lowercaseAfter_of_lower
  intro x hx
  rcases exists_of_mem_lowercaseAfter hx with ⟨c, _, hxc⟩ | hfinal | hmedial
  · exact lowerChar_of_mem_lowerChar hxc
  · rw [hfinal]
    decide
  · rw [hmedial]
    decide

end MailRouting.Text
