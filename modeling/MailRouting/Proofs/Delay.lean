import MailRouting.Delay

/-!
# The length of delays

Delays are worked out in words of 32 and 64 bits, whose products start over from zero where they get
too large. None of them does: for a product of seconds that does not fit, the most seconds are
taken, and the nanoseconds that make no whole second always fit.

* `TimeUnit.length` — how many nanoseconds a unit has;
* `Duration.toNat_cappedSeconds`, `Duration.toNat_restNanoseconds` — the products of words;
* `Duration.toNanoseconds_ofParts` — parts of a second are neither lost nor added when the whole
  seconds are taken out;
* `TimeUnit.toNanoseconds_duration` — an amount of a unit, cut off at the most seconds;
* `Delay.duration_exact_up_to_limit` — so delays are exact up to that, and grow with their amount
  and with their unit.
-/

namespace MailRouting

/-- How many nanoseconds the unit has. -/
def TimeUnit.length : TimeUnit → Nat
  | .nanoseconds => 1
  | .microseconds => 1000
  | .milliseconds => 1000000
  | .seconds => 1000000000
  | .minutes => 60 * 1000000000
  | .hours => 60 * 60 * 1000000000
  | .days => 24 * 60 * 60 * 1000000000

namespace Duration

/-! ### Products of words -/

/-- Seconds are multiplied as numbers of any size are, up to the greatest number of 64 bits. -/
theorem toNat_cappedSeconds (amount factor : UInt64) : (cappedSeconds amount factor).toNat =
    min (amount.toNat * factor.toNat) (UInt64.size - 1) := by
  by_cases hzero : factor = 0
  · simp [cappedSeconds, hzero]
  have hpos : 0 < factor.toNat :=
    Nat.pos_of_ne_zero fun h => hzero (UInt64.toNat_inj.1 h)
  have hmax : maxSeconds.toNat = UInt64.size - 1 := rfl
  -- What is looked at is a quotient, which never leaves the words, in place of the product.
  have hfits : amount ≤ maxSeconds / factor ↔ amount.toNat * factor.toNat ≤ UInt64.size - 1 := by
    rw [UInt64.le_iff_toNat_le, UInt64.toNat_div, hmax, Nat.le_div_iff_mul_le hpos]
  by_cases hle : amount.toNat * factor.toNat ≤ UInt64.size - 1
  · have hlt : amount.toNat * factor.toNat < 2 ^ 64 := Nat.lt_of_le_pred (by decide) hle
    rw [cappedSeconds, if_pos (.inr (hfits.2 hle)), UInt64.toNat_mul, Nat.mod_eq_of_lt hlt,
      Nat.min_eq_left hle]
  · rw [cappedSeconds, if_neg (not_or.2 ⟨hzero, mt hfits.1 hle⟩), hmax,
      Nat.min_eq_right (Nat.le_of_not_le hle)]

variable {perSecond : UInt64}

/-- What makes no whole second has fewer nanoseconds than one. -/
theorem rest_mul_lt (h : perSecond.toNat ∣ 1000000000) (amount : UInt64) :
    amount.toNat % perSecond.toNat * (1000000000 / perSecond.toNat) < 1000000000 := by
  have hpos : 0 < perSecond.toNat := Nat.pos_of_dvd_of_pos h (by decide)
  have hlength : 0 < 1000000000 / perSecond.toNat :=
    Nat.div_pos (Nat.le_of_dvd (by decide) h) hpos
  calc amount.toNat % perSecond.toNat * (1000000000 / perSecond.toNat)
      < perSecond.toNat * (1000000000 / perSecond.toNat) :=
        Nat.mul_lt_mul_of_pos_right (Nat.mod_lt _ hpos) hlength
    _ = 1000000000 := Nat.mul_div_cancel' h

/-- The nanoseconds that make no whole second are multiplied in 32 bits, where there is room for
them. -/
theorem toNat_restNanoseconds (h : perSecond.toNat ∣ 1000000000) (amount : UInt64) :
    (restNanoseconds perSecond amount).toNat =
      amount.toNat % perSecond.toNat * (1000000000 / perSecond.toNat) := by
  have hpos : 0 < perSecond.toNat := Nat.pos_of_dvd_of_pos h (by decide)
  have hle : perSecond.toNat ≤ 1000000000 := Nat.le_of_dvd (by decide) h
  have hrest : amount.toNat % perSecond.toNat < 2 ^ 32 :=
    Nat.lt_of_lt_of_le (Nat.mod_lt _ hpos) (Nat.le_trans hle (by decide))
  have hlength : 1000000000 / perSecond.toNat < 2 ^ 32 :=
    Nat.lt_of_le_of_lt (Nat.div_le_self _ _) (by decide)
  have hsecond : (1000000000 : UInt64).toNat = 1000000000 := rfl
  rw [restNanoseconds, UInt32.toNat_mul, UInt64.toNat_toUInt32, UInt64.toNat_toUInt32,
    UInt64.toNat_mod, UInt64.toNat_div, hsecond, Nat.mod_eq_of_lt hrest, Nat.mod_eq_of_lt hlength]
  exact Nat.mod_eq_of_lt (Nat.lt_trans (rest_mul_lt h amount) (by decide))

/-! ### Seconds and parts of a second -/

theorem toNanoseconds_ofSeconds (seconds : UInt64) :
    (ofSeconds seconds).toNanoseconds = seconds.toNat * 1000000000 :=
  Nat.add_zero _

/-- Parts of a second are neither lost nor added when the whole seconds are taken out. -/
theorem toNanoseconds_ofParts (h : perSecond.toNat ∣ 1000000000) (amount : UInt64) :
    (ofParts perSecond amount).toNanoseconds =
      amount.toNat * (1000000000 / perSecond.toNat) := by
  have hseconds : (ofParts perSecond amount).seconds = amount.toNat / perSecond.toNat :=
    UInt64.toNat_div _ _
  have hrest : (ofParts perSecond amount).nanoseconds =
      amount.toNat % perSecond.toNat * (1000000000 / perSecond.toNat) :=
    toNat_restNanoseconds h amount
  have hsecond : perSecond.toNat * (1000000000 / perSecond.toNat) = 1000000000 :=
    Nat.mul_div_cancel' h
  rw [toNanoseconds, hseconds, hrest]
  calc amount.toNat / perSecond.toNat * 1000000000 +
        amount.toNat % perSecond.toNat * (1000000000 / perSecond.toNat)
      = amount.toNat / perSecond.toNat * (perSecond.toNat * (1000000000 / perSecond.toNat)) +
          amount.toNat % perSecond.toNat * (1000000000 / perSecond.toNat) := by rw [hsecond]
    _ = (perSecond.toNat * (amount.toNat / perSecond.toNat) + amount.toNat % perSecond.toNat) *
          (1000000000 / perSecond.toNat) := by
        rw [Nat.add_mul, Nat.mul_left_comm, Nat.mul_assoc]
    _ = amount.toNat * (1000000000 / perSecond.toNat) := by rw [Nat.div_add_mod]

theorem nanoseconds_ofParts_lt (h : perSecond.toNat ∣ 1000000000) (amount : UInt64) :
    (ofParts perSecond amount).nanoseconds < 1000000000 := by
  show (restNanoseconds perSecond amount).toNat < 1000000000
  rw [toNat_restNanoseconds h]
  exact rest_mul_lt h amount

end Duration

/-! ### Amounts of a unit -/

namespace TimeUnit

/-- An amount of a unit lasts as long as it should, up to the most seconds that a duration may
have. Only minutes, hours and days are ever cut off. -/
theorem toNanoseconds_duration (unit : TimeUnit) (amount : UInt64) :
    (unit.duration amount).toNanoseconds =
      min (amount.toNat * unit.length) ((UInt64.size - 1) * 1000000000) := by
  have hamount : amount.toNat ≤ UInt64.size - 1 := Nat.le_pred_of_lt amount.toNat_lt_size
  -- Amounts of units up to the second cannot go beyond the limit, and those of longer units are
  -- whole seconds.
  have hshort (length : Nat) (h : length ≤ 1000000000) :
      amount.toNat * length = min (amount.toNat * length) ((UInt64.size - 1) * 1000000000) :=
    (Nat.min_eq_left (Nat.mul_le_mul hamount h)).symm
  have hlong (factor : UInt64) :
      (Duration.ofSeconds (Duration.cappedSeconds amount factor)).toNanoseconds =
        min (amount.toNat * (factor.toNat * 1000000000)) ((UInt64.size - 1) * 1000000000) := by
    rw [Duration.toNanoseconds_ofSeconds, Duration.toNat_cappedSeconds, ← Nat.mul_assoc,
      Nat.mul_min_mul_right]
  cases unit with
  | nanoseconds =>
    exact (Duration.toNanoseconds_ofParts (by decide) amount).trans (hshort 1 (by decide))
  | microseconds =>
    exact (Duration.toNanoseconds_ofParts (by decide) amount).trans (hshort 1000 (by decide))
  | milliseconds =>
    exact (Duration.toNanoseconds_ofParts (by decide) amount).trans (hshort 1000000 (by decide))
  | seconds =>
    exact (Duration.toNanoseconds_ofSeconds amount).trans (hshort 1000000000 (Nat.le_refl _))
  | minutes => exact hlong 60
  | hours => exact hlong 3600
  | days => exact hlong 86400

theorem nanoseconds_duration_lt (unit : TimeUnit) (amount : UInt64) :
    (unit.duration amount).nanoseconds < 1000000000 := by
  cases unit with
  | nanoseconds => exact Duration.nanoseconds_ofParts_lt (by decide) amount
  | microseconds => exact Duration.nanoseconds_ofParts_lt (by decide) amount
  | milliseconds => exact Duration.nanoseconds_ofParts_lt (by decide) amount
  | seconds | minutes | hours | days => exact Nat.zero_lt_succ _

/-- An amount that would last at least as long without a limit does so with it. -/
theorem toNanoseconds_duration_le {unit longer : TimeUnit} {amount more : UInt64}
    (h : amount.toNat * unit.length ≤ more.toNat * longer.length) :
    (unit.duration amount).toNanoseconds ≤ (longer.duration more).toNanoseconds := by
  rw [toNanoseconds_duration, toNanoseconds_duration]
  exact Nat.le_min.2 ⟨Nat.le_trans (Nat.min_le_left _ _) h, Nat.min_le_right _ _⟩

end TimeUnit

/-- A delay lasts as long as its amount of its unit, up to the most seconds that 64 bits can count.
On the way there a product of seconds is cut off at that, and the nanoseconds beside the seconds are
those that their parts of a second have: no product of words starts over from zero. So more of a
unit never lasts shorter, and neither does the same amount of a longer unit. -/
theorem Delay.duration_exact_up_to_limit :
    (∀ d : Delay,
      d.duration.toNanoseconds =
        min (d.amount.toNat * d.unit.length) ((UInt64.size - 1) * 1000000000) ∧
      d.duration.nanoseconds < 1000000000) ∧
    (∀ amount factor : UInt64, (Duration.cappedSeconds amount factor).toNat =
      min (amount.toNat * factor.toNat) (UInt64.size - 1)) ∧
    (∀ perSecond amount : UInt64, perSecond.toNat ∣ 1000000000 →
      (Duration.restNanoseconds perSecond amount).toNat =
        amount.toNat % perSecond.toNat * (1000000000 / perSecond.toNat)) ∧
    (∀ (unit : TimeUnit) (amount more : UInt64), amount ≤ more →
      (Delay.mk amount unit).duration.toNanoseconds ≤
        (Delay.mk more unit).duration.toNanoseconds) ∧
    ∀ (amount : UInt64) (unit longer : TimeUnit), unit.length ≤ longer.length →
      (Delay.mk amount unit).duration.toNanoseconds ≤
        (Delay.mk amount longer).duration.toNanoseconds := by
  refine ⟨fun d =>
      ⟨d.unit.toNanoseconds_duration d.amount, d.unit.nanoseconds_duration_lt d.amount⟩,
    Duration.toNat_cappedSeconds, fun _ amount h => Duration.toNat_restNanoseconds h amount,
    fun unit amount more h => ?_, fun amount unit longer h => ?_⟩
  · exact TimeUnit.toNanoseconds_duration_le
      (Nat.mul_le_mul_right unit.length (UInt64.le_iff_toNat_le.1 h))
  · exact TimeUnit.toNanoseconds_duration_le (Nat.mul_le_mul_left amount.toNat h)

/-- The most minutes that are not cut off, and one minute more. -/
theorem Delay.duration_exact_up_to_limit_minutes :
    (⟨307445734561825860, .minutes⟩ : Delay).duration.toNanoseconds =
        18446744073709551600000000000 ∧
      (⟨307445734561825861, .minutes⟩ : Delay).duration.toNanoseconds =
        18446744073709551615000000000 ∧
      (1000000 : UInt64).toNat ∣ 1000000000 ∧
      (Duration.restNanoseconds 1000000 18446744073709551615).toNat = 551615000 ∧
      (307445734561825860 : UInt64) ≤ 307445734561825861 ∧
      (⟨307445734561825860, .minutes⟩ : Delay).duration.toNanoseconds ≤
        (⟨307445734561825861, .minutes⟩ : Delay).duration.toNanoseconds ∧
      TimeUnit.minutes.length ≤ TimeUnit.hours.length ∧
      (⟨307445734561825861, .minutes⟩ : Delay).duration.toNanoseconds ≤
        (⟨307445734561825861, .hours⟩ : Delay).duration.toNanoseconds := by
  obtain ⟨hexact, -, hrest, hmore, hlonger⟩ := duration_exact_up_to_limit
  have hparts : (1000000 : UInt64).toNat ∣ 1000000000 := by decide
  have hamount : (307445734561825860 : UInt64) ≤ 307445734561825861 := by decide
  have hlength : TimeUnit.minutes.length ≤ TimeUnit.hours.length := by decide
  exact ⟨(hexact _).1.trans (by decide), (hexact _).1.trans (by decide), hparts,
    (hrest _ _ hparts).trans (by decide), hamount, hmore _ _ _ hamount, hlength,
    hlonger _ _ _ hlength⟩

end MailRouting
