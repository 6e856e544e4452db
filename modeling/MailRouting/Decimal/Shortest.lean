/-!
# The shortest decimal of a binary number

* `Binary` — a number `mantissa · 2 ^ exponent` and the distance to its lower neighbour;
* `Binary.ofFloat` — the absolute value of a finite float;
* `shortest` — the fewest digits that round back to the number, and of those the nearest, an even
  last digit before an odd one that is as near;
* `positional` — such digits without an exponent, with at least one place after the point;
* `scientific` — such digits with one place before the point and an exponent.
-/

namespace MailRouting.Decimal

/-- The number `mantissa · 2 ^ exponent`. -/
structure Binary where
  mantissa : Nat
  exponent : Int
  /-- Whether the next smaller binary number is only half as far away as the next greater one. -/
  narrowBelow : Bool
  deriving DecidableEq, Repr

/-- The absolute value of a finite float. -/
def Binary.ofFloat (x : Float) : Binary :=
  let bits : Nat := x.toBits.toNat % Nat.pow 2 63
  let biased : Nat := bits / Nat.pow 2 52
  let fraction : Nat := bits % Nat.pow 2 52
  if biased = 0 then ⟨fraction, -1074, false⟩
  else ⟨Nat.pow 2 52 + fraction, (biased : Int) - 1075, fraction = 0 && biased > 1⟩

/-- The power of `base` with a whole exponent, or 1 if the exponent is negative. -/
def powOr1 (base : Nat) (e : Int) : Nat :=
  Nat.pow base e.toNat

/-- Compares `c · 10 ^ k` with `n · 2 ^ e`. -/
def compareScaled (c : Nat) (k : Int) (n : Nat) (e : Int) : Ordering :=
  compare (c * powOr1 10 k * powOr1 2 (-e)) (n * powOr1 2 e * powOr1 10 (-k))

/-- Whether `c · 10 ^ k` rounds to the number: it lies between the middles to the two neighbours,
which count for an even mantissa. -/
def Binary.roundsTo (b : Binary) (c : Nat) (k : Int) : Bool :=
  let e := b.exponent - 2
  let below := compareScaled c k (4 * b.mantissa - if b.narrowBelow then 1 else 2) e
  let above := compareScaled c k (4 * b.mantissa + 2) e
  if b.mantissa % 2 = 0 then below != .lt && above != .gt else below == .gt && above == .lt

/-- The number in units of `10 ^ k`, as a numerator and a denominator. -/
def Binary.ratio (b : Binary) (k : Int) : Nat × Nat :=
  (b.mantissa * powOr1 2 b.exponent * powOr1 10 (-k), powOr1 2 (-b.exponent) * powOr1 10 k)

/-- The nearest multiple of `10 ^ k` that rounds to the number, if there is one; of two that are as
near, the even one. -/
def Binary.onGrid? (b : Binary) (k : Int) : Option Nat :=
  let (num, den) := b.ratio k
  let low := num / den
  let lowFirst := 2 * (num % den) < den || (2 * (num % den) == den && low % 2 == 0)
  (if lowFirst then [low, low + 1] else [low + 1, low]).find? fun c => b.roundsTo c k

/-- The least `k` for which the number is below `10 ^ k`, given that it is below `10 ^ (k₀ + n)`
and that the answer is above `k₀`. -/
def Binary.magnitudeFrom (b : Binary) (k₀ : Int) : Nat → Int
  | 0 => k₀
  | n + 1 => if compareScaled 1 k₀ b.mantissa b.exponent == .gt then k₀
    else b.magnitudeFrom (k₀ + 1) n

/-- The fewest digits that round back to the number: the digits as a number, and the power of ten
of the last one. -/
def shortest (b : Binary) : Nat × Int :=
  if b.mantissa = 0 then (0, 0)
  else
    let top := b.magnitudeFrom (-324) 640
    let grids := (List.range 18).map fun (d : Nat) => top - (d : Int)
    match grids.findSome? fun k => (b.onGrid? k).map fun c => (c, k) with
    | some hit => hit
    | none => (0, 0)

/-- The digits of `c · 10 ^ k` without an exponent, with at least one place after the point. -/
def positional (c : Nat) (k : Int) : List Char :=
  if 0 ≤ k then Nat.toDigits 10 (c * Nat.pow 10 k.toNat) ++ ['.', '0']
  else
    let places := (-k).toNat
    let digits := Nat.toDigits 10 c
    let padded := List.replicate (places + 1 - digits.length) '0' ++ digits
    padded.take (padded.length - places) ++ ['.'] ++ padded.drop (padded.length - places)

/-- The digits of `c · 10 ^ k` with one place before the point and an exponent, which always has a
sign. -/
def scientific (c : Nat) (k : Int) : List Char :=
  let digits := Nat.toDigits 10 c
  let e := k + digits.length - 1
  digits.take 1 ++ (if digits.length = 1 then [] else '.' :: digits.drop 1) ++
    ['e', if e < 0 then '-' else '+'] ++ Nat.toDigits 10 e.natAbs

/-- The digits of `c · 10 ^ k`: without an exponent from `10 ^ -5` on and below `10 ^ 16`. -/
def digits (c : Nat) (k : Int) : List Char :=
  let e := k + (Nat.toDigits 10 c).length - 1
  if c = 0 ∨ (-5 ≤ e ∧ e < 16) then positional c k else scientific c k

/-- A finite float in its shortest digits. -/
def ofFloat (x : Float) : String :=
  let (c, k) := shortest (.ofFloat x)
  let negative := x.toBits.toNat ≥ Nat.pow 2 63
  String.ofList ((if negative then ['-'] else []) ++ digits c k)

example : String.ofList (digits 18446744073709552 3) = "1.8446744073709552e+19" := by decide

example : String.ofList (digits 25 (-4)) = "0.0025" := by decide

example : String.ofList (digits 95 (-8)) = "9.5e-7" := by decide

/-- A quarter lies as near to 0.2 as to 0.3. -/
example : shortest ⟨600000000000000 * 8 + 2, -3, false⟩ = (6000000000000002, -1) := by
  decide +kernel

end MailRouting.Decimal
