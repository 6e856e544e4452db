/-!
# Unique identifiers

* `Ulid` — an identifier of 128 bits;
* `Ulid.text` — its 26 signs: five bits a sign, in an alphabet of digits and capitals without the
  letters I, L, O and U.
-/

namespace MailRouting

/-- An identifier of 128 bits. -/
structure Ulid where
  value : Nat
  deriving DecidableEq, Repr

namespace Ulid

/-- The signs for the numbers 0 to 31. -/
def alphabet : List Char :=
  ['0', '1', '2', '3', '4', '5', '6', '7', '8', '9', 'A', 'B', 'C', 'D', 'E', 'F', 'G', 'H', 'J',
   'K', 'M', 'N', 'P', 'Q', 'R', 'S', 'T', 'V', 'W', 'X', 'Y', 'Z']

/-- The sign of a number below 32. -/
def sign (n : Nat) : Char :=
  alphabet.getD n '0'

/-- The last `count` signs of a number, five bits each. -/
def signs (n : Nat) : Nat → List Char
  | 0 => []
  | count + 1 => signs (n / 32) count ++ [sign (n % 32)]

/-- The identifier in its 26 signs, of which the first holds three bits. -/
def text (id : Ulid) : String :=
  String.ofList (signs (id.value % Nat.pow 2 128) 26)

example : (signs 33 26).length = 26 ∧ signs 33 3 = ['0', '1', '1'] := by decide

end Ulid

end MailRouting
