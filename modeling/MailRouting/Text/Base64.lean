/-!
# Base64

Decoding of the standard alphabet as mail uses it: line ends are skipped, any block of four signs
may be padded, and the bits that a padded block leaves over are not looked at.

* `signValue` — the six bits of a sign;
* `decodeBlocks` — signs in blocks of four to octets;
* `decode` — the same without the line ends, or `none` for anything that is not whole blocks of
  the alphabet.
-/

namespace MailRouting.Text.Base64

/-- The number that a sign of the alphabet stands for. -/
def signValue (c : Char) : Option Nat :=
  if 'A' ≤ c ∧ c ≤ 'Z' then some (c.toNat - 'A'.toNat)
  else if 'a' ≤ c ∧ c ≤ 'z' then some (c.toNat - 'a'.toNat + 26)
  else if '0' ≤ c ∧ c ≤ '9' then some (c.toNat - '0'.toNat + 52)
  else if c = '+' then some 62
  else if c = '/' then some 63
  else none

/-- The octets of one block of four signs: three, or fewer if the block is padded. -/
def decodeBlock (a b c d : Char) : Option (List UInt8) := do
  let a ← signValue a
  let b ← signValue b
  let first := UInt8.ofNat (a * 4 + b / 16)
  if c = '=' then
    if d = '=' then pure [first] else none
  else
    let c ← signValue c
    let second := UInt8.ofNat (b % 16 * 16 + c / 4)
    if d = '=' then pure [first, second]
    else
      let d ← signValue d
      pure [first, second, UInt8.ofNat (c % 4 * 64 + d)]

/-- The octets of a list of signs, block by block. -/
def decodeBlocks : List Char → Option (List UInt8)
  | [] => some []
  | a :: b :: c :: d :: rest => do
    let block ← decodeBlock a b c d
    let octets ← decodeBlocks rest
    pure (block ++ octets)
  | _ => none

/-- The octets that a text stands for. -/
def decode (s : List Char) : Option (List UInt8) :=
  decodeBlocks (s.filter fun c => c ≠ '\r' && c ≠ '\n')

example : decode "TWFu\r\nTQ==TWE=".toList = some [0x4D, 0x61, 0x6E, 0x4D, 0x4D, 0x61] := by decide

example : decode "TWF".toList = none ∧ decode "T===".toList = none := by decide

end MailRouting.Text.Base64
