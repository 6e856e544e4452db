import MailRouting.Text.Blank
import MailRouting.Text.Utf8

/-!
# Quoted-printable text of one line

* `decodeSigns` — octets written as `=` and two hexadecimal digits, all else standing for itself;
* `decodeLine` — the same for a line of any text: what is neither printable ASCII nor a tab, and
  blanks at the end, are dropped first.

Decoding never fails: an escape that is none stands for itself, and a lone `=` at the end for
nothing.
-/

namespace MailRouting.Text.QuotedPrintable

/-- The value of a hexadecimal digit of either case. -/
def hexValue (c : Char) : Option Nat :=
  if '0' ≤ c ∧ c ≤ '9' then some (c.toNat - '0'.toNat)
  else if 'a' ≤ c ∧ c ≤ 'f' then some (c.toNat - 'a'.toNat + 10)
  else if 'A' ≤ c ∧ c ≤ 'F' then some (c.toNat - 'A'.toNat + 10)
  else none

/-- The octets of an escape whose two signs are `upper` and `lower`. -/
def escapeOctets (upper lower : Char) : List UInt8 :=
  match hexValue upper, hexValue lower with
  | some u, some l => [UInt8.ofNat (u * 16 + l)]
  | _, _ => Utf8.encode ['=', upper, lower]

/-- The octets that a list of signs stands for. -/
def decodeSigns : List Char → List UInt8
  | [] => []
  | ['='] => []
  | ['=', upper] => Utf8.encode ['=', upper]
  | '=' :: upper :: lower :: rest => escapeOctets upper lower ++ decodeSigns rest
  | c :: rest => Utf8.encode [c] ++ decodeSigns rest

/-- The signs that take part: printable ASCII, the tab and the carriage return. -/
def isSign (c : Char) : Bool :=
  c == '\t' || c == '\r' || (' ' ≤ c && c ≤ '~')

/-- The octets that a line of text stands for. -/
def decodeLine (s : List Char) : List UInt8 :=
  decodeSigns (trimEnd (s.filter isSign))

example : decodeLine "a=C3=a9=zz=".toList = [0x61, 0xC3, 0xA9, 0x3D, 0x7A, 0x7A] := by decide

end MailRouting.Text.QuotedPrintable
