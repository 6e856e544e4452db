/-!
# White space at the ends of a text

* `isBlank` — the property `White_Space` of the Unicode standard;
* `trimStart`, `trimEnd`, `trim` — a text without the blanks at its ends.
-/

namespace MailRouting.Text

/-- The characters that count as white space. -/
def isBlank (c : Char) : Bool :=
  let n := c.toNat
  (9 ≤ n && n ≤ 13) || n == 0x20 || n == 0x85 || n == 0xA0 || n == 0x1680 ||
    (0x2000 ≤ n && n ≤ 0x200A) || n == 0x2028 || n == 0x2029 || n == 0x202F || n == 0x205F ||
    n == 0x3000

/-- The text from its first character that is no blank. -/
def trimStart (s : List Char) : List Char :=
  s.dropWhile isBlank

/-- The text up to its last character that is no blank. -/
def trimEnd (s : List Char) : List Char :=
  (s.reverse.dropWhile isBlank).reverse

/-- The text without the blanks at its two ends. -/
def trim (s : List Char) : List Char :=
  trimEnd (trimStart s)

/-- Every blank of ASCII is one: the five controls from tab to carriage return, and the space. -/
example : (List.range 128).filter (fun n => isBlank (Char.ofNat n)) = [9, 10, 11, 12, 13, 32] := by
  decide

end MailRouting.Text
