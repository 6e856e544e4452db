/-!
# Ranges of code points

* `CodeRange` — the code points from a first one to a last one;
* `inRanges` — membership in a list of ranges, the form in which the properties of the Unicode
  standard are kept here.
-/

namespace MailRouting.Text

/-- The code points from the first number to the second, both included. -/
abbrev CodeRange := Nat × Nat

/-- Whether the code point `n` lies in one of the ranges. -/
def inRanges (ranges : List CodeRange) (n : Nat) : Bool :=
  ranges.any fun r => r.1 ≤ n && n ≤ r.2

end MailRouting.Text
