import MailRouting.Text.Ascii
import MailRouting.Text.CaseTable

/-!
# Lower case

The full lower-casing of the Unicode standard, without regard to language.

* `lowerChar` — the lower-case form of one character, ASCII by rule and the rest by table;
* `lowercase` — of a text: a capital sigma becomes the final form where a cased letter stands
  before it and none after it, characters without weight in that question passed over.
-/

namespace MailRouting.Text

/-- The lower-case form of a code point above U+007F. -/
def lowerCode (n : Nat) : Nat :=
  match lowerRuns.find? (·.covers n) with
  | some run => (n + run.shift).toNat
  | none => n

/-- The lower-case form of a character; only U+0130 has two characters in it. -/
def lowerChar (c : Char) : List Char :=
  if c.toNat < 0x80 then [c.toLower]
  else if c.toNat = 0x130 then ['i', '\u0307']
  else [Char.ofNat (lowerCode c.toNat)]

/-- Whether the character has case. -/
def isCased (c : Char) : Bool :=
  if c.toNat < 0x80 then c.isAlpha else inRanges casedRanges c.toNat

/-- Whether the character is passed over when a neighbouring cased letter is looked for. -/
def isCaseIgnorable (c : Char) : Bool :=
  if c.toNat < 0x80 then c ∈ ['\'', '.', ':', '^', '`'] else inRanges caseIgnorableRanges c.toNat

/-- Whether the first character that is not passed over has case. -/
def startsCased (s : List Char) : Bool :=
  match s.dropWhile isCaseIgnorable with
  | [] => false
  | c :: _ => isCased c

/-- Lower-cases what follows the characters `seen`, which are listed last to first. -/
def lowercaseAfter (seen : List Char) : List Char → List Char
  | [] => []
  | c :: rest =>
    (if c = 'Σ' then [if startsCased seen && !startsCased rest then 'ς' else 'σ']
      else lowerChar c) ++ lowercaseAfter (c :: seen) rest

/-- The text in lower case. -/
def lowercase (s : List Char) : List Char :=
  lowercaseAfter [] s

end MailRouting.Text
