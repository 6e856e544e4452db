import MailRouting.Text.VisibilityTable

/-!
# Quoted text

The form in which a text stands between quotes in a diagnostic: what does not show, and what would
close the quotes, is written as an escape.

* `escapeChar` — one character as it stands between quotes;
* `quote` — a whole text between quotes.
-/

namespace MailRouting.Text

/-- Whether the character prints nothing of its own. -/
def isHidden (c : Char) : Bool :=
  if c.toNat < 0x80 then c.toNat < 0x20 || c.toNat == 0x7F else inRanges hiddenRanges c.toNat

/-- Whether the character only extends the one before it. -/
def isExtending (c : Char) : Bool :=
  inRanges extendingRanges c.toNat

/-- One character as it stands between quotes. -/
def escapeChar (c : Char) : List Char :=
  if c = '\x00' then ['\\', '0']
  else if c = '\t' then ['\\', 't']
  else if c = '\n' then ['\\', 'n']
  else if c = '\r' then ['\\', 'r']
  else if c = '"' then ['\\', '"']
  else if c = '\\' then ['\\', '\\']
  else if isHidden c || isExtending c then
    ['\\', 'u', '\x7b'] ++ Nat.toDigits 16 c.toNat ++ ['\x7d']
  else [c]

/-- A text between quotes. -/
def quote (s : String) : String :=
  String.ofList ('"' :: s.toList.flatMap escapeChar ++ ['"'])

end MailRouting.Text
