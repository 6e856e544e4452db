/-!
# Cutting a text at a mark

* `splitOn` — the pieces between the occurrences of one character;
* `dropReturn` — a piece without the carriage return at its end;
* `breakOnPair` — a text before and after the first occurrence of two characters in a row;
* `Text.before` — what comes before the first occurrence of a list of octets.
-/

namespace MailRouting.Text

/-- The pieces of a text between the occurrences of `sep`; there is always one more piece than
there are separators. -/
def splitOn (sep : Char) : List Char → List (List Char)
  | [] => [[]]
  | c :: rest =>
    if c = sep then [] :: splitOn sep rest
    else
      match splitOn sep rest with
      | [] => [[c]]
      | piece :: pieces => (c :: piece) :: pieces

/-- A line without the carriage return that a line feed after it takes along. -/
def dropReturn (line : List Char) : List Char :=
  if line.getLast? = some '\r' then line.dropLast else line

/-- The text before and after the first place where `a` is directly followed by `b`. -/
def breakOnPair (a b : Char) : List Char → Option (List Char × List Char)
  | [] => none
  | [_] => none
  | c :: d :: rest =>
    if c = a ∧ d = b then some ([], rest)
    else (breakOnPair a b (d :: rest)).map fun (before, after) => (c :: before, after)

/-- The text before and after the first occurrence of one character. -/
def breakOn (mark : Char) : List Char → Option (List Char × List Char)
  | [] => none
  | c :: rest =>
    if c = mark then some ([], rest)
    else (breakOn mark rest).map fun (before, after) => (c :: before, after)

/-- The elements before the first occurrence of `mark`, if there is one. -/
def before [BEq α] (mark : List α) : List α → Option (List α)
  | [] => if mark.isEmpty then some [] else none
  | x :: rest =>
    if mark.isPrefixOf (x :: rest) then some []
    else (before mark rest).map (x :: ·)

example : splitOn '.' "a..b".toList = ["a".toList, [], "b".toList] := by decide

example : breakOnPair '=' '?' "x==?y".toList = some ("x=".toList, "y".toList) := by decide

end MailRouting.Text
