import MailRouting.Message.EncodedWord
import MailRouting.Message.Field

/-!
# The text of a field value

A field value is read line by line; each line is cut into plain text, blanks and encoded words.
A line fold counts as one space, and blanks between two encoded words, folds included, count as
nothing (RFC 2047, section 6.2).

* `Token` — a part of a value, a line fold being a part of its own;
* `lineTokens`, `tokens` — the parts of a line and of a value;
* `Segment`, `segments` — the parts with the blanks between encoded words left out;
* `Field.text` — the text that a value stands for.
-/

namespace MailRouting.FieldText

open Text (breakOnPair)

/-- A part of a field value. -/
inductive Token where
  | plain (text : List Char)
  | blank (text : List Char)
  | fold
  /-- A decoded word. -/
  | word (text : List Char)
  deriving DecidableEq, Repr

/-! ### Lines -/

/-- The lines of a text: a line feed, with the carriage return directly before it, ends a line,
and an end of line at the very end starts no further one. -/
def lines (s : List Char) : List (List Char) :=
  let pieces := Text.splitOn '\n' s
  let inner := pieces.dropLast.map Text.dropReturn
  match pieces.getLast? with
  | none => inner
  | some [] => inner
  | some last => inner ++ [last]

/-- The characters next to which an encoded word may stand. -/
def isBoundaryChar (c : Char) : Bool :=
  Text.isBlank c || c ∈ ['"', '(', ')', '<', '>', ',']

/-- Whether the character number `n` of the line, counted from 0, lets an encoded word stand next
to it; beyond the end of the line every place does. -/
def isBoundary (text : List Char) (n : Nat) : Bool :=
  match text[n]? with
  | some c => isBoundaryChar c
  | none => true

/-- A piece of a line that holds no encoded word. -/
def pieceToken (s : List Char) : Token :=
  if (Text.trimEnd s).isEmpty then .blank s else .plain s

/-- The inside of an encoded word and the text after it: up to the first `?=` with a boundary
after it. `start` is the place of the inside in the line; places count octets, and a boundary is
looked up at the character of that number. -/
def wordInside (line : List Char) (start : Nat) : List Char → Option (List Char × List Char)
  | [] => none
  | [_] => none
  | '?' :: '=' :: rest =>
    if isBoundary line (start + 2) then some ([], rest)
    else
      (wordInside line (start + 2) rest).map fun (inside, after) => ('?' :: '=' :: inside, after)
  | c :: d :: rest =>
    (wordInside line (start + c.utf8Size) (d :: rest)).map fun (inside, after) =>
      (c :: inside, after)

theorem wordInside_length {line : List Char} {start : Nat} {s inside after : List Char}
    (h : wordInside line start s = some (inside, after)) : after.length < s.length := by
  fun_induction wordInside line start s generalizing inside after with
  | case1 => simp at h
  | case2 => simp at h
  | case3 start rest _ =>
    simp only [Option.some.injEq, Prod.mk.injEq] at h
    simp only [← h.2, List.length_cons]
    omega
  | case4 start rest _ ih =>
    simp only [Option.map_eq_some_iff, Prod.exists, Prod.mk.injEq] at h
    obtain ⟨_, after', hw, _, rfl⟩ := h
    have := ih hw
    simp only [List.length_cons]
    omega
  | case5 start c d rest _ ih =>
    simp only [Option.map_eq_some_iff, Prod.exists, Prod.mk.injEq] at h
    obtain ⟨_, after', hw, _, rfl⟩ := h
    have := ih hw
    simp only [List.length_cons] at this ⊢
    omega

theorem breakOnPair_length {a b : Char} {s before after : List Char}
    (h : breakOnPair a b s = some (before, after)) : after.length < s.length := by
  fun_induction breakOnPair a b s generalizing before after with
  | case1 => simp at h
  | case2 => simp at h
  | case3 c d rest _ =>
    simp only [Option.some.injEq, Prod.mk.injEq] at h
    simp only [← h.2, List.length_cons]
    omega
  | case4 c d rest _ ih =>
    simp only [Option.map_eq_some_iff, Prod.exists, Prod.mk.injEq] at h
    obtain ⟨_, after', hw, _, rfl⟩ := h
    have := ih hw
    simp only [List.length_cons] at this ⊢
    omega

/-- The token of an encoded word: its text, or its own characters if it cannot be decoded. -/
def wordToken (inside : List Char) : Token :=
  match EncodedWord.decode inside with
  | some text => .word text
  | none => .plain (['=', '?'] ++ inside ++ ['?', '='])

/-- The parts of the rest `s` of a line, which starts after `start` octets of it. -/
def lineTokensFrom (line : List Char) (start : Nat) (s : List Char) : List Token :=
  match h : breakOnPair '=' '?' s with
  | none => [pieceToken s]
  | some (before, after) =>
    let mark := start + Text.Utf8.octetCount before
    have := breakOnPair_length h
    if mark = 0 || isBoundary line (mark - 1) then
      pieceToken before ::
        match hw : wordInside line (mark + 2) after with
        | some (inside, rest) =>
          have := wordInside_length hw
          wordToken inside ::
            lineTokensFrom line (mark + 2 + Text.Utf8.octetCount inside + 2) rest
        | none => .plain ['=', '?'] :: lineTokensFrom line (mark + 2) after
    else .plain (before ++ ['=', '?']) :: lineTokensFrom line (mark + 2) after
termination_by s.length

/-- The parts of a line. -/
def lineTokens (line : List Char) : List Token :=
  lineTokensFrom line 0 line

/-- The parts of a value, blanks at the start of each line left out. -/
def tokens (value : List Char) : List Token :=
  List.flatten (((lines value).map fun line => lineTokens (Text.trimStart line)).intersperse
    [Token.fold])

/-! ### Blanks between encoded words -/

/-- A part of a value after unfolding. -/
inductive Segment where
  | plain (text : List Char)
  | blank (text : List Char)
  | word (text : List Char)
  deriving DecidableEq, Repr

/-- The characters that a segment stands for. -/
def Segment.text : Segment → List Char
  | .plain s => s
  | .blank s => s
  | .word s => s

/-- What the tokens just passed leave open. -/
inductive Pending where
  | nothing
  /-- An encoded word was the last token. -/
  | afterWord
  /-- These blanks followed an encoded word; they count unless another one comes next. -/
  | blanks (text : List Char)
  /-- The same with a line fold as the last token. -/
  | folded (text : List Char)
  deriving DecidableEq, Repr

/-- The segments of the blanks that were left open, once plain text follows them. -/
def Pending.release : Pending → List Segment
  | .nothing => []
  | .afterWord => []
  | .blanks s => [.blank s]
  | .folded s => [.blank s]

/-- The segments of a list of tokens, with `p` left open before them. -/
def segmentsFrom (p : Pending) : List Token → List Segment
  | [] => []
  | .plain s :: rest => p.release ++ .plain s :: segmentsFrom .nothing rest
  | .blank s :: rest =>
    match p with
    | .afterWord => segmentsFrom (.blanks s) rest
    | _ => .blank s :: segmentsFrom .nothing rest
  | .fold :: rest =>
    match p with
    | .blanks s => segmentsFrom (.folded (s ++ [' '])) rest
    | .afterWord => segmentsFrom (.folded [' ']) rest
    | _ => .blank [' '] :: segmentsFrom .nothing rest
  | .word s :: rest => .word s :: segmentsFrom .afterWord rest

/-- The parts of a value after unfolding. -/
def segments (value : List Char) : List Segment :=
  segmentsFrom .nothing (tokens value)

end MailRouting.FieldText

namespace MailRouting

/-- The text that the value of a field stands for. -/
def Field.text (f : Field) : List Char :=
  (FieldText.segments f.value).flatMap FieldText.Segment.text

end MailRouting
