import MailRouting.Message.Error
import MailRouting.Text.Ascii

/-!
# Header fields

A header section is a list of fields: a name, a colon and a value that goes on over every line
which starts with a space or a tab.

* `Field.read` — the first field of a text and the text after it;
* `Field.readAll` — all fields up to the first empty line.

A line without a colon is a field of that name with an empty value.
-/

namespace MailRouting

/-- A header field. The value still holds its line folds, encoded words and all. -/
structure Field where
  name : List Char
  value : List Char
  deriving DecidableEq, Repr

namespace Field

/-- A folded text and what comes after it: it ends at a line feed that neither a space nor a tab
follows. -/
def takeFolded : List Char → List Char × List Char
  | [] => ([], [])
  | ['\n'] => (['\n'], [])
  | '\n' :: c :: rest =>
    if c = ' ' || c = '\t' then
      let (body, after) := takeFolded (c :: rest)
      ('\n' :: body, after)
    else (['\n'], c :: rest)
  | c :: rest =>
    let (body, after) := takeFolded rest
    (c :: body, after)

/-- A text without the line ends after it. -/
def dropLineEnds (s : List Char) : List Char :=
  (s.reverse.dropWhile fun c => c = '\r' || c = '\n').reverse

/-- Whether the character can stand in a field name: anything but a colon and a line feed. -/
def isNameChar (c : Char) : Bool :=
  c != ':' && c != '\n'

/-- The field at the start of a text, and the text after it. -/
def read (s : List Char) : Field × List Char :=
  let name := s.takeWhile isNameChar
  match s.dropWhile isNameChar with
  | ':' :: rest =>
    let (body, after) := takeFolded (rest.dropWhile (· = ' '))
    (⟨name, dropLineEnds body⟩, after)
  | _ :: after => (⟨name, []⟩, after)
  | [] => (⟨name, []⟩, [])

theorem takeFolded_length (s : List Char) : (takeFolded s).2.length ≤ s.length := by
  fun_induction takeFolded s with
  | case1 => simp
  | case2 => simp
  | case3 c rest _ body after h ih =>
    simp only [h, List.length_cons] at ih ⊢
    omega
  | case4 c rest _ => simp
  | case5 c rest _ _ body after h ih =>
    simp only [h, List.length_cons] at ih ⊢
    omega

theorem dropWhile_length (p : Char → Bool) (s : List Char) :
    (s.dropWhile p).length ≤ s.length :=
  (List.dropWhile_sublist p).length_le

/-- Reading a field takes at least one character. -/
theorem read_length (c : Char) (s : List Char) : (read (c :: s)).2.length < (c :: s).length := by
  have htail : isNameChar c = true →
      ((c :: s).dropWhile isNameChar).length ≤ s.length := by
    intro h
    rw [List.dropWhile_cons_of_pos h]
    exact dropWhile_length _ s
  have hhead : ((c :: s).dropWhile isNameChar).length ≤ s.length + 1 :=
    dropWhile_length _ (c :: s)
  unfold read
  split
  · rename_i rest h
    have hbody := takeFolded_length (rest.dropWhile (· = ' '))
    have hrest := dropWhile_length (· = ' ') rest
    simp only [h, List.length_cons] at hhead
    simp only [List.length_cons]
    omega
  · rename_i d after _ h
    simp only [h, List.length_cons] at hhead
    simp only [List.length_cons]
    omega
  · simp

/-- The fields of a header section, up to its first empty line or its end. -/
def readAll : List Char → Except HeaderFault (List Field)
  | [] => .ok []
  | '\n' :: _ => .ok []
  | '\r' :: '\n' :: _ => .ok []
  | '\r' :: _ => .error .loneCarriageReturn
  | ' ' :: _ => .error .leadingSpace
  | c :: rest =>
    let field := read (c :: rest)
    (readAll field.2).map (field.1 :: ·)
termination_by s => s.length
decreasing_by exact read_length c rest

/-- The name of a field as a text: its octets, each one a character. -/
def nameText (f : Field) : List Char :=
  (Text.Utf8.encode f.name).map fun b => Char.ofNat b.toNat

/-- Whether the field bears the name, ASCII case ignored. -/
def isNamed (f : Field) (name : String) : Bool :=
  Text.equalIgnoringCase f.nameText name.toList

end Field

end MailRouting
