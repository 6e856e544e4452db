import MailRouting.Message.FieldText

/-!
# Address lists

The mailboxes that a field such as `To` lists (RFC 5322, section 3.4): bare, or in angle brackets
after a display name, alone or as members of a group `name: mailbox, mailbox;`. Display names,
group names and comments are passed over.

* `Item`, `items` — a field value as characters, blanks and encoded words;
* `ListState`, `read` — the reader, an automaton over items;
* `mailboxes` — the texts of all listed mailboxes, in order.
-/

namespace MailRouting.AddressList

open FieldText (Segment)

/-- What the reader sees at a time. Only blanks of plain text come as characters. -/
inductive Item where
  | char (c : Char)
  | blank (text : List Char)
  | word (text : List Char)
  deriving DecidableEq, Repr

/-- The items of a segment. -/
def itemsOf : Segment → List Item
  | .plain s => s.map .char
  | .blank s => [.blank s]
  | .word s => [.word s]

/-- The items of a field value. -/
def items (value : List Char) : List Item :=
  (FieldText.segments value).flatMap itemsOf

/-- Where in a list the reader stands. -/
inductive ListState where
  /-- Where an address may start. -/
  | start
  /-- Inside a quoted display name. -/
  | quoted
  /-- After a backslash in a quoted display name. -/
  | quotedPair
  /-- After the closing quote, where brackets or a group may follow. -/
  | afterQuoted
  /-- Inside the angle brackets of a mailbox. -/
  | bracketed (mailbox : List Char)
  /-- After the closing bracket. -/
  | afterBracket
  /-- Inside a display name that an encoded word is part of. -/
  | encodedName
  /-- Inside a bare mailbox, or a display name that is not yet known to be one. -/
  | bare (text : List Char)
  /-- Inside a comment after a bare mailbox. -/
  | commentAfterBare (text : List Char)
  /-- Inside a comment after a closing bracket. -/
  | commentAfterBracket
  deriving DecidableEq, Repr

/-- The mailbox text `s`, which must hold an `@`. -/
def mailbox (s : List Char) : Except ListFault (List Char) :=
  if '@' ∈ s then .ok s else .error .noAtSign

/-- A mailbox text in front of the mailboxes read after it. -/
def andThen (s : List Char) (rest : Except ListFault (List (List Char))) :
    Except ListFault (List (List Char)) := do
  let s ← mailbox s
  let more ← rest
  pure (s :: more)

/-- What the end of the input means outside of a group. -/
def finish : ListState → Except ListFault (List (List Char))
  | .start => .ok []
  | .afterBracket => .ok []
  | .bare s => andThen (Text.trimEnd s) (.ok [])
  | _ => .error .unterminatedAddress

/-- The mailboxes of the items that are left, from the state `q` on, `inGroup` telling whether a
group is open. A group that nothing at all follows counts as ended. -/
def read (inGroup : Bool) (q : ListState) : List Item → Except ListFault (List (List Char))
  | [] => if inGroup then .error .unterminatedGroup else finish q
  | item :: rest =>
    match q, item with
    | .start, .char c =>
      if Text.isBlank c then read inGroup .start rest
      else if c = '"' then read inGroup .quoted rest
      else if c = '<' then read inGroup (.bracketed []) rest
      else if c = ';' then
        if inGroup then read false .start rest else .error .unexpectedTerminator
      else read inGroup (.bare [c]) rest
    | .start, .blank _ => read inGroup .start rest
    | .start, .word _ => read inGroup .encodedName rest
    | .quoted, .char c =>
      if c = '\\' then read inGroup .quotedPair rest
      else if c = '"' then read inGroup .afterQuoted rest
      else read inGroup .quoted rest
    | .quoted, _ => read inGroup .quoted rest
    | .quotedPair, .word _ => .error .wordInQuotes
    | .quotedPair, _ => read inGroup .quoted rest
    | .afterQuoted, .char c =>
      if Text.isBlank c then read inGroup .afterQuoted rest
      else if c = '<' then read inGroup (.bracketed []) rest
      else if c = ':' then
        if inGroup then .error .nestedGroup
        else if rest.isEmpty then .ok []
        else read true .start rest
      else if c = '"' then read inGroup .quoted rest
      else read inGroup .afterQuoted rest
    | .afterQuoted, _ => read inGroup .afterQuoted rest
    | .bracketed s, .char c =>
      if c = '>' then andThen s (read inGroup .afterBracket rest)
      else read inGroup (.bracketed (s ++ [c])) rest
    | .bracketed s, .blank b => read inGroup (.bracketed (s ++ b)) rest
    | .bracketed _, .word _ => .error .wordInBrackets
    | .afterBracket, .char c =>
      if Text.isBlank c then read inGroup .afterBracket rest
      else if c = ',' then read inGroup .start rest
      else if c = ';' then read false .start rest
      else if c = '(' then read inGroup .commentAfterBracket rest
      else .error .afterBracket
    | .afterBracket, .blank _ => read inGroup .afterBracket rest
    | .afterBracket, .word _ => .error .wordAfterBracket
    | .encodedName, .char c =>
      if c = '<' then read inGroup (.bracketed []) rest
      else if c = ':' then
        if inGroup then .error .nestedGroup
        else if rest.isEmpty then .ok []
        else read true .start rest
      else read inGroup .encodedName rest
    | .encodedName, _ => read inGroup .encodedName rest
    | .bare s, .char c =>
      if c = '<' then read inGroup (.bracketed []) rest
      else if c = ',' then andThen (Text.trimEnd s) (read inGroup .start rest)
      else if c = ';' then andThen (Text.trimEnd s) (read false .start rest)
      else if c = ':' then
        if inGroup then .error .nestedGroup
        else if rest.isEmpty then .ok []
        else read true .start rest
      else if c = '(' then read inGroup (.commentAfterBare s) rest
      else read inGroup (.bare (s ++ [c])) rest
    | .bare s, .blank b => read inGroup (.bare (s ++ b)) rest
    | .bare _, .word _ => read inGroup .encodedName rest
    | .commentAfterBare s, .char c =>
      if c = ')' then read inGroup (.bare s) rest else read inGroup (.commentAfterBare s) rest
    | .commentAfterBare s, _ => read inGroup (.commentAfterBare s) rest
    | .commentAfterBracket, .char c =>
      if c = ')' then read inGroup .afterBracket rest
      else read inGroup .commentAfterBracket rest
    | .commentAfterBracket, _ => read inGroup .commentAfterBracket rest

/-- The texts of the mailboxes that a field value lists, in order, members of groups included. -/
def mailboxes (value : List Char) : Except ListFault (List (List Char)) :=
  read false .start (items value)

end MailRouting.AddressList
