import MailRouting.Text.Ascii
import MailRouting.Text.Split

/-!
# The log

What happens is written down as events, and the work that events belong to as spans around them.

* `Log.Level`, `Log.Filter` — how grave an event is, and which events are shown;
* `Log.Filter.ofSetting` — the filter that a setting names, and the complaint if it names none;
* `Log.Event`, `Log.Span`, `Log.Entry` — what is written down;
* `Log.lines` — the lines that a filter shows of a list of entries.
-/

namespace MailRouting.Log

/-! ### Levels -/

/-- How grave an event is. -/
inductive Level where
  | error
  | warn
  | info
  | debug
  | trace
  deriving DecidableEq, Repr

namespace Level

/-- The levels from the gravest on. -/
def all : List Level :=
  [.error, .warn, .info, .debug, .trace]

/-- The number of a level; the gravest has number 1. -/
def rank : Level → Nat
  | .error => 1
  | .warn => 2
  | .info => 3
  | .debug => 4
  | .trace => 5

/-- The level as a line shows it. -/
def label : Level → String
  | .error => "ERROR"
  | .warn => "WARN"
  | .info => "INFO"
  | .debug => "DEBUG"
  | .trace => "TRACE"

/-- The level of a label, in any case. -/
def ofName? (s : String) : Option Level :=
  all.find? fun l => Text.equalIgnoringCase l.label.toList s.toList

end Level

/-- The gravest events only, up to a level; `none` shows nothing. -/
abbrev Filter := Option Level

namespace Filter

/-- Whether events of a level are shown. -/
def shows (f : Filter) (l : Level) : Bool :=
  match f with
  | some upTo => l.rank ≤ upTo.rank
  | none => false

/-- The level that is used where a setting names none. -/
def default : Filter := some .trace

/-- A number in decimal digits, which a plus sign may precede. -/
def number? (s : List Char) : Option Nat :=
  let digits := match s with
    | '+' :: rest => rest
    | s => s
  if digits.isEmpty || !digits.all Char.isDigit then none
  else some (digits.foldl (fun n c => n * 10 + (c.toNat - '0'.toNat)) 0)

/-- The filter of a number: 0 for nothing, 1 to 5 for a level. -/
def ofRank? (n : Nat) : Option Filter :=
  if n = 0 then some none else (Level.all.find? (·.rank = n)).map some

/-- The filter that a text names: a number, a level or `off`; the empty text means errors. -/
def ofName? (s : String) : Option Filter :=
  match (number? s.toList).bind ofRank? with
  | some f => some f
  | none =>
    if s.isEmpty then some (some .error)
    else if Text.equalIgnoringCase s.toList "off".toList then some none
    else (Level.ofName? s).map some

/-- The filter of a setting that may be missing, and a complaint if it names none. -/
def ofSetting (setting : Option String) : Filter × Option String :=
  match setting with
  | none => (default, none)
  | some s =>
    match ofName? s with
    | some f => (f, none)
    | none => (default, some s!"Invalid log level specified {s}, defaulting to trace")

end Filter

/-! ### Entries -/

/-- Named texts that go with an event or a span. -/
abbrev Fields := List (String × String)

/-- Something that happened. -/
structure Event where
  level : Level
  /-- The part of the program that the event comes from. -/
  target : String
  message : String
  fields : Fields := []
  deriving DecidableEq, Repr

/-- Work that events belong to while it lasts. -/
structure Span where
  name : String
  fields : Fields := []
  deriving DecidableEq, Repr

/-- What is written down. -/
inductive Entry where
  | enter (span : Span)
  | leave
  | event (e : Event)
  deriving DecidableEq, Repr

/-! ### Targets -/

/-- What the targets of this program start with; others are not shown. -/
def targetRoot : String := "courier"

/-- The target of the domain list. -/
def domainsTarget : String := "courier_routing::domains"

/-- The target of local delivery. -/
def resourcesTarget : String := "courier_routing::resources"

/-- The target of the mapping table. -/
def mappingTarget : String := "courier_routing::rewrite"

/-- The target of the routing context. -/
def contextTarget : String := "courier_routing::context"

/-- The target of delivery reports. -/
def reportTarget : String := "courier_routing::bounce"

/-- The target of the queues. -/
def queueTarget : String := "courier_routing::queue::memory"

/-! ### Lines -/

/-- A character of a message as a line shows it: those that steer a terminal are spelt out. -/
def showChar (c : Char) : List Char :=
  let hex (n : Nat) : List Char := Nat.toDigits 16 n
  if c.toNat = 0x1B || c.toNat = 0x7F then ['\\', 'x'] ++ hex c.toNat
  else if c.toNat = 7 || c.toNat = 8 || c.toNat = 12 then ['\\', 'x', '0'] ++ hex c.toNat
  else if 0x80 ≤ c.toNat && c.toNat ≤ 0x9F then ['\\', 'u', '\x7b'] ++ hex c.toNat ++ ['\x7d']
  else [c]

/-- Fields as a line shows them, each after a space. -/
def showFields (fields : Fields) : String :=
  String.join (fields.map fun (name, value) => " " ++ name ++ "=" ++ value)

/-- The names of open spans, the outermost first, as a line shows them. -/
def showSpans (spans : List Span) : String :=
  if spans.isEmpty then "" else String.intercalate ":" (spans.map (·.name)) ++ ": "

/-- An event as it is shown inside the spans, the outermost first. -/
def showEvent (spans : List Span) (e : Event) : String :=
  e.level.label ++ " " ++ showSpans spans ++ e.target ++ ": " ++
    String.ofList (e.message.toList.flatMap showChar) ++ showFields e.fields ++
    String.join (spans.map fun s => showFields s.fields)

/-- Whether a filter shows an event. -/
def Event.isShown (f : Filter) (e : Event) : Bool :=
  f.shows e.level && targetRoot.toList.isPrefixOf e.target.toList

/-- The lines of a text with a line feed after it; a carriage return directly before a line feed
belongs to the end of the line. If the text is `closed`, a mark that does not show stands between
it and its line feed. -/
def linesOf (closed : Bool) (s : String) : List String :=
  let pieces := Text.splitOn '\n' s.toList
  let lines := if closed then pieces.dropLast.map Text.dropReturn ++ pieces.getLast?.toList
    else pieces.map Text.dropReturn
  lines.map String.ofList

/-- The lines of an event inside the spans. Fields of spans are dimmed, and the mark that ends the
dimming closes the text. -/
def eventLines (spans : List Span) (e : Event) : List String :=
  linesOf (spans.any fun s => !s.fields.isEmpty) (showEvent spans e)

/-- The lines of the events that a filter shows, with the spans of `stack` open before them, the
outermost first. A span has the level of information. -/
def linesInside (f : Filter) (stack : List Span) : List Entry → List String
  | [] => []
  | .enter span :: rest => linesInside f (stack ++ [span]) rest
  | .leave :: rest => linesInside f stack.dropLast rest
  | .event e :: rest =>
    let spans := if f.shows .info then stack else []
    if e.isShown f then eventLines spans e ++ linesInside f stack rest
    else linesInside f stack rest

/-- The lines that a filter shows of a list of entries. -/
def lines (f : Filter) (entries : List Entry) : List String :=
  linesInside f [] entries

end MailRouting.Log
