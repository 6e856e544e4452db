import MailRouting.Message
import MailRouting.Ulid

/-!
# Mail

A mail is a message in its envelope, waiting for a stage of processing.

* `State` — the name of that stage;
* `Attributes` — named notes on a mail, kept in the order of their names, so that equal notes are
  equal values;
* `Mail` — message, envelope, state and notes.
-/

namespace MailRouting

/-- The stage of processing that a mail waits for. -/
structure State where
  name : String
  deriving DecidableEq, Repr

namespace State

/-- Ready for its first processing. -/
def root : State := ⟨"root"⟩

/-- Whether this is the first stage. -/
def isRoot (s : State) : Bool :=
  s == root

end State

/-- Named notes, in the order of their names and with one note a name. -/
structure Attributes where
  entries : List (String × String)
  deriving DecidableEq, Repr

namespace Attributes

/-- No notes. -/
def empty : Attributes := ⟨[]⟩

/-- The entries with a note added, or replaced if the name has one. -/
def insertEntry (key value : String) : List (String × String) → List (String × String)
  | [] => [(key, value)]
  | (k, v) :: rest =>
    if key < k then (key, value) :: (k, v) :: rest
    else if key = k then (key, value) :: rest
    else (k, v) :: insertEntry key value rest

/-- Sets the note of a name. -/
def insert (a : Attributes) (key value : String) : Attributes :=
  ⟨insertEntry key value a.entries⟩

/-- The note of a name. -/
def get? (a : Attributes) (key : String) : Option String :=
  a.entries.lookup key

/-- The notes of a list, a later one of the same name replacing an earlier one. -/
def ofList (entries : List (String × String)) : Attributes :=
  entries.foldl (fun a (key, value) => a.insert key value) empty

end Attributes

/-- A message with its envelope and its state. -/
structure Mail where
  name : String
  sender : ReversePath := .unset
  recipients : List Address := []
  message : Message := .empty
  state : State := .root
  errorMessage : Option String := none
  attributes : Attributes := .empty
  deriving DecidableEq, Repr

namespace Mail

/-- The name that a mail gets if none is given. -/
def generatedName (id : Ulid) : String :=
  "Mail" ++ id.text

/-- The mail with a note set. -/
def setAttribute (m : Mail) (key value : String) : Mail :=
  { m with attributes := m.attributes.insert key value }

end Mail

end MailRouting
