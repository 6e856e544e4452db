import MailRouting.Queue

/-!
# Queues by name

* `QueueStore` — the queues of an installation, all with the same settings;
* `QueueStore.queue` — the queue of a name, which is made when it is first asked for;
* `QueueStore.names` — the names asked for so far, in order.
-/

namespace MailRouting

/-- The queues made so far, one a name. -/
structure QueueStore where
  config : QueueConfig := {}
  queues : List (String × MailQueue) := []
  deriving DecidableEq, Repr

namespace QueueStore

/-- The queue of a name: the one that was made, or a new one. -/
def queue (s : QueueStore) (name : String) : MailQueue :=
  (s.queues.lookup name).getD (.ofConfig name s.config)

/-- The queues with the one of a name replaced or added. -/
def setEntry (name : String) (q : MailQueue) :
    List (String × MailQueue) → List (String × MailQueue)
  | [] => [(name, q)]
  | (n, r) :: rest =>
    if name < n then (name, q) :: (n, r) :: rest
    else if name = n then (name, q) :: rest
    else (n, r) :: setEntry name q rest

/-- The store with the queue of a name replaced. -/
def set (s : QueueStore) (name : String) (q : MailQueue) : QueueStore :=
  { s with queues := setEntry name q s.queues }

/-- The store with a queue of that name in it. -/
def ensure (s : QueueStore) (name : String) : QueueStore :=
  s.set name (s.queue name)

/-- The names of all queues made so far, in order. -/
def names (s : QueueStore) : List String :=
  s.queues.map (·.1)

/-- Queues a mail in the queue of a name. -/
def push (s : QueueStore) (name : String) (now : Nat) (mail : Mail) (delay : Option Delay) :
    Except QueueError QueueStore :=
  ((s.queue name).push now mail delay).map (s.set name)

/-- Takes the oldest mail of a queue that is ready at time `now`. -/
def dequeue (s : QueueStore) (name : String) (now : Nat) : Option Mail × QueueStore :=
  match (s.queue name).dequeue now with
  | some (mail, q) => (some mail, s.set name q)
  | none => (none, s.ensure name)

/-- Drops all mail of a queue. -/
def clear (s : QueueStore) (name : String) : QueueStore :=
  s.set name (s.queue name).clear

end QueueStore

end MailRouting
