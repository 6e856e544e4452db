import MailRouting.Delay
import MailRouting.Mail

/-!
# Mail queues

A queue holds mail in the order in which it came. Delayed mail keeps its place, but is passed over
until its delay is over. Times are nanoseconds on a clock that never goes back.

* `QueueItem` — a held mail, with the delay it was queued with and the time it is ready from;
* `MailQueue.push` — queues a mail, unless the queue is full;
* `MailQueue.dequeue` — takes the oldest mail that is ready.
-/

namespace MailRouting

/-- Why a queue refuses a mail. -/
inductive QueueError where
  /-- A queue of limited capacity has no room left. -/
  | full (name : String) (capacity : Nat)
  /-- The queue takes no mail at the moment. -/
  | unavailable (name reason : String)
  deriving DecidableEq, Repr

/-- The error in words. -/
def QueueError.message : QueueError → String
  | .full name capacity => s!"Queue {name} is full: {capacity} mails"
  | .unavailable name reason => s!"Queue {name} unavailable: {reason}"

/-- The settings of a queue. -/
structure QueueConfig where
  /-- How many mails it may hold; any number if none is given. -/
  capacity : Option Nat := none
  deriving DecidableEq, Repr

/-- A mail held by a queue. -/
structure QueueItem where
  mail : Mail
  /-- The delay that was asked for. -/
  delay : Option Delay
  /-- The time from which on the mail may be taken. -/
  readyAt : Nat
  deriving DecidableEq, Repr

namespace QueueItem

/-- The last time that the clock can show: its seconds are a number of 63 bits. -/
def lastTime : Nat := 9223372036854775807 * 1000000000 + 999999999

/-- A hundred years of 365 days. -/
def century : Nat := (TimeUnit.days.duration 36500).toNanoseconds

/-- The time from which on a mail queued at time `now` may be taken. A delay beyond the end of the
clock lasts a century. -/
def readyTime (now : Nat) (delay : Option Delay) : Nat :=
  let wait := (delay.map fun d => d.duration.toNanoseconds).getD 0
  if now + wait ≤ lastTime then now + wait
  else if now + century ≤ lastTime then now + century
  else now

/-- Whether the mail may be taken at time `now`. -/
def isReady (item : QueueItem) (now : Nat) : Bool :=
  item.readyAt ≤ now

end QueueItem

/-- A named queue. -/
structure MailQueue where
  name : String
  capacity : Option Nat := none
  items : List QueueItem := []
  deriving DecidableEq, Repr

namespace MailQueue

/-- The empty queue with the given settings. -/
def ofConfig (name : String) (config : QueueConfig) : MailQueue :=
  { name, capacity := config.capacity }

/-- How many mails are held, ready or not. -/
def size (q : MailQueue) : Nat :=
  q.items.length

/-- Queues a mail at time `now`, held back by `delay` if there is one. -/
def push (q : MailQueue) (now : Nat) (mail : Mail) (delay : Option Delay) :
    Except QueueError MailQueue :=
  let item : QueueItem := ⟨mail, delay, QueueItem.readyTime now delay⟩
  match q.capacity with
  | some capacity =>
    if capacity ≤ q.size then .error (.full q.name capacity)
    else .ok { q with items := q.items ++ [item] }
  | none => .ok { q with items := q.items ++ [item] }

/-- Queues a mail for immediate processing. -/
def enqueue (q : MailQueue) (now : Nat) (mail : Mail) : Except QueueError MailQueue :=
  q.push now mail none

/-- Queues a mail that is held back by `delay`. -/
def enqueueDelayed (q : MailQueue) (now : Nat) (mail : Mail) (delay : Delay) :
    Except QueueError MailQueue :=
  q.push now mail (some delay)

/-- The first item that is ready at time `now`, and the items without it. -/
def takeReady (now : Nat) : List QueueItem → Option (QueueItem × List QueueItem)
  | [] => none
  | item :: rest =>
    if item.isReady now then some (item, rest)
    else (takeReady now rest).map fun (found, others) => (found, item :: others)

/-- Takes the oldest mail that is ready at time `now`. -/
def dequeue (q : MailQueue) (now : Nat) : Option (Mail × MailQueue) :=
  (takeReady now q.items).map fun (item, items) => (item.mail, { q with items })

/-- Drops all mail. -/
def clear (q : MailQueue) : MailQueue :=
  { q with items := [] }

end MailQueue

end MailRouting
