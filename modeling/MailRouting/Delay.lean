/-!
# Delays

* `Duration` — a span of time in seconds and nanoseconds;
* `TimeUnit` — the units that a delay may be given in;
* `Delay` — an amount of a unit, with `Delay.duration` exact up to the longest duration.
-/

namespace MailRouting

/-- A span of time: `seconds`, and `nanoseconds` below one second. -/
structure Duration where
  seconds : Nat
  nanoseconds : Nat
  deriving DecidableEq, Repr

namespace Duration

/-- The most seconds that a duration may have, the greatest number of 64 bits. -/
def maxSeconds : UInt64 := 18446744073709551615

/-- `amount` times `factor` seconds, cut off at the most that a duration may have. The quotient
tells whether the product fits, since the product itself cannot. -/
def cappedSeconds (amount factor : UInt64) : UInt64 :=
  if factor = 0 ∨ amount ≤ maxSeconds / factor then amount * factor else maxSeconds

/-- A number of whole seconds. -/
def ofSeconds (seconds : UInt64) : Duration :=
  ⟨seconds.toNat, 0⟩

/-- The nanoseconds of those among `amount` parts of a second that make no whole one, where
`perSecond` of them make a second. -/
def restNanoseconds (perSecond amount : UInt64) : UInt32 :=
  (amount % perSecond).toUInt32 * (1000000000 / perSecond).toUInt32

/-- `amount` parts of a second, of which `perSecond` make a second. -/
def ofParts (perSecond amount : UInt64) : Duration :=
  ⟨(amount / perSecond).toNat, (restNanoseconds perSecond amount).toNat⟩

/-- The duration in nanoseconds. -/
def toNanoseconds (d : Duration) : Nat :=
  d.seconds * 1000000000 + d.nanoseconds

end Duration

/-- A unit of time. -/
inductive TimeUnit where
  | nanoseconds
  | microseconds
  | milliseconds
  | seconds
  | minutes
  | hours
  | days
  deriving DecidableEq, Repr

namespace TimeUnit

/-- All units, from the shortest to the longest. -/
def all : List TimeUnit :=
  [.nanoseconds, .microseconds, .milliseconds, .seconds, .minutes, .hours, .days]

/-- The name of a unit. -/
def name : TimeUnit → String
  | .nanoseconds => "Nanoseconds"
  | .microseconds => "Microseconds"
  | .milliseconds => "Milliseconds"
  | .seconds => "Seconds"
  | .minutes => "Minutes"
  | .hours => "Hours"
  | .days => "Days"

/-- The duration of an amount of the unit. -/
def duration (unit : TimeUnit) (amount : UInt64) : Duration :=
  match unit with
  | .nanoseconds => .ofParts 1000000000 amount
  | .microseconds => .ofParts 1000000 amount
  | .milliseconds => .ofParts 1000 amount
  | .seconds => .ofSeconds amount
  | .minutes => .ofSeconds (Duration.cappedSeconds amount 60)
  | .hours => .ofSeconds (Duration.cappedSeconds amount 3600)
  | .days => .ofSeconds (Duration.cappedSeconds amount 86400)

end TimeUnit

/-- How long a mail is held back: an amount of a unit of time. -/
structure Delay where
  amount : UInt64
  unit : TimeUnit
  deriving DecidableEq, Repr

namespace Delay

/-- The duration of the delay. -/
def duration (d : Delay) : Duration :=
  d.unit.duration d.amount

end Delay

end MailRouting
