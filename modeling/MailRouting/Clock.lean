/-!
# Dates

* `CivilDate` — a day of the Gregorian calendar, with `CivilDate.ofDays` counting from 1970-01-01;
* `Timestamp` — a second in universal time;
* `Timestamp.mailDate` — the date as a `Date` field writes it (RFC 5322, section 3.3).
-/

namespace MailRouting

/-- A day of the Gregorian calendar. -/
structure CivilDate where
  year : Nat
  /-- 1 to 12. -/
  month : Nat
  /-- 1 to 31. -/
  day : Nat
  deriving DecidableEq, Repr

/-- The day that is `days` days after 1970-01-01. Years are counted from March on, so that the
leap day comes last, in eras of 400 years. -/
def CivilDate.ofDays (days : Nat) : CivilDate :=
  let z := days + 719468
  let era := z / 146097
  let dayOfEra := z % 146097
  let yearOfEra := (dayOfEra - dayOfEra / 1460 + dayOfEra / 36524 - dayOfEra / 146096) / 365
  let dayOfYear := dayOfEra - (365 * yearOfEra + yearOfEra / 4 - yearOfEra / 100)
  let shifted := (5 * dayOfYear + 2) / 153
  let day := dayOfYear - (153 * shifted + 2) / 5 + 1
  let month := if shifted < 10 then shifted + 3 else shifted - 9
  ⟨yearOfEra + era * 400 + (if month ≤ 2 then 1 else 0), month, day⟩

/-- A second in universal time, counted from the start of 1970. -/
structure Timestamp where
  seconds : Nat
  deriving DecidableEq, Repr

namespace Timestamp

/-- The names of the days of the week from Sunday on. -/
def dayNames : List String :=
  ["Sun", "Mon", "Tue", "Wed", "Thu", "Fri", "Sat"]

/-- The names of the months. -/
def monthNames : List String :=
  ["Jan", "Feb", "Mar", "Apr", "May", "Jun", "Jul", "Aug", "Sep", "Oct", "Nov", "Dec"]

/-- A number in at least two digits. -/
def twoDigits (n : Nat) : String :=
  if n < 10 then "0" ++ toString n else toString n

/-- The date and the time of day in the form of a `Date` field. -/
def mailDate (t : Timestamp) : String :=
  let days := t.seconds / 86400
  let second := t.seconds % 86400
  let date := CivilDate.ofDays days
  dayNames.getD ((days + 4) % 7) "" ++ ", " ++ toString date.day ++ " " ++
    monthNames.getD (date.month - 1) "" ++ " " ++ toString date.year ++ " " ++
    twoDigits (second / 3600) ++ ":" ++ twoDigits (second / 60 % 60) ++ ":" ++
    twoDigits (second % 60) ++ " +0000"

example : CivilDate.ofDays 0 = ⟨1970, 1, 1⟩ ∧ CivilDate.ofDays 11016 = ⟨2000, 2, 29⟩ := by decide

end Timestamp

end MailRouting
