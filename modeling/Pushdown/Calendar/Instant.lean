import Pushdown.Calendar.Date
import Pushdown.Text.Digit

/-!
# Instants

An instant is a day, a second of that day and the nanoseconds into it, in universal time. A leap
second is kept as nanoseconds of a second billion, so that it is written as `:60` and counts, as a
number, like the second that follows it. Instants are written with milliseconds: `Instant.iso`
for results and documents, `Instant.stamp` inside the literals of statements. A year outside the
four digits is written with its sign.
-/

namespace Pushdown

/-- A point in universal time. -/
structure Instant where
  /-- Days since 1 January 1970. -/
  days : Int
  /-- Seconds since midnight. -/
  seconds : Nat
  /-- Nanoseconds into the second, from a billion on in a leap second. -/
  nanos : Nat
  deriving DecidableEq, Repr, Inhabited

namespace Instant

/-- The seconds of a day. -/
def daySeconds : Nat := 86400

/-- Nanoseconds in a second. -/
def billion : Nat := 1000000000

/-- The instant that many seconds and nanoseconds from the epoch, if its year is kept. -/
def ofSeconds? (seconds : Int) (nanos : Nat) : Option Instant :=
  let days := seconds / daySeconds
  if Date.minDays ≤ days ∧ days ≤ Date.maxDays then
    some ⟨days, (seconds % daySeconds).toNat, nanos⟩
  else none

/-- The instant that many milliseconds from the epoch, if its year is kept. -/
def ofMillis? (millis : Int) : Option Instant :=
  ofSeconds? (millis / 1000) ((millis % 1000).toNat * 1000000)

/-- Whole seconds since the epoch. -/
def toSeconds (t : Instant) : Int :=
  t.days * daySeconds + t.seconds

/-- Whole milliseconds since the epoch. -/
def toMillis (t : Instant) : Int :=
  t.toSeconds * 1000 + t.nanos / 1000000

/-- Whole microseconds since the epoch. -/
def toMicros (t : Instant) : Int :=
  t.toSeconds * 1000000 + t.nanos / 1000

/-- The same instant read `offset` seconds east of universal time, taken back to it. -/
def shiftBack? (offset : Int) (t : Instant) : Option Instant :=
  let seconds : Int := t.seconds - offset
  let days := t.days + seconds / daySeconds
  if Date.minDays ≤ days ∧ days ≤ Date.maxDays then
    some ⟨days, (seconds % daySeconds).toNat, t.nanos⟩
  else none

/-- A number padded with zeros to a width. -/
def padded (width n : Nat) : String :=
  let digits := toString n
  String.ofList (List.replicate (width - digits.length) '0') ++ digits

/-- A year in four digits, or with its sign and at least four digits. -/
def yearText (year : Int) : String :=
  if 0 ≤ year ∧ year ≤ 9999 then padded 4 year.natAbs
  else (if year < 0 then "-" else "+") ++ padded 4 year.natAbs

/-- `year-month-day`. -/
def dateText (t : Instant) : String :=
  let d := Date.ofDays t.days
  yearText d.year ++ "-" ++ padded 2 d.month ++ "-" ++ padded 2 d.day

/-- `hour:minute:second.millis`; a leap second is the sixtieth. -/
def timeText (t : Instant) : String :=
  let second := t.seconds % 60 + t.nanos / billion
  padded 2 (t.seconds / 3600) ++ ":" ++ padded 2 (t.seconds / 60 % 60) ++ ":"
    ++ padded 2 second ++ "." ++ padded 3 (t.nanos % billion / 1000000)

/-- The text of a result: `2024-01-02T03:04:05.678Z`. -/
def iso (t : Instant) : String :=
  t.dateText ++ "T" ++ t.timeText ++ "Z"

/-- The text inside a literal: the date, a separator and the time. -/
def stamp (separator : String) (t : Instant) : String :=
  t.dateText ++ separator ++ t.timeText

end Instant

end Pushdown
