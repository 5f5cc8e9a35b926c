/-!
# The proleptic Gregorian calendar

A date is counted in days from 1 January 1970. `Date.toDays` adds up the days before the year and
before the month; `Date.ofDays` finds the year by taking out whole cycles of 400, 100, 4 and 1
years, and the month from the table of month starts. Years run from `minYear` to `maxYear`, which
is as far as instants are kept.
-/

namespace Pushdown

/-- A day of the calendar. -/
structure Date where
  year : Int
  month : Nat
  day : Nat
  deriving DecidableEq, Repr, Inhabited

namespace Date

/-- The first year that is kept. -/
def minYear : Int := -262143

/-- The last year that is kept. -/
def maxYear : Int := 262142

/-- Whether the year has a 29 February. -/
def isLeap (year : Int) : Bool :=
  year % 4 == 0 && (year % 100 != 0 || year % 400 == 0)

/-- The days of the year before each month. -/
def daysBeforeMonth (leap : Bool) (month : Nat) : Nat :=
  let shift := if leap ∧ 2 < month then 1 else 0
  shift + match month with
    | 0 | 1 => 0
    | 2 => 31
    | 3 => 59
    | 4 => 90
    | 5 => 120
    | 6 => 151
    | 7 => 181
    | 8 => 212
    | 9 => 243
    | 10 => 273
    | 11 => 304
    | 12 => 334
    | _ => 365

/-- The number of days of a month. -/
def daysInMonth (year : Int) (month : Nat) : Nat :=
  daysBeforeMonth (isLeap year) (month + 1) - daysBeforeMonth (isLeap year) month

/-- Whether the date exists and its year is kept. -/
def isValid (d : Date) : Bool :=
  minYear ≤ d.year && d.year ≤ maxYear && 1 ≤ d.month && d.month ≤ 12 && 1 ≤ d.day
    && d.day ≤ daysInMonth d.year d.month

/-- The days from 1 January of year 1 to 1 January of the year. -/
def daysBeforeYear (year : Int) : Int :=
  365 * (year - 1) + (year - 1) / 4 - (year - 1) / 100 + (year - 1) / 400

/-- The days from 1 January of year 1 to 1 January 1970. -/
def epochDay : Int := 719162

/-- The days from 1 January 1970 to the date. -/
def toDays (d : Date) : Int :=
  daysBeforeYear d.year + daysBeforeMonth (isLeap d.year) d.month + (d.day - 1 : Int) - epochDay

/-- The year that day `n` falls into, counted from 1 January of year 1, and the days of the year
before it. -/
def yearOfDay (n : Int) : Int × Nat :=
  let cycles := n / 146097
  let r := n % 146097
  let centuries := min 3 (r / 36524)
  let r := r - 36524 * centuries
  let quads := r / 1461
  let r := r - 1461 * quads
  let years := min 3 (r / 365)
  (400 * cycles + 100 * centuries + 4 * quads + years + 1, (r - 365 * years).toNat)

/-- The month that day `n` of a year falls into. -/
def monthOfDay (leap : Bool) (n : Nat) : Nat :=
  ((List.range 12).countP fun m => daysBeforeMonth leap (m + 1) ≤ n)

/-- The date that many days from 1 January 1970. -/
def ofDays (days : Int) : Date :=
  let (year, n) := yearOfDay (days + epochDay)
  let month := monthOfDay (isLeap year) n
  ⟨year, month, n - daysBeforeMonth (isLeap year) month + 1⟩

/-- The first day that is kept. -/
def minDays : Int := toDays ⟨minYear, 1, 1⟩

/-- The last day that is kept. -/
def maxDays : Int := toDays ⟨maxYear, 12, 31⟩

end Date

end Pushdown
