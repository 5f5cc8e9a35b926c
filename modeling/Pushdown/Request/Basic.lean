import Pushdown.Json.Basic

/-!
# Requests

A request names a dataset, the columns it wants in order, filters on columns, and whether the
work of grouping is to be pushed down to the backend. A column may ask for an aggregation or, for
instants, for the period it is truncated to.
-/

namespace Pushdown

/-- What a column is reduced to within a group. -/
inductive Aggregation where
  | sum
  | min
  | max
  | count
  | distinctCount
  deriving DecidableEq, Repr, Inhabited

namespace Aggregation

/-- The name of an aggregation. -/
def name : Aggregation → String
  | .sum => "sum"
  | .min => "min"
  | .max => "max"
  | .count => "count"
  | .distinctCount => "distinctcount"

/-- Counts answer numbers on every column. -/
def isCount : Aggregation → Bool
  | .count | .distinctCount => true
  | _ => false

/-- The aggregation a request spells. -/
def ofSpelling? : String → Option Aggregation
  | "sum" => some .sum
  | "min" => some .min
  | "max" => some .max
  | "count" => some .count
  | "distinctcount" | "distinct_count" => some .distinctCount
  | _ => none

end Aggregation

/-- The period an instant is truncated to the start of. -/
inductive DateLevel where
  | millisecond
  | second
  | minute
  | hour
  | day
  | week
  | month
  | quarter
  | year
  deriving DecidableEq, Repr, Inhabited

namespace DateLevel

/-- Every level, the longest period first. -/
def all : List DateLevel :=
  [.year, .quarter, .month, .week, .day, .hour, .minute, .second, .millisecond]

/-- The name of a level. -/
def name : DateLevel → String
  | .millisecond => "millisecond"
  | .second => "second"
  | .minute => "minute"
  | .hour => "hour"
  | .day => "day"
  | .week => "week"
  | .month => "month"
  | .quarter => "quarter"
  | .year => "year"

/-- The place of a level in the order of periods, the shortest first. -/
def rank : DateLevel → Nat
  | .millisecond => 0
  | .second => 1
  | .minute => 2
  | .hour => 3
  | .day => 4
  | .week => 5
  | .month => 6
  | .quarter => 7
  | .year => 8

instance : LE DateLevel := ⟨fun a b => a.rank ≤ b.rank⟩

instance (a b : DateLevel) : Decidable (a ≤ b) := inferInstanceAs (Decidable (a.rank ≤ b.rank))

/-- Levels with the shortest period first. -/
def ascending (levels : List DateLevel) : List DateLevel :=
  levels.mergeSort fun a b => a ≤ b

/-- The level with the longest period. -/
def longest? (levels : List DateLevel) : Option DateLevel :=
  (ascending levels).getLast?

/-- The level a name spells exactly. -/
def ofName? (s : String) : Option DateLevel :=
  all.find? fun level => level.name = s

theorem ofName?_name (level : DateLevel) : ofName? level.name = some level := by
  cases level <;> decide

end DateLevel

/-- The test a filter makes. -/
inductive FilterTest where
  | eq
  | ne
  | lt
  | le
  | gt
  | ge
  | isIn
  | notIn
  | isNull
  | isNotNull
  deriving DecidableEq, Repr, Inhabited

namespace FilterTest

/-- Every test. -/
def all : List FilterTest :=
  [.eq, .ne, .lt, .le, .gt, .ge, .isIn, .notIn, .isNull, .isNotNull]

/-- How a request spells the test. -/
def spelling : FilterTest → String
  | .eq => "="
  | .ne => "<>"
  | .lt => "<"
  | .le => "<="
  | .gt => ">"
  | .ge => ">="
  | .isIn => "in"
  | .notIn => "not in"
  | .isNull => "is null"
  | .isNotNull => "is not null"

/-- The test a request spells. -/
def ofSpelling? (s : String) : Option FilterTest :=
  all.find? fun test => test.spelling = s

theorem ofSpelling?_spelling (test : FilterTest) : ofSpelling? test.spelling = some test := by
  cases test <;> decide

end FilterTest

/-- A column a request asks for. -/
structure RequestedColumn where
  columnId : String
  aggregation : Option Aggregation
  level : Option DateLevel
  deriving DecidableEq, Repr, Inhabited

/-- A filter. `null` among the values of a membership test stands for the rows without a value. -/
structure Filter where
  columnId : String
  test : FilterTest
  values : List Json
  deriving DecidableEq, Repr, Inhabited

/-- A request. -/
structure Request where
  datasetId : String
  columns : List RequestedColumn
  filters : List Filter
  pushdown : Bool
  deriving DecidableEq, Repr, Inhabited

/-- The column id that stands for the rows themselves. -/
def wildcard : String := "*"

/-- Whether the column stands for the rows themselves. -/
def RequestedColumn.isWildcard (c : RequestedColumn) : Bool :=
  c.columnId = wildcard

end Pushdown
