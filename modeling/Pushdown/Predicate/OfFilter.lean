import Pushdown.Calendar.Reading
import Pushdown.Failure
import Pushdown.Predicate.Basic
import Pushdown.Schema.Basic

/-!
# Predicates from filters

`Predicate.ofFilter` settles what a filter means. Its values are coerced to the type of the
column (`Literal.coerce`); a `null` among the values of a membership test stands for the rows
without a value, and what that means for `in` and `not in` is decided here, once for all
backends:

| test     | null listed | predicate                             |
|----------|-------------|---------------------------------------|
| `in`     | yes         | in the list, or without a value       |
| `in`     | no          | in the list                           |
| `not in` | yes         | not in the list, or without a value   |
| `not in` | no          | not in the list, and with a value     |

Backends that store numbers with less precision are asked for a small range around a number in
place of equality; `FilterOptions` says so.
-/

namespace Pushdown

/-- How filters are settled for a backend. -/
structure FilterOptions where
  /-- Equality with a number is a small range around it. -/
  approximateEquality : Bool
  deriving DecidableEq, Repr, Inhabited

/-- Equality is equality. -/
def FilterOptions.exact : FilterOptions := ⟨false⟩

/-- Half the width of the range that stands for equality with a number: `5 * 10 ^ -17`. -/
def equalityMargin : Binary64 := .ofDecimal false 5 (-17)

/-- A filter value as a literal of the column's type. Numbers may be written as text, instants as
text or as milliseconds since the epoch, labels as texts, numbers or truth values. -/
def Literal.coerce? (type : ColumnType) (value : Json) : Option Literal :=
  match type, value with
  | .numeric, .text s =>
    (Binary64.ofText? (Text.trim s)).bind fun x => if x.isFinite then some (.number x) else none
  | .numeric, value =>
    value.number?.bind fun x => if x.isFinite then some (.number x) else none
  | .datetime, .text s => (Instant.ofText? s).map .timestamp
  | .datetime, value => (value.int64?.bind Instant.ofMillis?).map .timestamp
  | .hierarchy, .text s => some (.text s)
  | .hierarchy, .bool b => some (.bool b)
  | .hierarchy, .int k => some (.text (Json.int k).compact)
  | .hierarchy, .float x => some (.text (Json.float x).compact)
  | .hierarchy, _ => none

/-- A filter value as a literal of the column's type; it must be one. -/
def Literal.coerce (column : Column) (value : Json) : Except Failure Literal :=
  match Literal.coerce? column.type value with
  | some literal => .ok literal
  | none => .error (.invalidValue value column)

namespace Predicate

/-- Whether equality on the column is a small range. -/
def approximates (options : FilterOptions) (column : Column) : Bool :=
  options.approximateEquality && column.type = .numeric

/-- The small range that stands for equality with a number. -/
def nearby (column : Column) (x : Binary64) (negated : Bool) : Predicate :=
  .between column (.number (x.sub equalityMargin)) (.number (x.add equalityMargin)) negated

/-- The ranges around the numbers among some literals. -/
def nearbyEach (column : Column) (negated : Bool) (values : List Literal) : List Predicate :=
  values.filterMap fun
    | .number x => some (nearby column x negated)
    | _ => none

/-- Membership in a list without `null`. -/
def listed (options : FilterOptions) (column : Column) (values : List Literal)
    (negated : Bool) : Predicate :=
  if approximates options column then
    if negated then .all (nearbyEach column negated values)
    else .any (nearbyEach column negated values)
  else .inList column values negated

/-- Membership, given whether `null` is listed and what else is. -/
def membership (options : FilterOptions) (column : Column) (withNull : Bool)
    (values : List Literal) (negated : Bool) : Predicate :=
  match negated, withNull, values with
  | false, true, [] => .isNull column false
  | true, true, [] => .constant true
  | false, false, [] => .constant false
  | true, false, [] => .isNull column true
  | _, true, values => .any [listed options column values negated, .isNull column false]
  | false, false, values => listed options column values negated
  | true, false, values => .all [listed options column values negated, .isNull column true]

/-- Comparison with a literal. -/
def comparison (options : FilterOptions) (column : Column) (op : Comparison)
    (value : Literal) : Predicate :=
  match op, value with
  | .eq, .number x => if approximates options column then nearby column x false
    else .compare column .eq value
  | .ne, .number x => if approximates options column then nearby column x true
    else .compare column .ne value
  | op, value => .compare column op value

/-- Comparison with the first value of a filter. `null` can only be equal or not. -/
def ofComparison (options : FilterOptions) (column : Column) (f : Filter) (op : Comparison) :
    Except Failure Predicate :=
  match f.values with
  | [] => .error (.missingValue f.test f.columnId)
  | .null :: _ =>
    match op with
    | .eq => .ok (.isNull column false)
    | .ne => .ok (.isNull column true)
    | _ => .error (.nullComparison f.test f.columnId)
  | value :: _ => (Literal.coerce column value).map (comparison options column op)

/-- The literals of the values of a membership test that are not `null`; the first that does not
fit the column fails. -/
def listedLiterals (column : Column) (values : List Json) : Except Failure (List Literal) :=
  (values.filter fun v => !v.isNull).mapM (Literal.coerce column)

/-- Membership in the values of a filter. -/
def ofMembership (options : FilterOptions) (column : Column) (f : Filter) (negated : Bool) :
    Except Failure Predicate :=
  (listedLiterals column f.values).map fun values =>
    membership options column (f.values.any Json.isNull) values negated

/-- The predicate a filter on a column stands for. -/
def ofFilter (options : FilterOptions) (column : Column) (f : Filter) :
    Except Failure Predicate :=
  match f.test with
  | .isNull => .ok (.isNull column false)
  | .isNotNull => .ok (.isNull column true)
  | .isIn => ofMembership options column f false
  | .notIn => ofMembership options column f true
  | .eq => ofComparison options column f .eq
  | .ne => ofComparison options column f .ne
  | .lt => ofComparison options column f .lt
  | .le => ofComparison options column f .le
  | .gt => ofComparison options column f .gt
  | .ge => ofComparison options column f .ge

/-- The predicate a filter on a dataset stands for; its column must be known. -/
def ofDatasetFilter (options : FilterOptions) (dataset : Dataset) (f : Filter) :
    Except Failure Predicate := do
  let column ← dataset.resolve f.columnId
  ofFilter options column f

end Predicate

end Pushdown
