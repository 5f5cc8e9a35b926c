import Pushdown.Calendar.Reading
import Pushdown.Predicate.Basic
import Pushdown.Query.Plan
import Pushdown.Row.Basic
import Pushdown.Row.Lookup

/-!
# Normalized rows

`normalize` turns a row as a backend shapes it into the row a request asked for: a value for each
requested column, in order, numbers as numbers and instants as one kind of text. What a backend
leaves out is `null`. `emptyAggregate` is the row that stands for a single-row result of which the
backend sent nothing.
-/

namespace Pushdown

/-! ## Instants -/

/-- The instant a value denotes that holds no others: milliseconds since the epoch, as a number
or as its text, or a written instant. -/
def Instant.ofScalar? : Json → Option Instant
  | .int k =>
    if Binary64.int64Min ≤ k ∧ k ≤ Binary64.int64Max then Instant.ofMillis? k
    else Instant.ofMillis? (Binary64.roundToInt64 (.ofInt k))
  | .float x => Instant.ofMillis? x.roundToInt64
  | .text s =>
    match int64OfText? (Text.trim s) with
    | some millis => Instant.ofMillis? millis
    | none => Instant.ofText? s
  | _ => none

mutual

/-- The instant a value denotes. An object denotes one by a marked member: the seconds of a
`$timestamp`, or what a `$date` or else a `$numberLong` denotes. -/
def Instant.ofJson? : Json → Option Instant
  | .object members =>
    match Json.lookup "$timestamp" members with
    | some stamp => ((stamp.get? "t").bind Json.int64?).bind fun s => Instant.ofSeconds? s 0
    | none =>
      let denoted := Instant.ofMembers members
      match denoted.lookup "$date" with
      | some t => t
      | none => (denoted.lookup "$numberLong").join
  | j => Instant.ofScalar? j

/-- The instants the members of an object denote. -/
def Instant.ofMembers : Members → List (String × Option Instant)
  | [] => []
  | (name, value) :: rest => (name, Instant.ofJson? value) :: Instant.ofMembers rest

end

/-- A value of a datetime column: the text of the instant it denotes, or `null`. -/
def normalizeInstant (value : Json) : Json :=
  match Instant.ofJson? value with
  | some t => .text t.iso
  | none => .null

/-! ## Values -/

/-- A value of a numeric column: a text that is a numeral becomes the number. -/
def normalizeNumber : Json → Json
  | .text s =>
    match Binary64.ofText? (Text.trim s) with
    | some x => .ofNumber x
    | none => .text s
  | value => value

/-- A value of a column of some type. -/
def normalizeValue (type : ColumnType) (value : Json) : Json :=
  match type with
  | .datetime => normalizeInstant value
  | .numeric => normalizeNumber value
  | .hierarchy => value

/-- The value of a metric: its `value` member where it has one. -/
def metricValue (j : Json) : Json :=
  (j.get? "value").getD j

/-- The value of a row for an output column at a place. -/
def NativeRow.extract (row : NativeRow) (place : Nat) (output : OutputColumn) : Json :=
  match row with
  | .positional values => values[place]?.getD .null
  | .document fields => Document.lookupPath fields output.key output.type
  | .bucket keys values _ =>
    match (Json.lookup output.key keys).or (Json.lookup output.key values) with
    | some value => metricValue value
    | none => .null

/-- The number of rows a row stands for. -/
def NativeRow.rowCount (row : NativeRow) (place : Nat) (output : OutputColumn) : Json :=
  match row with
  | .bucket _ _ (some count) => .int count
  | row => row.extract place output

/-- The value of an output column at a place. -/
def NativeRow.cell (row : NativeRow) (output : OutputColumn) (place : Nat) : Json :=
  match output.role with
  | .unit => .int 1
  | .rowCount => normalizeValue output.type (row.rowCount place output)
  | .value | .count => normalizeValue output.type (row.extract place output)

/-- The row a request asked for. -/
def normalize (outputs : List OutputColumn) (row : NativeRow) : ResultRow :=
  outputs.zipIdx.map fun placed => row.cell placed.1 placed.2

/-- The row of a single-row result that the backend left empty: counts are zero. -/
def emptyAggregate (outputs : List OutputColumn) : NativeRow :=
  .positional (outputs.map fun output =>
    match output.role with
    | .count | .rowCount => .int 0
    | .unit => .int 1
    | .value => .null)

end Pushdown
