import Pushdown.Calendar.Instant
import Pushdown.Column.Basic
import Pushdown.Json.Basic

/-!
# Predicates

A filter is settled into a predicate before any backend sees it. A predicate speaks of resolved
columns and of literals of the column's type, and has a small set of shapes, so that every
backend renders the same tree. `Literal.toJson` is the rendering of a literal in documents.
-/

namespace Pushdown

/-- A value a column is compared with. -/
inductive Literal where
  | number (x : Binary64)
  | text (s : String)
  | bool (b : Bool)
  | timestamp (t : Instant)
  deriving DecidableEq, Repr, Inhabited

/-- The magnitude from which a number without a fraction is no longer written as an integer. -/
def integralBound : Nat := 9000000000000000

/-- Whether a number is written as an integer. -/
def Binary64.writesAsInteger (x : Binary64) : Bool :=
  x.isIntegral && x.absBelow integralBound

/-- A number in a document: an integer where it is one, `null` where it is not finite. -/
def Json.ofNumber (x : Binary64) : Json :=
  if x.writesAsInteger then .int x.truncate
  else if x.isFinite then .float x
  else .null

/-- A literal in a document; instants are milliseconds since the epoch. -/
def Literal.toJson : Literal → Json
  | .number x => .ofNumber x
  | .text s => .text s
  | .bool b => .bool b
  | .timestamp t => .int t.toMillis

/-- How a column is compared with a literal. -/
inductive Comparison where
  | eq
  | ne
  | lt
  | le
  | gt
  | ge
  deriving DecidableEq, Repr, Inhabited

/-- The operator of a comparison. -/
def Comparison.symbol : Comparison → String
  | .eq => "="
  | .ne => "<>"
  | .lt => "<"
  | .le => "<="
  | .gt => ">"
  | .ge => ">="

/-- What a row must satisfy. `between` is the closed range, or when negated everything outside
of it. -/
inductive Predicate where
  | compare (column : Column) (op : Comparison) (value : Literal)
  | between (column : Column) (low high : Literal) (negated : Bool)
  | inList (column : Column) (values : List Literal) (negated : Bool)
  | isNull (column : Column) (negated : Bool)
  | any (parts : List Predicate)
  | all (parts : List Predicate)
  | constant (value : Bool)
  deriving Repr, Inhabited

end Pushdown
