import Pushdown.Predicate.Basic

/-!
# Search clauses

The part of the search engine's query language that predicates need. A clause about a field only
matches documents that hold a value in it, and `not` matches exactly the documents its part does
not, those without a value included. `Clause.ofPredicate` renders a predicate: labels are matched
on their exact sub-field, and equality of instants is a range of one millisecond.
-/

namespace Pushdown

namespace Search

/-- A bound of a range. -/
inductive Bound where
  | lt
  | lte
  | gt
  | gte
  deriving DecidableEq, Repr, Inhabited

/-- The name of a bound. -/
def Bound.name : Bound → String
  | .lt => "lt"
  | .lte => "lte"
  | .gt => "gt"
  | .gte => "gte"

/-- A clause of a query. -/
inductive Clause where
  | term (field : String) (value : Json)
  | terms (field : String) (values : List Json)
  /-- A value within all bounds; `millis` says that they are milliseconds since the epoch. -/
  | range (field : String) (bounds : List (Bound × Json)) (millis : Bool)
  | holds (field : String)
  | anyOf (parts : List Clause)
  | allOf (parts : List Clause)
  | not (part : Clause)
  | everything
  | nothing
  deriving Repr, Inhabited

namespace Clause

mutual

/-- The clause as it is written in a query body. -/
def toJson : Clause → Json
  | .term field value => .single "term" (.single field value)
  | .terms field values => .single "terms" (.single field (.list values))
  | .range field bounds millis =>
    .single "range" (.single field (.ofMembers
      (bounds.map (fun b => (b.1.name, b.2))
        ++ if millis then [("format", .text "epoch_millis")] else [])))
  | .holds field => .single "exists" (.single "field" (.text field))
  | .anyOf parts =>
    .single "bool" (.ofMembers
      [("should", .list (toJsonList parts)), ("minimum_should_match", .int 1)])
  | .allOf parts => .single "bool" (.single "filter" (.list (toJsonList parts)))
  | .not part => .single "bool" (.single "must_not" (.list [toJson part]))
  | .everything => .single "match_all" (.object [])
  | .nothing => .single "match_none" (.object [])

/-- Several clauses as they are written in a query body. -/
def toJsonList : List Clause → List Json
  | [] => []
  | c :: rest => toJson c :: toJsonList rest

end

/-- The field that holds the exact values of a column. -/
def exactField (column : Column) : String :=
  if column.hasKeyword then column.name ++ ".keyword" else column.name

/-- A range of a column. -/
def rangeOf (column : Column) (bounds : List (Bound × Json)) : Clause :=
  .range column.name bounds (column.type = .datetime)

/-- The clause or its complement. -/
def negatedIf (negated : Bool) (c : Clause) : Clause :=
  if negated then .not c else c

/-- Equality of a column with a literal. -/
def equals (column : Column) (value : Literal) : Clause :=
  match column.type with
  | .hierarchy => .term (exactField column) value.toJson
  | .datetime => rangeOf column [(.gte, value.toJson), (.lte, value.toJson)]
  | .numeric => .term column.name value.toJson

/-- Comparison of a column with a literal. -/
def compares (column : Column) (op : Comparison) (value : Literal) : Clause :=
  match op with
  | .eq => equals column value
  | .ne => .not (equals column value)
  | .lt => rangeOf column [(.lt, value.toJson)]
  | .le => rangeOf column [(.lte, value.toJson)]
  | .gt => rangeOf column [(.gt, value.toJson)]
  | .ge => rangeOf column [(.gte, value.toJson)]

/-- Membership of a column in a list of literals. -/
def isAmong (column : Column) (values : List Literal) : Clause :=
  match column.type with
  | .datetime =>
    .anyOf (values.map fun v => rangeOf column [(.gte, v.toJson), (.lte, v.toJson)])
  | _ => .terms (exactField column) (values.map Literal.toJson)

mutual

/-- The clause of a predicate. -/
def ofPredicate : Predicate → Clause
  | .compare column op value => compares column op value
  | .between column low high negated =>
    negatedIf negated (rangeOf column [(.gte, low.toJson), (.lte, high.toJson)])
  | .inList column values negated => negatedIf negated (isAmong column values)
  | .isNull column negated => negatedIf (!negated) (.holds column.name)
  | .any parts => .anyOf (ofPredicates parts)
  | .all parts => .allOf (ofPredicates parts)
  | .constant value => if value then .everything else .nothing

/-- The clauses of several predicates. -/
def ofPredicates : List Predicate → List Clause
  | [] => []
  | p :: rest => ofPredicate p :: ofPredicates rest

end

/-- The clause of a list of predicates that must all hold. -/
def ofConjunction (predicates : List Predicate) : Clause :=
  if predicates.isEmpty then .everything else .allOf (ofPredicates predicates)

end Clause

end Search

end Pushdown
