import Pushdown.Predicate.Basic

/-!
# Document selectors

The part of the document store's query language that predicates need. A test on a field by an
operator only matches documents that hold a value there, except that `$ne` and `$nin` match every
document that `$eq` and `$in` do not, and a bare `null` matches a field that is `null` or absent.
`Selector.ofPredicate` renders a predicate.
-/

namespace Pushdown

namespace Document

/-- A test of a field. -/
inductive Operator where
  | eq
  | ne
  | lt
  | lte
  | gt
  | gte
  | isIn
  | notIn
  deriving DecidableEq, Repr, Inhabited

/-- The name of an operator. -/
def Operator.name : Operator → String
  | .eq => "$eq"
  | .ne => "$ne"
  | .lt => "$lt"
  | .lte => "$lte"
  | .gt => "$gt"
  | .gte => "$gte"
  | .isIn => "$in"
  | .notIn => "$nin"

/-- A query over documents. -/
inductive Selector where
  | field (name : String) (tests : List (Operator × Json))
  | absent (name : String)
  | anyOf (parts : List Selector)
  | allOf (parts : List Selector)
  | everything
  | nothing
  deriving Repr, Inhabited

namespace Selector

mutual

/-- The selector as it is written in a query. -/
def toJson : Selector → Json
  | .field name tests => .single name (.ofMembers (tests.map fun t => (t.1.name, t.2)))
  | .absent name => .single name .null
  | .anyOf parts => .single "$or" (.list (toJsonList parts))
  | .allOf parts => .single "$and" (.list (toJsonList parts))
  | .everything => .object []
  | .nothing => .single "$expr" (.bool false)

/-- Several selectors as they are written in a query. -/
def toJsonList : List Selector → List Json
  | [] => []
  | s :: rest => toJson s :: toJsonList rest

end

/-- A literal in a query: instants are marked as such. -/
def literal : Literal → Json
  | .timestamp t => .single "$date" (.text t.iso)
  | value => value.toJson

/-- The operator of a comparison. -/
def operatorOf : Comparison → Operator
  | .eq => .eq
  | .ne => .ne
  | .lt => .lt
  | .le => .lte
  | .gt => .gt
  | .ge => .gte

/-- A range of a column, or everything outside of it. -/
def rangeOf (column : Column) (low high : Literal) (negated : Bool) : Selector :=
  if negated then
    .anyOf
      [ .field column.name [(.lt, literal low)], .field column.name [(.gt, literal high)] ]
  else .field column.name [(.gte, literal low), (.lte, literal high)]

mutual

/-- The selector of a predicate. -/
def ofPredicate : Predicate → Selector
  | .compare column op value => .field column.name [(operatorOf op, literal value)]
  | .between column low high negated => rangeOf column low high negated
  | .inList column values negated =>
    .field column.name [(if negated then .notIn else .isIn, .list (values.map literal))]
  | .isNull column negated =>
    if negated then .field column.name [(.ne, .null)] else .absent column.name
  | .any parts => .anyOf (ofPredicates parts)
  | .all parts => .allOf (ofPredicates parts)
  | .constant value => if value then .everything else .nothing

/-- The selectors of several predicates. -/
def ofPredicates : List Predicate → List Selector
  | [] => []
  | p :: rest => ofPredicate p :: ofPredicates rest

end

/-- The selector of a list of predicates that must all hold. -/
def ofConjunction : List Predicate → Selector
  | [] => .everything
  | [p] => ofPredicate p
  | ps => .allOf (ofPredicates ps)

/-- Whether the selector is written as the empty document. -/
def isEverything : Selector → Bool
  | .everything => true
  | _ => false

end Selector

end Document

end Pushdown
