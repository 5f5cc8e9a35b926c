import Pushdown.Query.Native
import Pushdown.Relational.Dialect

/-!
# Statements from plans

A plan becomes one `SELECT`: an item for each projection under the alias of its place, the table,
a condition for each predicate, and the grouping by the expressions of the plain columns when
grouping is pushed down. Plain columns also order the pages, by their ordinals, so that pages cut
by number of rows fit together.
-/

namespace Pushdown

namespace Dialect

/-! ## Conditions -/

/-- A condition that is always or never true. -/
def constantText (b : Bool) : String :=
  if b then "1 = 1" else "1 = 0"

/-- Conditions joined by a connective: in parentheses when there are several, and the given
constant when there is none. -/
def joined (connective : String) (empty : Bool) : List Fragments → Fragments
  | [] => [.words (constantText empty)]
  | [part] => part
  | parts => .words "(" :: Fragment.separated connective parts ++ [.words ")"]

mutual

/-- The condition a predicate stands for. -/
def condition (d : Dialect) : Predicate → Fragments
  | .compare column op value =>
    [.name column.name, .words (" " ++ op.symbol ++ " "), d.literal value]
  | .between column low high negated =>
    if negated then
      [ .words "(", .name column.name, .words " < ", d.literal low, .words " OR ",
        .name column.name, .words " > ", d.literal high, .words ")" ]
    else
      [ .words "(", .name column.name, .words " >= ", d.literal low, .words " AND ",
        .name column.name, .words " <= ", d.literal high, .words ")" ]
  | .inList column values negated =>
    [.name column.name, .words (if negated then " NOT IN (" else " IN (")]
      ++ Fragment.separated ", " (values.map fun v => [d.literal v]) ++ [.words ")"]
  | .isNull column negated =>
    [.name column.name, .words (if negated then " IS NOT NULL" else " IS NULL")]
  | .any parts => joined " OR " false (d.conditions parts)
  | .all parts => joined " AND " true (d.conditions parts)
  | .constant value => [.words (constantText value)]

/-- The conditions of several predicates. -/
def conditions (d : Dialect) : List Predicate → List Fragments
  | [] => []
  | p :: rest => d.condition p :: d.conditions rest

end

/-! ## The select list -/

/-- The expression of a plain column, truncated to its level. -/
def columnExpression (d : Dialect) (column : Column) (level : Option DateLevel) : Fragments :=
  match level with
  | some level =>
    if column.type = .datetime then d.term [.name column.name] (d.truncation level)
    else [.name column.name]
  | none => [.name column.name]

/-- The expression of an aggregation. -/
def aggregateExpression (aggregation : Aggregation) (expression : Fragments) : Fragments :=
  let call (function : String) : Fragments :=
    .words (function ++ "(") :: expression ++ [.words ")"]
  match aggregation with
  | .sum => call "SUM"
  | .min => call "MIN"
  | .max => call "MAX"
  | .count => call "COUNT"
  | .distinctCount => countDistinct expression

/-- The expression of a projection. -/
def expression (d : Dialect) : Projection → Fragments
  | .column column level => d.columnExpression column level
  | .aggregate column aggregation => aggregateExpression aggregation [.name column.name]
  | .rowCount => [.words "COUNT(*)"]
  | .unit => [.words "1"]

/-- An item of the select list. -/
def selectItem (d : Dialect) (placed : Projection × Nat) : Fragments :=
  d.expression placed.1 ++ [.words " AS ", .name (placeName placed.2)]

/-- The expressions of the plain columns. -/
def columnExpressions (d : Dialect) (plan : Plan) : List Fragments :=
  (plan.projections.filter Projection.isColumn).map d.expression

/-- The ordinals of the plain columns in the select list. -/
def columnOrdinals (plan : Plan) : List Nat :=
  (plan.placed.filter fun placed => placed.1.isColumn).map fun placed => placed.2 + 1

/-! ## The statement -/

/-- A clause, left out when it has no parts. -/
def clause (keyword between : String) (parts : List Fragments) : Fragments :=
  if parts.isEmpty then [] else .words keyword :: Fragment.separated between parts

/-- The statement of a plan. -/
def statement (d : Dialect) (plan : Plan) : Fragments :=
  .words "SELECT " :: Fragment.separated ", " (plan.placed.map d.selectItem)
    ++ .words " FROM " :: tableName plan.datasetName
    ++ clause " WHERE " " AND " (d.conditions plan.predicates)
    ++ clause " GROUP BY " ", " (if plan.pushdown then d.columnExpressions plan else [])

/-- The compiled query of a plan. A single row needs no paging. -/
def compile (d : Dialect) (plan : Plan) : CompiledQuery :=
  { backend := d.kind
    native := .statement (d.render (d.statement plan)) (columnOrdinals plan)
    groupCount := plan.groupCount
    shape := plan.shape
    strategy := if plan.shape = .aggregate then .singleShot else .offset
    outputs := plan.outputs .places }

end Dialect

end Pushdown
