import Pushdown.Predicate.OfFilter

/-!
# Plans

A plan is a request whose names are resolved and whose columns and filters have been found to
make sense: a projection for each requested column, in order, and a predicate for each filter.
`Plan.build` finds the first thing wrong, in the order columns missing, dataset, columns,
filters. The shape of a plan follows from its group keys; `Plan.outputs` says for each column
where a row of the result holds its value, and how that is read.
-/

namespace Pushdown

/-- What a requested column turns into. -/
inductive Projection where
  /-- A value of the row or, when grouping is pushed down, a group key. -/
  | column (column : Column) (level : Option DateLevel)
  | aggregate (column : Column) (aggregation : Aggregation)
  /-- The number of rows of a group. -/
  | rowCount
  /-- The constant 1 of a row. -/
  | unit
  deriving DecidableEq, Repr, Inhabited

/-- Whether the projection is a column. -/
def Projection.isColumn : Projection → Bool
  | .column .. => true
  | _ => false

/-- What the rows of a result are. -/
inductive Shape where
  | rows
  | grouped
  /-- One row for everything. -/
  | aggregate
  deriving DecidableEq, Repr, Inhabited

/-- How a result is walked page by page. -/
inductive PageStrategy where
  | singleShot
  | offset
  | cursor
  | afterKey
  deriving DecidableEq, Repr, Inhabited

/-- What an output value is: counts are zero over no rows, other values are absent. -/
inductive OutputRole where
  | value
  | count
  | rowCount
  | unit
  deriving DecidableEq, Repr, Inhabited

/-- Where a row of the result holds the value of a requested column, and how it is read. -/
structure OutputColumn where
  key : String
  type : ColumnType
  role : OutputRole
  deriving DecidableEq, Repr, Inhabited

/-- How the values of plain columns are named in the rows of a result. -/
inductive OutputKeys where
  /-- Every value is named by its place. -/
  | places
  /-- Plain columns keep the names the backend has for them. -/
  | nativeNames
  deriving DecidableEq, Repr, Inhabited

/-- The name of the value at a place: `c0`, `c1`, and so on. -/
def placeName (place : Nat) : String :=
  "c" ++ toString place

/-- A request whose names are resolved. -/
structure Plan where
  datasetId : String
  datasetName : String
  projections : List Projection
  predicates : List Predicate
  pushdown : Bool
  deriving Repr, Inhabited

namespace Plan

/-- Whether a column can be reduced so. -/
def supports (aggregation : Aggregation) (type : ColumnType) : Bool :=
  match aggregation with
  | .count | .distinctCount => true
  | .sum => type = .numeric
  | .min | .max => type ≠ .hierarchy

/-- The projection of `*`. -/
def projectRows (pushdown : Bool) (requested : RequestedColumn) : Except Failure Projection :=
  match requested.aggregation with
  | none | some .count => .ok (if pushdown then .rowCount else .unit)
  | some aggregation => .error (.wildcardAggregation aggregation)

/-- The projection of a resolved column. Without pushdown an aggregation is left aside, and so is
a level on anything but a group key of instants. -/
def projectColumn (pushdown : Bool) (requested : RequestedColumn) (column : Column) :
    Except Failure Projection :=
  match pushdown, requested.aggregation with
  | true, some aggregation =>
    if supports aggregation column.type then .ok (.aggregate column aggregation)
    else .error (.unsupportedAggregation aggregation column)
  | _, _ =>
    .ok (.column column
      (if pushdown ∧ column.type = .datetime then requested.level else none))

/-- The projection of a requested column. -/
def project (pushdown : Bool) (dataset : Dataset) (requested : RequestedColumn) :
    Except Failure Projection :=
  if requested.isWildcard then projectRows pushdown requested
  else do
    let column ← dataset.resolve requested.columnId
    projectColumn pushdown requested column

/-- The plan of a request against a schema. -/
def build (options : FilterOptions) (schema : Schema) (request : Request) :
    Except Failure Plan := do
  if request.columns.isEmpty then throw .noColumns
  let dataset ← schema.resolve request.datasetId
  let projections ← request.columns.mapM (project request.pushdown dataset)
  let predicates ← request.filters.mapM (Predicate.ofDatasetFilter options dataset)
  return {
    datasetId := dataset.id
    datasetName := dataset.name
    projections
    predicates
    pushdown := request.pushdown }

/-- The projections with their places. -/
def placed (plan : Plan) : List (Projection × Nat) :=
  plan.projections.zipIdx

/-- The number of group keys. -/
def groupCount (plan : Plan) : Nat :=
  if plan.pushdown then plan.projections.countP Projection.isColumn else 0

/-- What the rows of the result are. -/
def shape (plan : Plan) : Shape :=
  if !plan.pushdown then .rows
  else if plan.groupCount = 0 then .aggregate
  else .grouped

/-- Where the value of a projection at a place is found. -/
def output (keys : OutputKeys) (pushdown : Bool) : Projection × Nat → OutputColumn
  | (.column column _, place) =>
    ⟨if keys = .nativeNames ∧ !pushdown then column.name else placeName place, column.type, .value⟩
  | (.aggregate column aggregation, place) =>
    ⟨placeName place,
      match aggregation with
      | .min | .max => column.type
      | _ => .numeric,
      if aggregation.isCount then .count else .value⟩
  | (.rowCount, place) => ⟨placeName place, .numeric, .rowCount⟩
  | (.unit, place) => ⟨placeName place, .numeric, .unit⟩

/-- Where the values of the requested columns are found, in order. -/
def outputs (keys : OutputKeys) (plan : Plan) : List OutputColumn :=
  plan.placed.map (output keys plan.pushdown)

end Plan

end Pushdown
