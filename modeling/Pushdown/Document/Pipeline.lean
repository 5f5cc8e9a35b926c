import Pushdown.Document.Selector
import Pushdown.Query.Native
import Pushdown.Row.Basic

/-!
# Document pipelines

A plan becomes a query for documents, or a pipeline of stages when grouping is pushed down. The
group stage collects each accumulator under the alias of its place; distinct values are collected
as a set, which a last stage replaces by its size while it keeps the other values.
-/

namespace Pushdown

namespace Document

/-- The type names of document fields. -/
def types : TypeTable := .names
  [ ("number", .numeric), ("double", .numeric), ("int", .numeric), ("int32", .numeric),
    ("long", .numeric), ("int64", .numeric), ("decimal", .numeric), ("decimal128", .numeric),
    ("date", .datetime), ("timestamp", .datetime), ("string", .hierarchy),
    ("objectid", .hierarchy), ("boolean", .hierarchy), ("bool", .hierarchy),
    ("bindata", .hierarchy), ("regex", .hierarchy), ("object", .hierarchy),
    ("null", .hierarchy) ]

/-- A group key: the value of a field, or the start of the period it falls into. -/
inductive GroupKey where
  | field (name : String)
  | period (name : String) (level : DateLevel)
  deriving DecidableEq, Repr, Inhabited

/-- What is collected over the documents of a group. -/
inductive Accumulator where
  | sum (field : String)
  | min (field : String)
  | max (field : String)
  /-- The number of documents in which the field is neither missing nor `null`. -/
  | count (field : String)
  /-- The set of values of the field. -/
  | distinct (field : String)
  /-- The number of documents. -/
  | documents
  deriving DecidableEq, Repr, Inhabited

/-- What a last stage makes of a collected value. -/
inductive Finish where
  | keep
  | size
  deriving DecidableEq, Repr, Inhabited

/-- A stage of a pipeline. -/
inductive Stage where
  | matching (selector : Selector)
  | group (keys : List (String × GroupKey)) (accumulators : List (String × Accumulator))
  | project (finishes : List (String × Finish))
  deriving Repr, Inhabited

/-- A reference to a field. -/
def reference (field : String) : Json := .text ("$" ++ field)

/-- The group key as it is written. Weeks start on Monday. -/
def GroupKey.toJson : GroupKey → Json
  | .field name => reference name
  | .period name level =>
    .single "$dateTrunc" (.ofMembers
      ([("date", reference name), ("unit", .text level.name)]
        ++ if level = .week then [("startOfWeek", .text "monday")] else []))

/-- The accumulator as it is written. -/
def Accumulator.toJson : Accumulator → Json
  | .sum field => .single "$sum" (reference field)
  | .min field => .single "$min" (reference field)
  | .max field => .single "$max" (reference field)
  | .count field =>
    .single "$sum" (.single "$cond" (.list
      [ .single "$ne" (.list
          [.single "$ifNull" (.list [reference field, .null]), .null]),
        .int 1, .int 0 ]))
  | .distinct field => .single "$addToSet" (reference field)
  | .documents => .single "$sum" (.int 1)

/-- What becomes of the value of that name, as it is written. -/
def Finish.toJson (name : String) : Finish → Json
  | .keep => .int 1
  | .size => .single "$size" (reference name)

/-- The group keys as they are written; everything is one group when there are none. -/
def keysJson (keys : List (String × GroupKey)) : Json :=
  if keys.isEmpty then .null else .ofMembers (keys.map fun k => (k.1, k.2.toJson))

/-- The stage as it is written. -/
def Stage.toJson : Stage → Json
  | .matching selector => .single "$match" selector.toJson
  | .group keys accumulators =>
    .single "$group" (.ofMembers
      (("_id", keysJson keys) :: accumulators.map fun a => (a.1, a.2.toJson)))
  | .project finishes =>
    .single "$project" (.ofMembers
      (("_id", .int 1) :: finishes.map fun f => (f.1, f.2.toJson f.1)))

/-- The accumulator of an aggregation. -/
def accumulatorOf (column : Column) : Aggregation → Accumulator
  | .sum => .sum column.name
  | .min => .min column.name
  | .max => .max column.name
  | .count => .count column.name
  | .distinctCount => .distinct column.name

/-- The group keys of a plan, each under the alias of its place. -/
def groupKeys (plan : Plan) : List (String × GroupKey) :=
  plan.placed.filterMap fun
    | (.column column none, place) => some (placeName place, .field column.name)
    | (.column column (some level), place) => some (placeName place, .period column.name level)
    | _ => none

/-- The accumulators of a plan, each under the alias of its place. -/
def accumulators (plan : Plan) : List (String × Accumulator) :=
  plan.placed.filterMap fun
    | (.aggregate column aggregation, place) =>
      some (placeName place, accumulatorOf column aggregation)
    | (.rowCount, place) => some (placeName place, .documents)
    | _ => none

/-- Whether the values are collected as a set. -/
def Accumulator.isDistinct : Accumulator → Bool
  | .distinct _ => true
  | _ => false

/-- What the last stage makes of an accumulator. -/
def finishOf (a : String × Accumulator) : String × Finish :=
  (a.1, if a.2.isDistinct then .size else .keep)

/-- The stages of a plan that pushes grouping down. A stage that would do nothing is left out. -/
def stages (plan : Plan) : List Stage :=
  let selector := Selector.ofConjunction plan.predicates
  (if selector.isEverything then [] else [.matching selector])
    ++ [.group (groupKeys plan) (accumulators plan)]
    ++ (if (accumulators plan).any fun a => a.2.isDistinct then
          [.project ((accumulators plan).map finishOf)]
        else [])

/-- The fields of the plain columns, and not the document's own id unless it is one of them. -/
def fieldSelection (plan : Plan) : Json :=
  let names := plan.projections.filterMap fun
    | .column column _ => some column.name
    | _ => none
  .ofMembers (("_id", .int 0) :: names.map fun name => (name, .int 1))

/-- The compiled query of a plan. -/
def compile (plan : Plan) : CompiledQuery :=
  let compiled (native : NativeQuery) (strategy : PageStrategy) (keys : OutputKeys) :
      CompiledQuery :=
    { backend := .mongodb
      native
      groupCount := plan.groupCount
      shape := plan.shape
      strategy
      outputs := plan.outputs keys }
  let pipeline := (stages plan).map Stage.toJson
  match plan.shape with
  | .rows =>
    compiled
      (.find plan.datasetName (Selector.ofConjunction plan.predicates).toJson
        (fieldSelection plan) none)
      .cursor .nativeNames
  | .grouped => compiled (.aggregate plan.datasetName pipeline none) .cursor .places
  | .aggregate => compiled (.aggregate plan.datasetName pipeline none) .singleShot .places

end Document

end Pushdown
