import Pushdown.Query.Native
import Pushdown.Row.Basic
import Pushdown.Search.Clause

/-!
# Search bodies

A plan becomes the body of a search. Rows are read from the documents found, instants from their
stored form; groups are the buckets of one composite aggregation, whose sources are the group
keys under their aliases; a single row is made of metrics and the number of documents found.
`Search.pageOf` is the body for one page: how many rows or buckets, and after which bucket.
-/

namespace Pushdown

namespace Search

/-- The name of the composite aggregation that holds the groups. -/
def groupsName : String := "groups"

/-- The type names of search fields. -/
def types : TypeTable := .names
  [ ("text", .hierarchy), ("keyword", .hierarchy), ("constant_keyword", .hierarchy),
    ("wildcard", .hierarchy), ("boolean", .hierarchy), ("ip", .hierarchy),
    ("object", .hierarchy), ("nested", .hierarchy), ("binary", .hierarchy), ("byte", .numeric),
    ("short", .numeric), ("integer", .numeric), ("long", .numeric), ("unsigned_long", .numeric),
    ("double", .numeric), ("float", .numeric), ("half_float", .numeric),
    ("scaled_float", .numeric), ("date", .datetime), ("date_nanos", .datetime) ]

/-- The source of a group key. Groups without a value are kept. -/
def groupSource (column : Column) (level : Option DateLevel) : Json :=
  match level with
  | some level =>
    let interval : String × String := match level with
      | .millisecond => ("fixed_interval", "1ms")
      | .second => ("fixed_interval", "1s")
      | level => ("calendar_interval", level.name)
    .single "date_histogram" (.ofMembers
      [ ("field", .text column.name), (interval.1, .text interval.2),
        ("missing_bucket", .bool true) ])
  | none =>
    .single "terms" (.ofMembers
      [("field", .text (Clause.exactField column)), ("missing_bucket", .bool true)])

/-- The metric of an aggregation. -/
def metric (column : Column) (aggregation : Aggregation) : Json :=
  let metricOf (kind field : String) : Json := .single kind (.single "field" (.text field))
  match aggregation with
  | .sum => metricOf "sum" column.name
  | .min => metricOf "min" column.name
  | .max => metricOf "max" column.name
  | .count => metricOf "value_count" (Clause.exactField column)
  | .distinctCount => metricOf "cardinality" (Clause.exactField column)

/-- The sources of the group keys, each under the alias of its place. -/
def groupSources (plan : Plan) : List Json :=
  plan.placed.filterMap fun
    | (.column column level, place) => some (.single (placeName place) (groupSource column level))
    | _ => none

/-- The metrics, each under the alias of its place. -/
def metrics (plan : Plan) : Members :=
  plan.placed.filterMap fun
    | (.aggregate column aggregation, place) => some (placeName place, metric column aggregation)
    | _ => none

/-- The plain columns of a plan. -/
def plainColumns (plan : Plan) : List Column :=
  plan.projections.filterMap fun
    | .column column _ => some column
    | _ => none

/-- The metrics as a member of the body, left out when there are none. -/
def metricsMember (plan : Plan) : Members :=
  if (metrics plan).isEmpty then [] else [("aggs", .ofMembers (metrics plan))]

/-- The body of a search for rows. -/
def rowsBody (plan : Plan) (query : Json) : Json :=
  let columns := plainColumns plan
  .ofMembers
    [ ("query", query),
      ("_source", .texts ((columns.filter fun c => c.type ≠ .datetime).map (·.name))),
      ("docvalue_fields", .list ((columns.filter fun c => c.type = .datetime).map fun c =>
        .ofMembers [("field", .text c.name), ("format", .text "epoch_millis")])),
      ("sort", .texts ["_doc"]) ]

/-- The body of a search for groups. -/
def groupsBody (plan : Plan) (query : Json) : Json :=
  .ofMembers
    [ ("size", .int 0),
      ("query", query),
      ("aggs", .single groupsName (.ofMembers
        (("composite", .single "sources" (.list (groupSources plan))) :: metricsMember plan))) ]

/-- The body of a search for one row over everything. -/
def totalsBody (plan : Plan) (query : Json) : Json :=
  .ofMembers
    ([("size", .int 0), ("track_total_hits", .bool true), ("query", query)]
      ++ metricsMember plan)

/-- The compiled query of a plan. -/
def compile (plan : Plan) : CompiledQuery :=
  let query := (Clause.ofConjunction plan.predicates).toJson
  let compiled (body : Json) (mode : SearchMode) (strategy : PageStrategy)
      (keys : OutputKeys) : CompiledQuery :=
    { backend := .elasticsearch
      native := .search plan.datasetName body mode
      groupCount := plan.groupCount
      shape := plan.shape
      strategy
      outputs := plan.outputs keys }
  match plan.shape with
  | .rows => compiled (rowsBody plan query) (.hits true) .cursor .nativeNames
  | .grouped => compiled (groupsBody plan query) .composite .afterKey .places
  | .aggregate => compiled (totalsBody plan query) .totals .singleShot .places

/-- The path of a member of the composite aggregation. -/
def compositePath (name : String) : List String :=
  ["aggs", groupsName, "composite", name]

/-- The body for the page after a continuation. -/
def pageOf (mode : SearchMode) (continuation : Option Continuation) (batchSize : Nat)
    (body : Json) : Json :=
  match mode with
  | .hits _ => body.set ["size"] (.int batchSize)
  | .composite =>
    let body := body.set (compositePath "size") (.int batchSize)
    match continuation with
    | some (.afterKey key) => body.set (compositePath "after") key
    | _ => body
  | .totals => body

end Search

end Pushdown
