import Pushdown.Failure
import Pushdown.Request.Record

/-!
# Reading and writing requests

Requests arrive as JSON. `Request.ofSource?` reads one from the grammar tree of its text, with
the spellings callers use for the fields, and `Request.toJson` writes one under the first
spelling of each field, leaving out what was not asked for. `ReportedColumn.listOfBytes?` reads
the list of columns that an operator hands over in place of a live backend.
-/

namespace Pushdown

open Json (Source)
open Record (Field)

namespace RequestedColumn

/-- The fields of a requested column. -/
def fields : List Field := [⟨["column_id", "columnId"]⟩, ⟨["aggregation"]⟩, ⟨["level"]⟩]

/-- Reads a requested column. -/
def ofSource? (source : Source) : Option RequestedColumn := do
  match ← Record.slots? fields source with
  | [columnId, aggregation, level] =>
    return {
      columnId := ← Record.required Record.text columnId
      aggregation := ←
        Record.defaulted none (Record.optional (Record.word Aggregation.ofSpelling?)) aggregation
      level := ← Record.defaulted none (Record.optional (Record.word DateLevel.ofName?)) level }
  | _ => none

/-- Writes a requested column. -/
def toJson (c : RequestedColumn) : Json :=
  .object ([("column_id", .text c.columnId)]
    ++ (c.aggregation.map fun a => ("aggregation", Json.text a.name)).toList
    ++ (c.level.map fun l => ("level", Json.text l.name)).toList)

end RequestedColumn

namespace Filter

/-- The fields of a filter. -/
def fields : List Field := [⟨["column_id", "columnId"]⟩, ⟨["expression"]⟩, ⟨["value"]⟩]

/-- Reads a filter. -/
def ofSource? (source : Source) : Option Filter := do
  match ← Record.slots? fields source with
  | [columnId, test, values] =>
    return {
      columnId := ← Record.required Record.text columnId
      test := ← Record.required (Record.word FilterTest.ofSpelling?) test
      values := ← Record.defaulted [] (Record.list Source.value?) values }
  | _ => none

/-- Writes a filter. -/
def toJson (f : Filter) : Json :=
  .object
    [ ("column_id", .text f.columnId),
      ("expression", .text f.test.spelling),
      ("value", .list f.values) ]

end Filter

namespace Request

/-- The fields of a request. -/
def fields : List Field :=
  [⟨["id", "dataset_id", "datasetId"]⟩, ⟨["columns"]⟩, ⟨["filters"]⟩, ⟨["pushdown"]⟩]

/-- Reads a request. -/
def ofSource? (source : Source) : Option Request := do
  match ← Record.slots? fields source with
  | [datasetId, columns, filters, pushdown] =>
    return {
      datasetId := ← Record.required Record.text datasetId
      columns := ← Record.defaulted [] (Record.list RequestedColumn.ofSource?) columns
      filters := ← Record.defaulted [] (Record.list Filter.ofSource?) filters
      pushdown := ← Record.defaulted false Record.bool pushdown }
  | _ => none

/-- Reads the text of a request. -/
def ofBytes (bytes : List UInt8) : Except Failure Request :=
  match (Source.ofBytes? bytes).bind ofSource? with
  | some request => .ok request
  | none => .error .malformedRequest

/-- Writes a request. -/
def toJson (r : Request) : Json :=
  .object
    [ ("id", .text r.datasetId),
      ("columns", .list (r.columns.map RequestedColumn.toJson)),
      ("filters", .list (r.filters.map Filter.toJson)),
      ("pushdown", .bool r.pushdown) ]

end Request

namespace ReportedColumn

/-- The fields of a reported column. -/
def fields : List Field :=
  [⟨["dataset"]⟩, ⟨["column"]⟩, ⟨["native_type"]⟩, ⟨["has_keyword"]⟩]

/-- Reads a reported column. -/
def ofSource? (source : Source) : Option ReportedColumn := do
  match ← Record.slots? fields source with
  | [dataset, column, nativeType, hasKeyword] =>
    return {
      dataset := ← Record.required Record.text dataset
      column := ← Record.required Record.text column
      nativeType := ← Record.required Record.text nativeType
      hasKeyword := ← Record.defaulted false Record.bool hasKeyword }
  | _ => none

/-- Reads the text of a list of reported columns. -/
def listOfBytes? (bytes : List UInt8) : Option (List ReportedColumn) :=
  (Source.ofBytes? bytes).bind (Record.list ofSource?)

end ReportedColumn

end Pushdown
