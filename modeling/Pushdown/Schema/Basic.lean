import Pushdown.Column.TypeTable
import Pushdown.Failure
import Pushdown.Json.Basic
import Pushdown.Table
import Pushdown.Text.Lower

/-!
# Schemas

A schema is the datasets of one connection, each with its columns in the order in which the
backend reported them. Names are found whatever their case: datasets and columns are kept under
their lower-cased names, and of several columns of a dataset with the same one the first stays.
A dataset keeps an index of the positions of its columns beside them and looks columns up there.
`Schema.ofReported` builds a schema from a backend's report, `Schema.resolve` and
`Dataset.resolve` look names up, and `Schema.descriptors` is the listing shown to callers.
-/

namespace Pushdown

/-- A dataset and its columns. Its id is its name in lower case. -/
structure Dataset where
  id : String
  name : String
  columns : List Column
  /-- The position of each column, under the id of the column. -/
  index : Table Nat
  deriving DecidableEq, Repr, Inhabited

namespace Dataset

/-- A dataset without columns. -/
def named (name : String) : Dataset := ⟨Text.lower name, name, [], []⟩

/-- The dataset with one more column, unless it has one of that id. -/
def push (d : Dataset) (c : Column) : Dataset :=
  match d.index.get? c.id with
  | some _ => d
  | none =>
    { d with
      columns := d.columns ++ [c]
      index := d.index.insert c.id d.columns.length }

/-- The column of a name, in any case. -/
def column? (d : Dataset) (name : String) : Option Column :=
  (d.index.get? (Text.lower name)).bind fun i => d.columns[i]?

/-- The column of a name, in any case; the name must be known. -/
def resolve (d : Dataset) (name : String) : Except Failure Column :=
  match d.column? name with
  | some c => .ok c
  | none => .error (.unknownColumn name d.id)

end Dataset

/-- The datasets of a connection, in ascending order of their ids. -/
structure Schema where
  datasets : List Dataset
  deriving DecidableEq, Repr, Inhabited

/-- A column as callers see it. -/
structure ColumnDescriptor where
  id : String
  name : String
  type : ColumnType
  deriving DecidableEq, Repr, Inhabited

/-- A dataset as callers see it. -/
structure DatasetDescriptor where
  id : String
  name : String
  columns : List ColumnDescriptor
  deriving DecidableEq, Repr, Inhabited

namespace Schema

/-- A schema without datasets. -/
def empty : Schema := ⟨[]⟩

/-- The datasets with one changed: the dataset of that id, or a new one put in its place in the
order. -/
def alter (id : String) (new : Dataset) (change : Dataset → Dataset) :
    List Dataset → List Dataset
  | [] => [change new]
  | d :: rest =>
    if id < d.id then change new :: d :: rest
    else if id = d.id then change d :: rest
    else d :: alter id new change rest

/-- The schema with a dataset added, in place of one of the same id. -/
def insert (s : Schema) (d : Dataset) : Schema :=
  ⟨alter d.id d (fun _ => d) s.datasets⟩

/-- The column a report stands for. -/
def columnOf (types : TypeTable) (r : ReportedColumn) : Column :=
  { id := Text.lower r.column
    name := r.column
    type := types.classify r.nativeType
    nativeType := r.nativeType
    datasetId := Text.lower r.dataset
    hasKeyword := r.hasKeyword }

/-- The schema with one more reported column. The first report of a dataset names it. -/
def report (types : TypeTable) (s : Schema) (r : ReportedColumn) : Schema :=
  ⟨alter (Text.lower r.dataset) (.named r.dataset) (·.push (columnOf types r)) s.datasets⟩

/-- The schema a backend's report describes. -/
def ofReported (types : TypeTable) (columns : List ReportedColumn) : Schema :=
  columns.foldl (report types) empty

/-- The dataset of a name, in any case. -/
def dataset? (s : Schema) (name : String) : Option Dataset :=
  s.datasets.find? fun d => d.id = Text.lower name

/-- The dataset of a name, in any case; the name must be known. -/
def resolve (s : Schema) (name : String) : Except Failure Dataset :=
  match s.dataset? name with
  | some d => .ok d
  | none => .error (.unknownDataset name)

/-- The number of datasets. -/
def size (s : Schema) : Nat := s.datasets.length

/-- The listing of the datasets, in ascending order of their ids. -/
def descriptors (s : Schema) : List DatasetDescriptor :=
  s.datasets.map fun d =>
    { id := d.id
      name := d.name
      columns := d.columns.map fun c => ⟨c.id, c.name, c.type⟩ }

end Schema

namespace DatasetDescriptor

/-- The listing as JSON, the members in the order in which they are shown. -/
def toJson (d : DatasetDescriptor) : Json :=
  .object
    [ ("id", .text d.id),
      ("name", .text d.name),
      ("columns", .list (d.columns.map fun c =>
        .object [("id", .text c.id), ("name", .text c.name), ("type", .text c.type.name)])) ]

end DatasetDescriptor

end Pushdown
