/-!
# Columns and their types

A backend reports columns under its own type names; requests only distinguish numbers, instants
and labels. `ColumnType` is that distinction, `ReportedColumn` a column as a backend reports it,
and `Column` the same column once its type is known and its name is folded to an id.
-/

namespace Pushdown

/-- What the values of a column are, whatever backend holds them. -/
inductive ColumnType where
  | numeric
  | datetime
  | hierarchy
  deriving DecidableEq, Repr, Inhabited

/-- The name of a column type. -/
def ColumnType.name : ColumnType → String
  | .numeric => "numeric"
  | .datetime => "datetime"
  | .hierarchy => "hierarchy"

/-- A column as a backend reports it. `dataset` is the native name of the table, index or
collection; `hasKeyword` says that a text field has a sub-field for exact matches. -/
structure ReportedColumn where
  dataset : String
  column : String
  nativeType : String
  hasKeyword : Bool
  deriving DecidableEq, Repr, Inhabited

/-- A column of a dataset. Its id is its name in lower case. -/
structure Column where
  id : String
  name : String
  type : ColumnType
  nativeType : String
  datasetId : String
  hasKeyword : Bool
  deriving DecidableEq, Repr, Inhabited

end Pushdown
