import Pushdown.Column.Basic
import Pushdown.Json.Basic

/-!
# Columns of search indices

The mapping of an index is a tree of fields; its leaves are the columns of a dataset, named by
the path to them. Some indices are not exposed, and geographic fields are no columns. An alias of
an index is a dataset of its own with the index's columns.
-/

namespace Pushdown

namespace Search

/-- Whether an index is a dataset. -/
def isExposed (index : String) : Bool :=
  !("apm-".toList.isPrefixOf index.toList || index = "index" || ['.'].isPrefixOf index.toList)

/-- Field types that are no columns. -/
def excludedTypes : List String := ["geo_point", "geo_shape"]

/-- The column of a leaf field, if it is one. -/
def leafColumn? (index path : String) (field : Json) : Option ReportedColumn :=
  let nativeType := ((field.get? "type").bind Json.text?).getD "object"
  if excludedTypes.contains nativeType then none
  else some {
    dataset := index
    column := path
    nativeType
    hasKeyword := nativeType ≠ "keyword"
      && (field.at? ["fields", "keyword", "type"]).bind Json.text? = some "keyword" }

/-- The path of a field below another. -/
def below (path name : String) : String :=
  if path.isEmpty then name else path ++ "." ++ name

mutual

/-- The columns of fields, by name. -/
def fieldsColumns (index path : String) : Members → List ReportedColumn
  | [] => []
  | (name, .object members) :: rest =>
    fieldColumns index (below path name) (.object members) members ++ fieldsColumns index path rest
  | (name, field) :: rest =>
    (leafColumn? index (below path name) field).toList ++ fieldsColumns index path rest

/-- The columns of a field, given its members from some place on: those of the fields below it,
or its own when it has none below. -/
def fieldColumns (index path : String) (field : Json) : Members → List ReportedColumn
  | [] => (leafColumn? index path field).toList
  | (name, .object nested) :: rest =>
    if name = "properties" then fieldsColumns index path nested
    else fieldColumns index path field rest
  | (name, _) :: rest =>
    if name = "properties" then (leafColumn? index path field).toList
    else fieldColumns index path field rest

end

/-- The fields of a mapping; older clusters keep them under the first document type that has
any. -/
def properties? (mapping : Json) : Option Json :=
  (mapping.get? "properties").or <|
    mapping.members?.bind fun types => types.findSome? fun type => type.2.get? "properties"

/-- The columns of an index. -/
def indexColumns (index : String) (mapping : Json) : List ReportedColumn :=
  fieldsColumns index "" (((properties? mapping).bind Json.members?).getD [])

/-- The aliases of an index. -/
def aliasNames (aliases : Option Json) (index : String) : List String :=
  (((aliases.bind (Json.at? [index, "aliases"])).bind Json.members?).getD []).map (·.1)

/-- The columns of the exposed indices of a mappings document and of their aliases, index by
index, each alias before its index. -/
def columnsOfMappings (mappings : Json) (aliases : Option Json) : List ReportedColumn :=
  (mappings.members?.getD []).flatMap fun entry =>
    if !isExposed entry.1 then []
    else
      match entry.2.get? "mappings" with
      | none => []
      | some mapping =>
        let columns := indexColumns entry.1 mapping
        (aliasNames aliases entry.1).flatMap (fun name =>
          columns.map fun c => { c with dataset := name }) ++ columns

end Search

end Pushdown
