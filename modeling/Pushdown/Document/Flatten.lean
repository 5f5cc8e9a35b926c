import Pushdown.Column.Basic
import Pushdown.Row.Basic
import Pushdown.Query.Plan
import Pushdown.Table

/-!
# Flat documents, sampled schemas and cursor batches

A nested document is flattened into one level of fields: names are joined with dots, a list
stands for its first item, and an object that is a marked value, with a member whose name starts
with a dollar sign, stays whole. The columns of a collection are the fields of the flattened
documents of a sample, and the rows of a batch are flattened in the same way, so that columns and
rows agree.
-/

namespace Pushdown

namespace Document

/-- Whether a name marks the value it stands in. -/
def isMark (name : String) : Bool :=
  ['$'].isPrefixOf name.toList

/-- Whether an object is a marked value. -/
def isMarked (members : Members) : Bool :=
  members.any fun m => isMark m.1

mutual

/-- The fields of a value under a name. -/
def flattenValue (name : String) : Json → Members
  | .list items => flattenFirst name items
  | .object members =>
    if isMarked members then [(name, .object members)] else flattenBelow name members
  | j => [(name, j)]

/-- The fields of the first item of a list. -/
def flattenFirst (name : String) : List Json → Members
  | [] => [(name, .null)]
  | item :: _ => flattenValue name item

/-- The fields of the members of an object, below a name. -/
def flattenBelow (name : String) : Members → Members
  | [] => []
  | (step, value) :: rest =>
    flattenValue (name ++ "." ++ step) value ++ flattenBelow name rest

end

/-- The flat document; of two fields of one name the later one counts. -/
def flatten (fields : Members) : Members :=
  Json.sortMembers (fields.flatMap fun field => flattenValue field.1 field.2)

/-! ## Columns of a sample -/

/-- The type name of the value a mark stands for. -/
def markedType : String → String
  | "$date" => "date"
  | "$timestamp" => "timestamp"
  | "$oid" => "objectId"
  | "$numberInt" => "int"
  | "$numberLong" => "long"
  | "$numberDouble" => "double"
  | "$numberDecimal" => "decimal"
  | "$binary" => "binData"
  | "$regularExpression" => "regex"
  | _ => "object"

/-- The type name of a field of a flat document. -/
def typeName : Json → String
  | .null => "null"
  | .bool _ => "bool"
  | .float _ => "double"
  | .int _ => "long"
  | .text _ => "string"
  | .list _ => "object"
  | .object members =>
    match members.find? fun m => isMark m.1 with
    | some (name, _) => markedType name
    | none => "object"

/-- What a sample has shown so far: the paths in the order in which they were first seen, and the
type of each of them. -/
structure Sighting where
  order : List String
  types : Table String
  deriving Repr, Inhabited

namespace Sighting

/-- Nothing is seen yet. -/
def empty : Sighting := ⟨[], []⟩

/-- The type of a path, `null` if it is not known. -/
def typeOf (seen : Sighting) (path : String) : String :=
  (seen.types.get? path).getD "null"

end Sighting

/-- One more sighting of a path. The first type that is not `null` stays. -/
def sight (path type : String) (seen : Sighting) : Sighting :=
  match seen.types.get? path with
  | none => { order := seen.order ++ [path], types := seen.types.insert path type }
  | some known =>
    if known = "null" ∧ type ≠ "null" then { seen with types := seen.types.insert path type }
    else seen

/-- The sightings with those of one more document. -/
def sightDocument (seen : Sighting) : Json → Sighting
  | .object fields =>
    (flatten fields).foldl (fun seen field => sight field.1 (typeName field.2) seen) seen
  | _ => seen

/-- How many documents of a collection are looked at. -/
def sampleSize : Nat := 200

/-- What the first documents of a collection show. -/
def sightSample (documents : List Json) : Sighting :=
  (documents.take sampleSize).foldl sightDocument .empty

/-- The columns of a collection, as a sample of its documents shows them. -/
def columnsOfSample (collection : String) (documents : List Json) : List ReportedColumn :=
  let seen := sightSample documents
  seen.order.map fun path =>
    { dataset := collection
      column := path
      nativeType := seen.typeOf path
      hasKeyword := false }

/-! ## Batches of a cursor -/

/-- The row of a document of a result. -/
def rowOf (shape : Shape) (fields : Members) : NativeRow :=
  match shape with
  | .rows => .document (flatten fields)
  | .grouped | .aggregate =>
    .bucket (((Json.lookup "_id" fields).bind Json.members?).getD [])
      (Json.eraseMember "_id" fields) none

/-- The page of a batch. A cursor of id zero is exhausted. -/
def pageOfBatch (shape : Shape) (documents : List Json) (cursorId : Int) : Page :=
  { rows := (documents.filterMap Json.members?).map (rowOf shape)
    continuation := if cursorId = 0 then none else some (.cursor (toString cursorId)) }

end Document

end Pushdown
