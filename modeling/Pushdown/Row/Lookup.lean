import Pushdown.Column.Basic
import Pushdown.Json.Basic
import Pushdown.Text.Split

/-!
# Fields of documents by path

A column of a document is named by its field, or by the dots-and-names path to a field of nested
documents. A field of exactly that name wins. On the way, a list stands for what the rest of the
path finds in its items; in the end a list of one value is that value, and a list of several only
makes sense as a label.
-/

namespace Pushdown

namespace Document

mutual

/-- What a path finds in a value. -/
def walk : Json → List String → Json
  | j, [] => j
  | .object members, step :: rest => walkMembers members step rest
  | .list items, step :: rest =>
    match walkItems items (step :: rest) with
    | [] => .null
    | found => .list found
  | _, _ :: _ => .null

/-- What a path finds in the member its first step names. -/
def walkMembers : Members → String → List String → Json
  | [], _, _ => .null
  | (name, value) :: members, step, rest =>
    if name = step then walk value rest else walkMembers members step rest

/-- What a path finds in items, without those in which it finds nothing. -/
def walkItems : List Json → List String → List Json
  | [], _ => []
  | item :: items, path =>
    match walk item path with
    | .null => walkItems items path
    | found => found :: walkItems items path

end

/-- The single value a list stands for. -/
def unwrapList (type : ColumnType) : Json → Json
  | .list [] => .null
  | .list [item] => item
  | .list items => if type = .hierarchy then .list items else .null
  | j => j

/-- The value of a document for a column. -/
def lookupPath (fields : Members) (path : String) (type : ColumnType) : Json :=
  match Json.lookup path fields with
  | some value => unwrapList type value
  | none =>
    match Text.split '.' path with
    | [] => .null
    | step :: rest => unwrapList type (walkMembers fields step rest)

end Document

end Pushdown
