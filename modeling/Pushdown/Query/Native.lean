import Pushdown.Backend.Kind
import Pushdown.Json.Printer
import Pushdown.Query.Plan

/-!
# Native queries

What a backend is asked, in its own terms: a statement, a search, or a query over documents. A
`CompiledQuery` is a native query with what is needed to walk its result: the shape of the rows,
the way pages follow each other and where each value is found.
-/

namespace Pushdown

/-- How a search is run and its response read. -/
inductive SearchMode where
  /-- The documents found, with a scroll kept open on the server or not. -/
  | hits (scroll : Bool)
  | composite
  | totals
  deriving DecidableEq, Repr, Inhabited

/-- A query in the terms of a backend. -/
inductive NativeQuery where
  /-- A statement; its page order is given by ordinals of the select list, counted from one. -/
  | statement (text : String) (orderBy : List Nat)
  | search (index : String) (body : Json) (mode : SearchMode)
  | find (collection : String) (filter projection : Json) (batchSize : Option Nat)
  | aggregate (collection : String) (pipeline : List Json) (batchSize : Option Nat)
  deriving DecidableEq, Repr, Inhabited

/-- The query as an operator would type it. -/
def NativeQuery.render : NativeQuery → String
  | .statement text _ => text
  | .search index body _ => "POST /" ++ index ++ "/_search " ++ body.compact
  | .find collection filter projection _ =>
    collection ++ ".find(" ++ filter.compact ++ ", " ++ projection.compact ++ ")"
  | .aggregate collection pipeline _ =>
    collection ++ ".aggregate(" ++ (Json.list pipeline).compact ++ ")"

/-- A query ready to be run. -/
structure CompiledQuery where
  backend : BackendKind
  native : NativeQuery
  groupCount : Nat
  shape : Shape
  strategy : PageStrategy
  outputs : List OutputColumn
  deriving DecidableEq, Repr, Inhabited

end Pushdown
