import Pushdown.Document.Pipeline
import Pushdown.Relational.Statement
import Pushdown.Relational.Types
import Pushdown.Search.Body

/-!
# Backends

What each kind of backend brings to a query: its type table, how filters are settled for it, the
compiled query of a plan, and the native query for each page of its result. A `Registry` is the
kinds that an engine may use.
-/

namespace Pushdown

namespace BackendKind

/-- The dialect of a relational backend. -/
def dialect? : BackendKind → Option Dialect
  | .mysql => some .mySql
  | .postgres => some .postgres
  | .sqlserver => some .sqlServer
  | .elasticsearch | .mongodb => none

/-- The type table of a backend. -/
def types : BackendKind → TypeTable
  | .mysql => Dialect.mySql.types
  | .postgres => Dialect.postgres.types
  | .sqlserver => Dialect.sqlServer.types
  | .elasticsearch => Search.types
  | .mongodb => Document.types

/-- How filters are settled for a backend: the search engine stores numbers with less
precision. -/
def filterOptions : BackendKind → FilterOptions
  | .elasticsearch => ⟨true⟩
  | _ => .exact

/-- The compiled query of a plan. -/
def compile : BackendKind → Plan → CompiledQuery
  | .mysql => Dialect.mySql.compile
  | .postgres => Dialect.postgres.compile
  | .sqlserver => Dialect.sqlServer.compile
  | .elasticsearch => Search.compile
  | .mongodb => Document.compile

/-- The statement for the page after a continuation. -/
def statementPage (d : Dialect) (strategy : PageStrategy) (continuation : Option Continuation)
    (batchSize : Nat) (text : String) (orderBy : List Nat) : NativeQuery :=
  match strategy with
  | .offset =>
    let offset := match continuation with
      | some (.offset rows) => rows
      | _ => 0
    .statement (d.paginate text orderBy batchSize offset) orderBy
  | _ => .statement text orderBy

/-- The native query for the page after a continuation, the first page without one. A query that
is not in the backend's terms is left alone. -/
def pageQuery (kind : BackendKind) (compiled : CompiledQuery)
    (continuation : Option Continuation) (batchSize : Nat) : NativeQuery :=
  match kind, compiled.native with
  | .mysql, .statement text orderBy =>
    statementPage .mySql compiled.strategy continuation batchSize text orderBy
  | .postgres, .statement text orderBy =>
    statementPage .postgres compiled.strategy continuation batchSize text orderBy
  | .sqlserver, .statement text orderBy =>
    statementPage .sqlServer compiled.strategy continuation batchSize text orderBy
  | .elasticsearch, .search index body mode =>
    .search index (Search.pageOf mode continuation batchSize body) mode
  | .mongodb, .find collection filter projection _ =>
    .find collection filter projection (some batchSize)
  | .mongodb, .aggregate collection pipeline _ => .aggregate collection pipeline (some batchSize)
  | _, native => native

/-- The kind a name spells, in any case and with blanks around it. -/
def parse (name : String) : Except Failure BackendKind :=
  let folded := Text.lower (Text.trim name)
  match ofSpelling? folded with
  | some kind => .ok kind
  | none => .error (.unknownBackend folded)

end BackendKind

/-- The level a name spells, in any case and with blanks around it. -/
def DateLevel.parse (name : String) : Except Failure DateLevel :=
  match ofName? (Text.lower (Text.trim name)) with
  | some level => .ok level
  | none => .error (.unknownLevel name)

/-- The kinds of backend an engine may use. -/
structure Registry where
  kinds : List BackendKind
  deriving DecidableEq, Repr, Inhabited

namespace Registry

/-- Every kind. -/
def builtin : Registry := ⟨BackendKind.all⟩

/-- Whether a kind may be used; it must be. -/
def require (r : Registry) (kind : BackendKind) : Except Failure Unit :=
  if r.kinds.contains kind then .ok () else .error (.noBackend kind)

/-- The kinds in their order, as reports for operators show them. -/
def describe (r : Registry) : String :=
  "BackendRegistry " ++ Json.openBrace ++ " kinds: ["
    ++ ", ".intercalate ((BackendKind.all.filter r.kinds.contains).map BackendKind.label) ++ "] "
    ++ Json.closeBrace

end Registry

/-- A type table as reports for operators show it. -/
def BackendKind.describeTypes (kind : BackendKind) : String :=
  "TypeMapper " ++ Json.openBrace ++ " backend: " ++ Json.quote kind.name ++ ", entries: "
    ++ toString kind.types.size ++ " " ++ Json.closeBrace

end Pushdown
