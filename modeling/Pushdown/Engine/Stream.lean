import Pushdown.Engine.Basic
import Pushdown.Row.Normalize

/-!
# Row streams

A `RowStream` hands out the rows of a query one by one and asks for the next page when it has run
out of rows. Another page follows a full one, if the way in which the pages of the query follow
each other says what to ask for it by: the number of rows so far, or the continuation of the page.

The latest cursor kept open on the server is given back exactly when the stream is over, in
whichever way it ends; that this fails is of no consequence. A stream whose caller has cancelled
hands out nothing more, not even rows it already has.

`Engine.query` opens a stream: everything up to the first page happens before there is one.
-/

namespace Pushdown

/-- The rows of a query, page by page. -/
structure RowStream where
  compiled : CompiledQuery
  /-- Rows or groups asked for per page. -/
  batchSize : Nat
  pageTimeout : Nat
  /-- Rows not handed out yet. -/
  buffer : List NativeRow
  /-- What the next page is asked for by, if there is one. -/
  next : Option Continuation
  /-- The latest cursor kept open on the server. -/
  openCursor : Option Continuation
  /-- The number of rows of all pages so far. -/
  fetched : Nat
  deriving DecidableEq, Repr, Inhabited

/-- What a turn of a stream brings. -/
inductive Turn where
  | row (values : ResultRow) (rest : RowStream)
  /-- Another page has come. -/
  | page (rest : RowStream)
  | ended
  | failed (cause : Failure)
  deriving Repr, Inhabited

namespace RowStream

/-- A stream before its first page. -/
def ofCompiled (config : Config) (compiled : CompiledQuery) : RowStream :=
  { compiled
    batchSize := config.batchSize
    pageTimeout := config.pageTimeout
    buffer := []
    next := none
    openCursor := none
    fetched := 0 }

/-- What the page after a given one is asked for by. -/
def continuationAfter (strategy : PageStrategy) (full : Bool) (fetched : Nat) (page : Page) :
    Option Continuation :=
  match strategy with
  | .singleShot => none
  | .offset => if full then some (.offset fetched) else none
  | .cursor | .afterKey => if full then page.continuation else none

/-- The rows of a page. A query over everything has a row even if nothing was found. -/
def rowsOf (s : RowStream) (page : Page) : List NativeRow :=
  if s.fetched = 0 ∧ page.rows = [] ∧ s.compiled.shape = .aggregate then
    [emptyAggregate s.compiled.outputs]
  else page.rows

/-- The stream with a page that has come. -/
def absorb (s : RowStream) (page : Page) : RowStream :=
  let fetched := s.fetched + page.rows.length
  { s with
    buffer := s.buffer ++ s.rowsOf page
    next := continuationAfter s.compiled.strategy (s.batchSize ≤ page.rows.length) fetched page
    openCursor := page.continuation.filter Continuation.isCursor
    fetched }

/-- The query for the page after a continuation. -/
def pageQuery (s : RowStream) (continuation : Continuation) : NativeQuery :=
  s.compiled.backend.pageQuery s.compiled (some continuation) s.batchSize

variable {m : Type → Type} [Monad m]

/-- Gives the open cursor back, if there is one. -/
def release (s : RowStream) (link : Connection m) : m Unit :=
  match s.openCursor with
  | some cursor => discard (link.release cursor)
  | none => pure ()

/-- Asks for a page; this is not begun once the caller has cancelled. -/
def fetch (s : RowStream) (link : Connection m) (caller : Caller m)
    (continuation : Continuation) : m (Except Failure Page) := do
  if ← caller.cancelled then return .error (.interrupted .pageFetch)
  let reply ← link.nextPage (s.pageQuery continuation) continuation s.pageTimeout
  return reply.result .pageFetch .pageFetch s.pageTimeout

/-- One turn: a row, or another page, or the end. -/
def turn (s : RowStream) (link : Connection m) (caller : Caller m) : m Turn := do
  if ← caller.cancelled then
    s.release link
    return .failed .queryCancelled
  match s.buffer, s.next with
  | row :: rest, _ =>
    return .row (normalize s.compiled.outputs row) { s with buffer := rest }
  | [], none =>
    s.release link
    return .ended
  | [], some continuation =>
    match ← s.fetch link caller continuation with
    | .ok page => return .page (s.absorb page)
    | .error cause =>
      s.release link
      return .failed cause

end RowStream

namespace Engine

variable {m : Type → Type} [Monad m]

/-- Runs the query of a request against a schema for its first page. -/
def start (e : Engine) (link : Connection m) (caller : Caller m) (request : Request)
    (schema : Schema) : Session m (CompiledQuery × Page) := do
  let plan ← MonadExcept.ofExcept (Plan.build link.kind.filterOptions schema request)
  let compiled := link.kind.compile plan
  let first := link.kind.pageQuery compiled none e.config.batchSize
  let budget := e.config.queryTimeout
  let page ← guarded caller .query do
    effect do
      let reply ← link.execute first budget
      return reply.result .query .query budget
  return (compiled, page)

/-- Opens the stream of the rows of a request. -/
def query (e : Engine) (link : Connection m) (caller : Caller m) (request : Request) :
    Session m RowStream := do
  MonadExcept.ofExcept (e.registry.require link.kind)
  let snapshot ← guarded caller .schemaFetch (e.schema link caller)
  let (compiled, first) ←
    e.withCurrentSchema link caller snapshot
      (guarded caller .schemaRefresh (e.refresh link caller snapshot))
      (e.start link caller request)
  return (RowStream.ofCompiled e.config compiled).absorb first

end Engine

end Pushdown
