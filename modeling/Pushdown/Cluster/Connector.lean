import Pushdown.Cluster.Config
import Pushdown.Cluster.Status
import Pushdown.Connection.Basic
import Pushdown.Http.Exchange
import Pushdown.Search.Mapping
import Pushdown.Search.Response

/-!
# Connections to a search cluster

A cluster is reached by requests over the web. A connection to one reads the schema from the
mappings, together with the aliases if they may be read; it runs searches, goes on with a scroll
by its cursor and with a composite aggregation by the query itself, and frees a scroll that is not
read to its end. A rejection is sorted by its status, and what does not come to an answer by how
it failed.
-/

namespace Pushdown

namespace Cluster

open Http (Transport Method Exchange)

variable {m : Type → Type} [Monad m]

/-- The answer in what came of a request. -/
def answerOf : Exchange → Except Failure Json
  | .answered response =>
    if response.isSuccess then
      match Json.ofBytes? response.body with
      | some body => .ok body
      | none => .error .malformedResponse
    else .error (rejection response.status response.body)
  | .tooSlow => .error .searchTimeout
  | .unreachable => .error .searchUnreachable
  | .broken => .error .searchInterrupted

/-- The authorization a configuration asks for. -/
def Config.authorization? (c : Config) : Option String :=
  c.username.map fun username => Http.basicAuthorization username (c.password.getD "")

/-- Sends a request to a path of the cluster, with the credentials in the address if it has some.
One to an address that cannot be read fails before it is sent. -/
def request (transport : Transport m) (c : Config) (method : Method) (path : String)
    (body : Option Json) (budget : Nat) : m (Except Failure Json) :=
  match Http.Address.ofUrl? (c.url ++ path) with
  | some address =>
    let ofAddress := address.credentials.map fun (user, password) =>
      Http.basicAuthorization user password
    answerOf <$> transport ⟨method, address, ofAddress.or c.authorization?, body⟩ budget
  | none => return .error .searchInterrupted

/-- The columns of the indices of the cluster. -/
def fetchSchema (transport : Transport m) (c : Config) (budget : Nat) :
    m (Except Failure (List ReportedColumn)) := do
  match ← request transport c .get "/_mapping" none budget with
  | .error cause => return .error cause
  | .ok mappings =>
    let aliases ← request transport c .get "/_alias" none budget
    return .ok (Search.columnsOfMappings mappings aliases.toOption)

/-- Runs a search for its first page. -/
def execute (transport : Transport m) (c : Config) (query : NativeQuery) (budget : Nat) :
    m (Except Failure Page) := do
  match query with
  | .search index body mode =>
    let response ←
      request transport c .post (searchPath index mode c.keepAlive) (some body) budget
    return response.bind (Search.pageOfResponse mode)
  | _ => return .error .notASearch

/-- Goes on with a scroll. -/
def scroll (transport : Transport m) (c : Config) (cursor : String) (mode : SearchMode)
    (budget : Nat) : m (Except Failure Page) := do
  let body := Json.ofMembers [("scroll", .text c.keepAlive), ("scroll_id", .text cursor)]
  let response ← request transport c .post "/_search/scroll" (some body) budget
  return response.bind (Search.pageOfResponse mode)

/-- Asks for the page after a continuation, which all but a cursor is part of the query. -/
def nextPage (transport : Transport m) (c : Config) (query : NativeQuery)
    (continuation : Continuation) (budget : Nat) : m (Except Failure Page) :=
  match query, continuation with
  | .search _ _ mode, .cursor cursor => scroll transport c cursor mode budget
  | _, _ => execute transport c query budget

/-- How long freeing a scroll may take. -/
def releaseBudget : Nat := 10000

/-- Frees a scroll. -/
def release (transport : Transport m) (c : Config) (continuation : Continuation) :
    m (Except Failure Unit) :=
  match continuation with
  | .cursor cursor => do
    let body := Json.single "scroll_id" (.text cursor)
    let response ← request transport c .delete "/_search/scroll" (some body) releaseBudget
    return response.map fun _ => ()
  | _ => return .ok ()

/-- A connection to the cluster. -/
def connection (transport : Transport m) (c : Config) : Connection m where
  kind := .elasticsearch
  identity := c.identity
  connect budget := do
    let response ← request transport c .get "/" none budget
    return .answered (response.map fun _ => ())
  fetchSchema budget := .answered <$> fetchSchema transport c budget
  execute query budget := .answered <$> execute transport c query budget
  nextPage query continuation budget :=
    .answered <$> nextPage transport c query continuation budget
  release := release transport c
  close := return .ok ()

end Cluster

end Pushdown
