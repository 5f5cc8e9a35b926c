import Pushdown.Backend.Compiler
import Pushdown.Config
import Pushdown.Connection.Basic
import Pushdown.Schema.Cache

/-!
# Engine

An engine answers requests over a connection: it looks the schema up, plans and compiles the
request, and runs the query for its first page. A `Session` is a computation of the engine: it
works on the schema cache, which it leaves behind also when it fails, and has the effects of the
connection.

`withCurrentSchema` is the rule about stale schemas. When an attempt fails because the backend
reports a stale schema, or because a name is missing from a snapshot that is old enough, the
schema is fetched again and the attempt is made once more; whatever comes of that stands.
-/

namespace Pushdown

/-- The options of an engine and the backends it may use. -/
structure Engine where
  config : Config
  registry : Registry
  deriving Repr, Inhabited

/-- A computation over the schema cache of an engine. What it does to the cache stays done when it
fails. -/
abbrev Session (m : Type → Type) := ExceptT Failure (StateT SchemaCache m)

namespace Engine

open SchemaCache (Aim Errand)

/-- An engine with some backends, whose options must do. -/
def ofRegistry (config : Config) (registry : Registry) : Except Failure Engine := do
  config.validate
  return ⟨config, registry⟩

/-- An engine with every backend. -/
def ofConfig (config : Config) : Except Failure Engine := ofRegistry config .builtin

/-- The empty cache an engine starts with. -/
def newCache (e : Engine) : SchemaCache :=
  .ofCapacity e.config.schemaCacheCapacity e.config.schemaTtl

variable {m : Type → Type} [Monad m]

/-- Does one thing to the cache. -/
def onCache {α : Type} (f : SchemaCache → α × SchemaCache) : Session m α :=
  ExceptT.lift (modifyGet f)

/-- The time. -/
def clock (caller : Caller m) : Session m Nat :=
  ExceptT.lift (StateT.lift caller.now)

/-- An effect of the connection, which may fail. -/
def effect {α : Type} (act : m (Except Failure α)) : Session m α :=
  ExceptT.mk (StateT.lift act)

/-- A computation that is not begun once the caller has cancelled. -/
def guarded {α : Type} (caller : Caller m) (activity : Activity) (session : Session m α) :
    Session m α := do
  if ← ExceptT.lift (StateT.lift caller.cancelled) then throw (.interrupted activity)
  session

/-- Fetches the schema of a connection, on behalf of an activity. -/
def loadSchema (e : Engine) (link : Connection m) (behalf : Activity) :
    m (Except Failure Schema) :=
  match e.registry.require link.kind with
  | .error cause => return .error cause
  | .ok () => do
    let budget := e.config.schemaTimeout
    let reply ← link.fetchSchema budget
    return (reply.result .schemaFetch behalf budget).map (Schema.ofReported link.kind.types)

/-- Runs an errand to the cache: what it wants is there, or is fetched and stored. -/
def snapshotFor (e : Engine) (link : Connection m) (caller : Caller m) (behalf : Activity)
    (aim : Aim) : Session m Snapshot := do
  let errand : Errand := ⟨link.identity, e.config.schemaTtlFor link.kind, aim⟩
  let now ← clock caller
  match ← onCache (·.consult errand now) with
  | some snapshot => return snapshot
  | none =>
    let now ← clock caller
    match ← onCache (·.recheck errand now) with
    | some snapshot => return snapshot
    | none =>
      let fetched ← ExceptT.lift (StateT.lift (e.loadSchema link behalf))
      let now ← clock caller
      MonadExcept.ofExcept (← onCache (·.settle errand fetched now))

/-- The snapshot of a connection, fetched when it is missing or has expired. -/
def schema (e : Engine) (link : Connection m) (caller : Caller m) : Session m Snapshot :=
  e.snapshotFor link caller .schemaFetch .fresh

/-- A snapshot newer than one found wanting. -/
def refresh (e : Engine) (link : Connection m) (caller : Caller m) (stale : Option Snapshot) :
    Session m Snapshot :=
  e.snapshotFor link caller .schemaRefresh (.newerThan stale)

/-- The listing of the datasets of a connection, newly fetched. -/
def datasets (e : Engine) (link : Connection m) (caller : Caller m) :
    Session m (List DatasetDescriptor) := do
  let snapshot ← e.refresh link caller none
  return snapshot.schema.descriptors

/-- Whether a failure is worth fetching the schema again: a stale schema always is, a missing name
only once the snapshot has reached the age given in the options. -/
def refreshWarranted (e : Engine) (link : Connection m) (caller : Caller m) (cause : Failure) :
    Session m Bool := do
  match cause.fault with
  | .staleSchema => return true
  | .notFound =>
    let now ← clock caller
    match ← onCache fun cache => (cache.age link.identity now, cache) with
    | some age => return e.config.schemaRefreshMinAge ≤ age
    | none => return true
  | _ => return false

/-- Makes an attempt with the snapshot at hand and, if its failure warrants it, one more with a
newer one. -/
def withCurrentSchema {α : Type} (e : Engine) (link : Connection m) (caller : Caller m)
    (snapshot : Snapshot) (newer : Session m Snapshot) (attempt : Schema → Session m α) :
    Session m α :=
  tryCatch (attempt snapshot.schema) fun cause => do
    if ← e.refreshWarranted link caller cause then
      let fresh ← newer
      attempt fresh.schema
    else throw cause

/-- The compiled query of a request against a schema. -/
def compileWith (e : Engine) (kind : BackendKind) (request : Request) (schema : Schema) :
    Except Failure CompiledQuery := do
  e.registry.require kind
  let plan ← Plan.build kind.filterOptions schema request
  return kind.compile plan

/-- The compiled query of a request; nothing is run. -/
def compile (e : Engine) (link : Connection m) (caller : Caller m) (request : Request) :
    Session m CompiledQuery := do
  let snapshot ← e.schema link caller
  e.withCurrentSchema link caller snapshot (e.refresh link caller snapshot) fun schema =>
    MonadExcept.ofExcept (e.compileWith link.kind request schema)

end Engine

end Pushdown
