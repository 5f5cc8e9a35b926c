import Pushdown.Document.Flatten
import Pushdown.Engine.Stream
import Pushdown.Rehearsal.Together
import Pushdown.Search.Response

/-!
# Rehearsing an engine

An `EngineRehearsal` stands in for a backend and for the caller. Its script holds the answers to
the calls the engine makes, each after a delay on a clock of the rehearsal's own; a call whose
answer comes after its budget is too slow, and one that the caller cancels before its answer comes
is interrupted. Calls are recorded as they are made.

`perform` has the engine do one thing and says what came of it, what was called, and how the
schema cache then stands.
-/

namespace Pushdown

/-- A call that an engine made. -/
inductive EngineCall where
  | fetchSchema (budget : Nat)
  | execute (query : NativeQuery) (budget : Nat)
  | nextPage (query : NativeQuery) (continuation : Continuation) (budget : Nat)
  | release (continuation : Continuation)
  deriving Repr, Inhabited

/-- The answer to a query for a page. -/
inductive PageAnswer where
  | page (page : Page)
  | failure (cause : Failure)
  /-- A relational backend rejects the statement. -/
  | rejection (code : String)
  /-- The body of a search response. -/
  | response (body : Json)
  /-- A batch of documents from a cursor. -/
  | batch (documents : List Json) (cursorId : Int)
  deriving Repr, Inhabited

/-- The page an answer holds, in reply to a query. -/
def PageAnswer.read (kind : BackendKind) (query : NativeQuery) :
    PageAnswer → Except Failure Page
  | .page p => .ok p
  | .failure cause => .error cause
  | .rejection code =>
    match kind.dialect? with
    | some dialect => .error (dialect.failureOf code)
    | none => .error (.backendError code)
  | .response body =>
    match query with
    | .search _ _ mode => Search.pageOfResponse mode body
    | _ => .error .notASearch
  | .batch documents cursorId =>
    let shape := match query with
      | .find .. => .rows
      | _ => .grouped
    .ok (Document.pageOfBatch shape documents cursorId)

/-- An engine's surroundings in rehearsal. -/
structure EngineRehearsal where
  kind : BackendKind
  /-- What fetching the schema brings; the last entry stays. -/
  schemas : List (Delayed (Except Failure (List ReportedColumn)))
  /-- The answers to queries, one each; after them come empty pages. -/
  pages : List (Delayed PageAnswer)
  releaseFailure : Option Failure
  /-- The time by which snapshots age; it moves on at every look. -/
  age : Nat
  /-- The time by which answers are delayed. -/
  time : Nat
  /-- When the caller cancels. -/
  cancelAt : Option Nat
  cancelled : Bool
  /-- The calls made, the latest first. -/
  calls : List EngineCall
  deriving Repr, Inhabited

namespace EngineRehearsal

/-- Surroundings with a script. -/
def ofScript (kind : BackendKind)
    (schemas : List (Delayed (Except Failure (List ReportedColumn))))
    (pages : List (Delayed PageAnswer)) (releaseFailure : Option Failure) : EngineRehearsal :=
  { kind, schemas, pages, releaseFailure, age := 0, time := 0, cancelAt := none,
    cancelled := false, calls := [] }

/-- Records a call. -/
def record (call : EngineCall) : StateM EngineRehearsal Unit :=
  modify fun r => { r with calls := call :: r.calls }

/-- Waits for an answer, no longer than a budget and not beyond the moment at which the caller
cancels. -/
def wait {α : Type} (answer : Delayed (Except Failure α)) (budget : Nat) :
    StateM EngineRehearsal (Reply α) := do
  let r ← get
  let due := r.time + min answer.delay budget
  match r.cancelAt.filter (· < due) with
  | some moment =>
    set { r with time := max r.time moment, cancelled := true }
    return .interrupted
  | none =>
    set { r with time := due }
    return if budget < answer.delay then .tooSlow else .answered answer.value

/-- The next entry of a list of which the last one stays. -/
def nextOf {α : Type} : List α → Option α × List α
  | [] => (none, [])
  | [a] => (some a, [a])
  | a :: rest => (some a, rest)

/-- Waits for what the script has for a fetch of the schema. -/
def answerSchema (budget : Nat) : StateM EngineRehearsal (Reply (List ReportedColumn)) := do
  let answer ← modifyGet fun r =>
    let (answer, schemas) := nextOf r.schemas
    (answer, { r with schemas })
  wait (answer.getD ⟨0, .ok []⟩) budget

/-- Waits for what the script has for a query. -/
def answerPage (query : NativeQuery) (budget : Nat) : StateM EngineRehearsal (Reply Page) := do
  let answer ← modifyGet fun r => (r.pages.head?, { r with pages := r.pages.tail })
  let answer := answer.getD ⟨0, .page ⟨[], none⟩⟩
  wait ⟨answer.delay, answer.value.read (← get).kind query⟩ budget

/-- The connection of the script. -/
def connection (kind : BackendKind) : Connection (StateM EngineRehearsal) where
  kind
  identity := .ofParts [("backend", kind.name)]
  connect _ := return .answered (.ok ())
  fetchSchema budget := do
    record (.fetchSchema budget)
    answerSchema budget
  execute query budget := do
    record (.execute query budget)
    answerPage query budget
  nextPage query continuation budget := do
    record (.nextPage query continuation budget)
    answerPage query budget
  release continuation := do
    record (.release continuation)
    match (← get).releaseFailure with
    | some cause => return .error cause
    | none => return .ok ()
  close := return .ok ()

/-- The caller of the script. -/
def caller : Caller (StateM EngineRehearsal) where
  now := modifyGet fun r => (r.age + 1, { r with age := r.age + 1 })
  cancelled := do
    let r ← get
    return r.cancelled || r.cancelAt.any (· < r.time)

/-! ## Steps -/

/-- What the caller does once it has some rows. -/
inductive Reaction where
  | drop
  | cancel
  deriving DecidableEq, Repr, Inhabited

/-- When the caller cancels. -/
inductive Patience where
  | endless
  /-- Before the call. -/
  | spent
  /-- Some time after the call began. -/
  | upTo (delay : Nat)
  deriving DecidableEq, Repr, Inhabited

/-- A step of a rehearsal. -/
inductive Step where
  | schema (keep : Bool)
  | refresh (useHeld keep : Bool)
  | datasets
  | compile (request : Except Failure Request)
  | invalidate
  | collect (request : Except Failure Request) (patience : Patience)
  | query (request : Except Failure Request) (patience : Patience)
    (reaction : Option (Nat × Reaction))
  deriving Repr, Inhabited

/-- How the walk along a stream ends. -/
inductive WalkEnd where
  | done
  | dropped
  | failed (cause : Failure)
  deriving Repr, Inhabited

/-- What a step brings. -/
inductive Outcome where
  | descriptors (result : Except Failure (List DatasetDescriptor))
  | compiled (result : Except Failure CompiledQuery)
  | flag (b : Bool)
  | rows (result : Except Failure (List ResultRow))
  | walk (result : Except Failure (List ResultRow × WalkEnd))
  deriving Repr, Inhabited

/-- Pulls the rows of a stream one by one. Once so many rows as a reaction waits for are there, it
happens before another is pulled. The walk is bounded by the pages of the script that are left and
by the rows of the stream that are not handed out yet. -/
def walk (pages rows : Nat) (link : Connection (StateM EngineRehearsal)) (s : RowStream)
    (taken : Nat) (reaction : Option (Nat × Reaction)) :
    StateM EngineRehearsal (List ResultRow × WalkEnd) := do
  let mut reaction := reaction
  if reaction = some (taken, .drop) then
    s.release link
    return ([], .dropped)
  if reaction = some (taken, .cancel) then
    modify fun r => { r with cancelled := true }
    reaction := none
  match ← s.turn link caller with
  | .row values rest =>
    match rows with
    | 0 => return ([values], .done)
    | rows + 1 =>
      let (later, ending) ← walk pages rows link rest (taken + 1) reaction
      return (values :: later, ending)
  | .page rest =>
    match pages with
    | 0 => return ([], .done)
    | pages + 1 => walk pages rest.buffer.length link rest taken reaction
  | .ended => return ([], .done)
  | .failed cause => return ([], .failed cause)
termination_by (pages, rows)

/-- A rehearsal between two steps: the engine and the connection it uses, its cache, the snapshot
kept for later, and the surroundings. -/
structure Performance where
  engine : Engine
  link : Connection (StateM EngineRehearsal)
  cache : SchemaCache
  held : Option Snapshot
  rehearsal : EngineRehearsal

/-- A rehearsal before its first step. -/
def Performance.ofEngine (engine : Engine) (link : Connection (StateM EngineRehearsal))
    (rehearsal : EngineRehearsal) : Performance :=
  ⟨engine, link, engine.newCache, none, rehearsal⟩

/-- Runs a session of the engine. -/
def Performance.session {α : Type} (p : Performance)
    (session : Session (StateM EngineRehearsal) α) : Except Failure α × Performance :=
  let ((result, cache), rehearsal) := session.run.run p.cache |>.run p.rehearsal
  (result, { p with cache, rehearsal })

/-- A performance in which the caller has some patience. -/
def Performance.withPatience (p : Performance) (patience : Patience) : Performance :=
  let r := p.rehearsal
  { p with rehearsal :=
      match patience with
      | .endless => { r with cancelAt := none, cancelled := false }
      | .spent => { r with cancelAt := none, cancelled := true }
      | .upTo delay => { r with cancelAt := some (r.time + delay), cancelled := false } }

/-- Has the engine hand out a snapshot, which may be kept for later. -/
def Performance.snapshot (p : Performance) (keep : Bool)
    (session : Session (StateM EngineRehearsal) Snapshot) : Outcome × Performance :=
  let (result, p) := p.session session
  let held := if keep then result.toOption.or p.held else p.held
  (.descriptors (result.map (·.schema.descriptors)), { p with held })

/-- Opens a stream and walks along it. -/
def Performance.walk (p : Performance) (request : Except Failure Request) (patience : Patience)
    (reaction : Option (Nat × Reaction)) :
    Except Failure (List ResultRow × WalkEnd) × Performance :=
  let p := p.withPatience patience
  let (opened, p) := p.session do
    p.engine.query p.link caller (← MonadExcept.ofExcept request)
  match opened with
  | .error cause => (.error cause, p)
  | .ok s =>
    let (result, rehearsal) :=
      EngineRehearsal.walk (p.rehearsal.pages.length + 1) s.buffer.length p.link s 0 reaction
        |>.run p.rehearsal
    (.ok result, { p with rehearsal })

/-- The rows of a walk that came to its end. -/
def collected : List ResultRow × WalkEnd → Except Failure (List ResultRow)
  | (_, .failed cause) => .error cause
  | (rows, _) => .ok rows

/-- Performs a step. -/
def Performance.perform (p : Performance) (s : Step) : Outcome × Performance :=
  let r := p.rehearsal
  let p := { p with rehearsal := { r with age := r.age + 1, calls := [] } }.withPatience .endless
  match s with
  | .schema keep => p.snapshot keep (p.engine.schema p.link caller)
  | .refresh useHeld keep =>
    p.snapshot keep (p.engine.refresh p.link caller (if useHeld then p.held else none))
  | .datasets =>
    let (result, p) := p.session (p.engine.datasets p.link caller)
    (.descriptors result, p)
  | .compile request =>
    let (result, p) := p.session do
      p.engine.compile p.link caller (← MonadExcept.ofExcept request)
    (.compiled result, p)
  | .invalidate =>
    let (present, cache) := p.cache.invalidate p.link.identity
    (.flag present, { p with cache })
  | .collect request patience =>
    let (result, p) := p.walk request patience none
    (.rows (result.bind collected), p)
  | .query request patience reaction =>
    let (result, p) := p.walk request patience reaction
    (.walk result, p)

end EngineRehearsal

end Pushdown
