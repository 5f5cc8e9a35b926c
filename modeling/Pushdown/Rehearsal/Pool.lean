import Pushdown.Connection.Pool
import Pushdown.Rehearsal.Together

/-!
# Rehearsing a connection pool

A `PoolRehearsal` is a pool of stand-ins for connections, which are told apart by a serial
number and shown by a label, with a record of what happened to them. A scripted call says what
making and connecting a new connection comes to, and how long connecting takes.
-/

namespace Pushdown

/-- A stand-in for a connection. -/
structure StandIn where
  serial : Nat
  label : String
  deriving DecidableEq, Repr, Inhabited

/-- What happens to connections. -/
inductive PoolEvent where
  | made (label : String)
  | connecting (label : String) (budget : Nat)
  | closed (label : String)
  deriving DecidableEq, Repr, Inhabited

/-- A pool in rehearsal. -/
structure PoolRehearsal where
  pool : ConnectionPool StandIn
  /-- The time by which connections are idle. -/
  age : Nat
  nextSerial : Nat
  /-- What has happened, the latest first. -/
  events : List PoolEvent
  deriving Repr, Inhabited

namespace PoolRehearsal

/-- A scripted call for the connection of an identity. -/
structure Script where
  identity : Identity
  label : String
  making : Except Failure Unit
  connecting : Delayed (Except Failure Unit)
  deriving Repr, Inhabited

/-- Where a scripted call has got to. -/
inductive CallStage where
  | beginning
  | under (stage : Stage StandIn)
  | connecting (fresh : StandIn) (due : Nat)
  deriving Repr, Inhabited

/-- A scripted call that is under way. -/
structure PoolCall where
  script : Script
  stage : CallStage
  deriving Repr, Inhabited

/-- The rehearsal after something happened. -/
def record (r : PoolRehearsal) (event : PoolEvent) : PoolRehearsal :=
  { r with events := event :: r.events }

/-- The rehearsal with a change made to its pool. -/
def onPool {α : Type} (r : PoolRehearsal)
    (f : ConnectionPool StandIn → Nat → α × ConnectionPool StandIn) : α × PoolRehearsal :=
  let (a, pool) := f r.pool r.age
  (a, { r with pool })

/-- A connection is made, if the script lets it. -/
def make (r : PoolRehearsal) (s : Script) : Except Failure StandIn × PoolRehearsal :=
  (s.making.map fun _ => ⟨r.nextSerial, s.label⟩,
    { r with nextSerial := r.nextSerial + 1 }.record (.made s.label))

/-- What comes of connecting within a budget. -/
def replyOf (connecting : Delayed (Except Failure Unit)) (budget : Nat) : Reply Unit :=
  if budget < connecting.delay then .tooSlow else .answered connecting.value

/-- Closes what a stage waits to see closed. -/
def closeFor (r : PoolRehearsal) (stage : Stage StandIn) : PoolRehearsal :=
  match stage.toClose? with
  | some old => r.record (.closed old.label)
  | none => r

/-- A call takes one step, if it can. -/
def step (time : Nat) (c : PoolCall) (r : PoolRehearsal) : PoolCall × PoolRehearsal :=
  let r := { r with age := r.age + 1 }
  match c.stage with
  | .beginning =>
    let (stage, r) := r.onPool fun pool now => pool.checkOut c.script.identity now
    ({ c with stage := .under stage }, r)
  | .under .making =>
    let (fresh, r) := r.make c.script
    ({ c with stage := .under (.made fresh) }, r)
  | .under (.connecting fresh) =>
    let budget := r.pool.connectTimeout
    ({ c with stage := .connecting fresh (time + min c.script.connecting.delay budget) },
      r.record (.connecting fresh.label budget))
  | .under stage => ({ c with stage := .under stage.closed }, r.closeFor stage)
  | .connecting fresh due =>
    if due ≤ time then
      let reply := replyOf c.script.connecting r.pool.connectTimeout
      let (stage, r) := r.onPool fun pool now => pool.connected c.script.identity fresh reply now
      ({ c with stage := .under stage }, r)
    else (c, r)

/-- How calls run together. A call has at most six steps. -/
def behaviour : Together.Behaviour PoolRehearsal PoolCall where
  poll _ time c r :=
    [0, 1, 2, 3, 4, 5].foldl (fun cr _ => step time cr.1 cr.2) (c, r)
  wake? c :=
    match c.stage with
    | .connecting _ due => some due
    | _ => none

/-- The label of the connection a call was handed. -/
def PoolCall.outcome (c : PoolCall) : Except Failure String :=
  match c.stage with
  | .under (.ended result) => result.map (·.label)
  | _ => .error (.interrupted .connect)

/-- Runs scripted calls together. -/
def together (r : PoolRehearsal) (scripts : List Script) :
    List (Except Failure String) × PoolRehearsal :=
  let (calls, r) := Together.run behaviour (scripts.map fun s => ⟨s, .beginning⟩) r
  (calls.map PoolCall.outcome, r)

/-- A step of a rehearsal. -/
inductive Step where
  | get (script : Script)
  | together (scripts : List Script)
  | evict (identity : Identity)
  | closeAll
  deriving Repr, Inhabited

/-- What a step brings. -/
inductive Outcome where
  | get (result : Except Failure String)
  | together (results : List (Except Failure String))
  | flag (b : Bool)
  | done
  deriving Repr, Inhabited

/-- A pool before its rehearsal. -/
def ofPool (pool : ConnectionPool StandIn) : PoolRehearsal := ⟨pool, 0, 0, []⟩

/-- Closes everything a stage has to close; how much that was. -/
def closeRest (r : PoolRehearsal) : Stage StandIn → Nat × PoolRehearsal
  | .closing rest => (rest.length, rest.foldl (fun r old => r.record (.closed old.label)) r)
  | _ => (0, r)

/-- Performs a step; what it brings, and what happened in it. -/
def perform (r : PoolRehearsal) (s : Step) : Outcome × List PoolEvent × PoolRehearsal :=
  let r := { r with age := r.age + 1, events := [] }
  let (outcome, r) : Outcome × PoolRehearsal :=
    match s with
    | .get script =>
      let (results, r) := r.together [script]
      (.get (results.headD (.error (.interrupted .connect))), r)
    | .together scripts =>
      let (results, r) := r.together scripts
      (.together results, r)
    | .evict identity =>
      let (stage, r) := r.onPool fun pool _ => pool.evict identity
      let (closed, r) := r.closeRest stage
      (.flag (closed ≠ 0), r)
    | .closeAll =>
      let (stage, r) := r.onPool fun pool _ => pool.drain
      (.done, (r.closeRest stage).2)
  (outcome, r.events.reverse, r)

end PoolRehearsal

end Pushdown
