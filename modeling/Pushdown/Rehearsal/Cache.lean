import Pushdown.Rehearsal.Together
import Pushdown.Schema.Turns

/-!
# Rehearsing a schema cache

A `CacheRehearsal` is a shared cache with a clock that moves on at every look and with the
snapshots that are kept under a name for later. Its steps are the operations of a cache, and
fetches that run together, each with a scripted outcome after a scripted delay.
-/

namespace Pushdown

/-- A cache in rehearsal. -/
structure CacheRehearsal where
  shared : SharedCache
  /-- The time by which snapshots age. -/
  age : Nat
  held : List (String × Snapshot)
  deriving Repr, Inhabited

namespace CacheRehearsal

open SchemaCache (Aim Errand)

/-- Where a call has got to. -/
inductive FetchStage where
  | beginning
  | waiting
  | fetching (due : Nat)
  | ended (outcome : Except Failure Snapshot)
  deriving Repr, Inhabited

/-- What a scripted call is after. -/
inductive Purpose where
  /-- Any fresh snapshot. -/
  | fresh
  /-- A newer snapshot than the one held under a name, if there is one. -/
  | newerThan (held : Option String)
  deriving Repr, Inhabited

/-- A scripted call: what its fetch brings, if it comes to that, and the name under which the
snapshot it gets is held. -/
structure Script where
  identity : Identity
  ttl : Nat
  purpose : Purpose
  fetch : Delayed (Except Failure Schema)
  hold : Option String
  deriving Repr, Inhabited

/-- A scripted call that is under way. -/
structure FetchCall where
  errand : Errand
  fetch : Delayed (Except Failure Schema)
  stage : FetchStage
  /-- Whether the call came to fetch. -/
  fetched : Bool
  deriving Repr, Inhabited

/-- The time moves on. -/
def tick (r : CacheRehearsal) : CacheRehearsal := { r with age := r.age + 1 }

/-- A call goes on after it has looked. -/
def FetchCall.after (c : FetchCall) (time : Nat) : SharedCache.Progress → FetchCall
  | .found snapshot => { c with stage := .ended (.ok snapshot) }
  | .waiting => { c with stage := .waiting }
  | .fetching => { c with stage := .fetching (time + c.fetch.delay), fetched := true }

/-- A call takes one step, if it can. -/
def step (call time : Nat) (c : FetchCall) (r : CacheRehearsal) : FetchCall × CacheRehearsal :=
  let r := r.tick
  match c.stage with
  | .beginning =>
    let (progress, shared) := r.shared.enter call c.errand r.age
    (c.after time progress, { r with shared })
  | .waiting =>
    let (progress, shared) := r.shared.resume call c.errand r.age
    (c.after time progress, { r with shared })
  | .fetching due =>
    if due ≤ time then
      let (outcome, shared) := r.shared.finish call c.errand c.fetch.value r.age
      ({ c with stage := .ended outcome }, { r with shared })
    else (c, r)
  | .ended _ => (c, r)

/-- How calls run together. Between two waits a call takes at most two steps: it looks, and it
finishes a fetch that takes no time. -/
def behaviour : Together.Behaviour CacheRehearsal FetchCall where
  poll call time c r :=
    let (c, r) := step call time c r
    step call time c r
  wake? c :=
    match c.stage with
    | .fetching due => some due
    | _ => none

/-- A scripted call before it begins. -/
def prepare (r : CacheRehearsal) (s : Script) : FetchCall :=
  let aim : Aim :=
    match s.purpose with
    | .fresh => .fresh
    | .newerThan held => .newerThan (held.bind fun name => r.held.lookup name)
  ⟨⟨s.identity, s.ttl, aim⟩, s.fetch, .beginning, false⟩

/-- Keeps a snapshot under a name. -/
def keep (r : CacheRehearsal) (name : Option String) (snapshot : Option Snapshot) :
    CacheRehearsal :=
  match name, snapshot with
  | some name, some snapshot => { r with held := (name, snapshot) :: r.held }
  | _, _ => r

/-- The snapshot a call has got, if it has come to that. -/
def FetchCall.outcome (c : FetchCall) : Except Failure Snapshot :=
  match c.stage with
  | .ended outcome => outcome
  | _ => .error (.interrupted .schemaFetch)

/-- Runs scripted calls together. For each the result says what it got and whether it fetched. -/
def together (r : CacheRehearsal) (scripts : List Script) :
    List (Except Failure Schema × Bool) × CacheRehearsal :=
  let (calls, r) := Together.run behaviour (scripts.map r.prepare) r
  let r := (scripts.zip calls).foldl
    (fun r sc => r.keep sc.1.hold sc.2.outcome.toOption) r
  (calls.map fun c => (c.outcome.map (·.schema), c.fetched), r)

/-- A step of a rehearsal. -/
inductive Step where
  | get (identity : Identity) (hold : Option String)
  | store (identity : Identity) (schema : Schema) (ttl : Option Nat)
  | hasAge (identity : Identity)
  | invalidate (identity : Identity)
  | call (script : Script)
  | together (scripts : List Script)
  deriving Repr, Inhabited

/-- What a step brings. -/
inductive Outcome where
  | schema (found : Option Schema)
  | stored
  | flag (b : Bool)
  | call (result : Except Failure Schema × Bool)
  | together (results : List (Except Failure Schema × Bool))
  deriving Repr, Inhabited

/-- A cache before its rehearsal. -/
def ofCapacity (capacity defaultTtl : Nat) : CacheRehearsal :=
  ⟨.ofCache (.ofCapacity capacity defaultTtl), 0, []⟩

/-- The rehearsal with its cache changed. -/
def withCache (r : CacheRehearsal) (cache : SchemaCache) : CacheRehearsal :=
  { r with shared := { r.shared with cache } }

/-- Performs a step. -/
def perform (r : CacheRehearsal) (s : Step) : Outcome × CacheRehearsal :=
  let r := r.tick
  let cache := r.shared.cache
  match s with
  | .get identity hold =>
    let (found, cache) := cache.get identity r.age
    (.schema (found.map (·.schema)), (r.withCache cache).keep hold found)
  | .store identity schema ttl =>
    (.stored, r.withCache (cache.storeFor identity schema (ttl.getD cache.defaultTtl) r.age).2)
  | .hasAge identity => (.flag (cache.age identity r.age).isSome, r)
  | .invalidate identity =>
    let (present, cache) := cache.invalidate identity
    (.flag present, r.withCache cache)
  | .call script =>
    let (results, r) := r.together [script]
    (.call (results.headD (.error (.interrupted .schemaFetch), false)), r)
  | .together scripts =>
    let (results, r) := r.together scripts
    (.together results, r)

end CacheRehearsal

end Pushdown
