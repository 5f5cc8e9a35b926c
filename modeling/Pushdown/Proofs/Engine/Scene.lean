import Pushdown.Proofs.Stream.Walk

/-!
# Scenes

A `Script` is everything an engine cannot decide for itself: how time passes, what its connection
answers, and when its caller cancels. The answer to a call may depend on all that has happened
before, may be a failure, and may never come; the caller may cancel while any call is under way. A
`Scene` is what has happened so far. `Occurrence`s are recorded as they happen, so that what an
engine did, and in which order, is read off the history of a scene.

`Session.play` plays a computation of an engine. Its lemmas say how the parts of one are played one
after the other, so that no proof looks into the layers of the monad.
-/

namespace Pushdown

/-- What happens between an engine, its connection and its caller. -/
inductive Occurrence where
  /-- The schema is asked for. -/
  | fetched
  | executed (query : NativeQuery)
  | asked (query : NativeQuery) (continuation : Continuation)
  /-- A page has come. -/
  | came (page : Page)
  | released (cursor : Continuation)
  /-- The caller cancels. -/
  | cancelled
  | emitted (values : ResultRow)
  | ended
  | failed (cause : Failure)
  deriving DecidableEq, Repr, Inhabited

/-- What the consumer of a stream is given. -/
def Occurrence.IsHandedOut : Occurrence → Prop
  | .emitted _ | .ended | .failed _ => True
  | _ => False

/-- What comes of a call. -/
structure Answer (α : Type) where
  /-- Nothing, if it never comes. -/
  reply : Option α
  /-- Whether the caller cancels while the call is under way. -/
  cancels : Bool
  deriving Repr, Inhabited

/-- What a connection answers and what its caller does, given all that has happened before. -/
structure Script where
  kind : BackendKind
  identity : Identity
  /-- The time at each look at the clock. -/
  clock : Nat → Nat
  fetch : List Occurrence → Answer (Reply (List ReportedColumn))
  execute : List Occurrence → NativeQuery → Answer (Reply Page)
  nextPage : List Occurrence → NativeQuery → Continuation → Answer (Reply Page)
  release : List Occurrence → Continuation → Answer (Except Failure Unit)

/-- What has happened so far. -/
structure Scene where
  /-- The number of looks at the clock. -/
  looks : Nat
  cancelled : Bool
  history : List Occurrence
  deriving DecidableEq, Repr, Inhabited

namespace Scene

/-- The scene with more that has happened. -/
def add (scene : Scene) (events : List Occurrence) : Scene :=
  { scene with history := scene.history ++ events }

/-- The scene once the caller has cancelled. -/
def cancel (scene : Scene) : Scene :=
  if scene.cancelled then scene
  else { scene with cancelled := true, history := scene.history ++ [.cancelled] }

/-- The scene after a call, once its answer has come or will never come. -/
def enact {α : Type} (scene : Scene) (event : Occurrence) (given : Answer α)
    (arriving : α → List Occurrence) : Scene :=
  let after := scene.add (event :: (given.reply.map arriving).getD [])
  if given.cancels then after.cancel else after

/-- The scene after a look at the clock. -/
def look (scene : Scene) : Scene :=
  { scene with looks := scene.looks + 1 }

/-- Nothing has happened yet, unless the caller has cancelled beforehand. -/
def initial (cancelled : Bool) : Scene :=
  ⟨0, cancelled, if cancelled then [.cancelled] else []⟩

end Scene

/-- Computations in a scene. One that waits for an answer that never comes has no result, but what
has happened by then stays. -/
abbrev Staged := OptionT (StateM Scene)

/-- Plays a computation in a scene. -/
def Staged.play {α : Type} (x : Staged α) (scene : Scene) : Option α × Scene :=
  x.run.run scene

/-- Plays a computation of an engine in a scene. -/
def Session.play {α : Type} (x : Session Staged α) (cache : SchemaCache) (scene : Scene) :
    Option (Except Failure α × SchemaCache) × Scene :=
  Staged.play (x.run.run cache) scene

namespace Script

/-- The page that a reply brings, if any. -/
def arrival : Reply Page → List Occurrence
  | .answered (.ok page) => [.came page]
  | _ => []

/-- Makes a call and waits for its answer. -/
def call {α : Type} (event : Occurrence) (answer : List Occurrence → Answer α)
    (arriving : α → List Occurrence) : Staged α :=
  OptionT.mk fun scene =>
    let given := answer scene.history
    (given.reply, scene.enact event given arriving)

/-- The connection of a script. -/
def connection (script : Script) : Connection Staged where
  kind := script.kind
  identity := script.identity
  connect _ := return .answered (.ok ())
  fetchSchema _ := call .fetched script.fetch fun _ => []
  execute query _ := call (.executed query) (script.execute · query) arrival
  nextPage query continuation _ :=
    call (.asked query continuation) (script.nextPage · query continuation) arrival
  release cursor := call (.released cursor) (script.release · cursor) fun _ => []
  close := return .ok ()

/-- The caller of a script. -/
def caller (script : Script) : Caller Staged where
  now := OptionT.mk fun scene => (some (script.clock scene.looks), scene.look)
  cancelled := OptionT.mk fun scene => (some scene.cancelled, scene)

end Script

/-! ## Playing a computation part by part -/

namespace Staged

variable {α β : Type} {x : Staged α} {f : α → Staged β} {scene scene' : Scene}

@[simp] theorem play_pure (a : α) : (pure a : Staged α).play scene = (some a, scene) := rfl

theorem play_bind_some {a : α} (h : x.play scene = (some a, scene')) :
    (x >>= f).play scene = (f a).play scene' := by
  unfold play at h ⊢
  simp only [OptionT.run_bind, Option.elimM, StateT.run_bind, h]
  rfl

theorem play_bind_none (h : x.play scene = (none, scene')) :
    (x >>= f).play scene = (none, scene') := by
  unfold play at h ⊢
  simp only [OptionT.run_bind, Option.elimM, StateT.run_bind, h]
  rfl

/-- What comes of a computation, changed. -/
theorem play_bind_pure {g : α → β} :
    Staged.play (x >>= fun a => pure (g a)) scene
      = ((x.play scene).1.map g, (x.play scene).2) := by
  rcases hx : x.play scene with ⟨_ | a, after⟩
  · rw [play_bind_none hx]; rfl
  · rw [play_bind_some hx]; rfl

end Staged

namespace Session

variable {α β : Type} {x : Session Staged α} {f : α → Session Staged β}
  {cache cache' : SchemaCache} {scene scene' : Scene}

@[simp] theorem play_pure (a : α) :
    (pure a : Session Staged α).play cache scene = (some (.ok a, cache), scene) := rfl

@[simp] theorem play_ofExcept (result : Except Failure α) :
    (MonadExcept.ofExcept result : Session Staged α).play cache scene
      = (some (result, cache), scene) := by
  cases result <;> rfl

/-- What follows is played with what came of the part before. -/
theorem play_bind_ok {a : α} (h : x.play cache scene = (some (.ok a, cache'), scene')) :
    (x >>= f).play cache scene = (f a).play cache' scene' :=
  Staged.play_bind_some h

/-- What follows a failure is left out. -/
theorem play_bind_error {cause : Failure}
    (h : x.play cache scene = (some (.error cause, cache'), scene')) :
    (x >>= f).play cache scene = (some (.error cause, cache'), scene') :=
  Staged.play_bind_some h

theorem play_bind_none (h : x.play cache scene = (none, scene')) :
    (x >>= f).play cache scene = (none, scene') :=
  Staged.play_bind_none h

variable {handler : Failure → Session Staged α}

theorem play_tryCatch_ok {a : α} (h : x.play cache scene = (some (.ok a, cache'), scene')) :
    (tryCatch x handler).play cache scene = (some (.ok a, cache'), scene') :=
  Staged.play_bind_some h

theorem play_tryCatch_error {cause : Failure}
    (h : x.play cache scene = (some (.error cause, cache'), scene')) :
    (tryCatch x handler).play cache scene = (handler cause).play cache' scene' :=
  Staged.play_bind_some h

theorem play_tryCatch_none (h : x.play cache scene = (none, scene')) :
    (tryCatch x handler).play cache scene = (none, scene') :=
  Staged.play_bind_none h

@[simp] theorem play_onCache (f : SchemaCache → α × SchemaCache) :
    (Engine.onCache f : Session Staged α).play cache scene
      = (some (.ok (f cache).1, (f cache).2), scene) := rfl

@[simp] theorem play_clock (script : Script) :
    (Engine.clock script.caller).play cache scene
      = (some (.ok (script.clock scene.looks), cache), scene.look) := rfl

/-- An effect leaves the cache alone. -/
theorem play_effect_some {act : Staged (Except Failure α)} {result : Except Failure α}
    (h : act.play scene = (some result, scene')) :
    (Engine.effect act : Session Staged α).play cache scene = (some (result, cache), scene') :=
  Staged.play_bind_some h

theorem play_effect_none {act : Staged (Except Failure α)} (h : act.play scene = (none, scene')) :
    (Engine.effect act : Session Staged α).play cache scene = (none, scene') :=
  Staged.play_bind_none h

theorem play_lift_some {act : Staged α} {a : α} (h : act.play scene = (some a, scene')) :
    Session.play (ExceptT.lift (StateT.lift act)) cache scene
      = (some (.ok a, cache), scene') := by
  have hlift : Staged.play (StateT.lift act cache) scene = (some (a, cache), scene') :=
    Staged.play_bind_some h
  exact Staged.play_bind_some hlift

theorem play_lift_none {act : Staged α} (h : act.play scene = (none, scene')) :
    Session.play (ExceptT.lift (StateT.lift act)) cache scene = (none, scene') := by
  have hlift : Staged.play (StateT.lift act cache) scene = (none, scene') :=
    Staged.play_bind_none h
  exact Staged.play_bind_none hlift

/-- A computation is begun unless the caller has cancelled. -/
theorem play_guarded (script : Script) (activity : Activity) :
    Session.play (Engine.guarded script.caller activity x) cache scene
      = if scene.cancelled then (some (.error (.interrupted activity), cache), scene)
        else x.play cache scene := by
  have hlook : script.caller.cancelled.play scene = (some scene.cancelled, scene) := rfl
  rw [Engine.guarded, play_bind_ok (play_lift_some hlook)]
  cases scene.cancelled <;> rfl

end Session

/-! ## The calls of an engine -/

section
variable (script : Script) (scene : Scene)

/-- The schema is asked for, if there is a backend for it. -/
theorem Engine.play_loadSchema (e : Engine) (behalf : Activity)
    (h : e.registry.require script.kind = .ok ()) :
    (e.loadSchema script.connection behalf).play scene
      = ((script.fetch scene.history).reply.map fun reply =>
            (reply.result .schemaFetch behalf e.config.schemaTimeout).map
              (Schema.ofReported script.kind.types),
          scene.enact .fetched (script.fetch scene.history) fun _ => []) := by
  have hkind : e.registry.require script.connection.kind = .ok () := h
  rw [loadSchema, hkind]
  exact Staged.play_bind_pure

/-- A query is run for its first page. -/
theorem RowStream.play_firstPage (config : Config) (query : CompiledQuery) :
    (firstPage config script.connection query).play scene
      = ((script.execute scene.history
            (script.kind.pageQuery query none config.batchSize)).reply.map
              (·.result .query .query config.queryTimeout),
          scene.enact (.executed (script.kind.pageQuery query none config.batchSize))
            (script.execute scene.history (script.kind.pageQuery query none config.batchSize))
            Script.arrival) :=
  Staged.play_bind_pure

end

end Pushdown
