import Pushdown.Proofs.Engine.Scene

/-!
# Tales of a stream

A `Tale` is what becomes of a stream that is opened in the scene of a script and whose consumer
then acts: it takes turns, it cancels, or it drops the stream, in any order. While a call is under
way that never ends, all that is left to the consumer is to drop the stream; its cancelling
meanwhile is a matter of the answer to the call.

An `Opening` is a request to an engine, or a compiled query of any strategy and shape.
-/

namespace Pushdown

/-- What is opened. -/
inductive Opening where
  | request (e : Engine) (asked : Request)
  | compiled (config : Config) (query : CompiledQuery)

/-- Opens a stream. -/
def Opening.session {m : Type → Type} [Monad m] (link : Connection m) (caller : Caller m) :
    Opening → Session m RowStream
  | .request e asked => e.query link caller asked
  | .compiled config query => do
    let first ← Engine.guarded caller .query
      (Engine.effect (RowStream.firstPage config link query))
    return (RowStream.ofCompiled config query).absorb first

/-- What the consumer of a stream does. -/
inductive Act where
  | turn
  | cancel
  | drop
  deriving DecidableEq, Repr, Inhabited

/-- Where a stream stands that is told of. -/
inductive Tale.Standing where
  | live (s : RowStream)
  /-- A turn waits for a page that never comes. -/
  | waiting (s : RowStream)
  | closed
  deriving DecidableEq, Repr, Inhabited

/-- What has become of a stream. -/
structure Tale where
  standing : Tale.Standing
  scene : Scene
  deriving DecidableEq, Repr, Inhabited

/-- The cursors given back in a history. -/
def releasesIn (history : List Occurrence) : List Continuation :=
  history.filterMap fun
    | .released cursor => some cursor
    | _ => none

namespace Script

variable (script : Script)

/-- The tale of a stream before its consumer has done anything. -/
def opens (opening : Opening) (cache : SchemaCache) (cancelled : Bool) : Tale :=
  match (opening.session script.connection script.caller).play cache (.initial cancelled) with
  | (some (.ok s, _), scene) => ⟨.live s, scene⟩
  | (some (.error cause, _), scene) => ⟨.closed, scene.add [.failed cause]⟩
  | (none, scene) => ⟨.closed, scene⟩

/-- What has become of a stream by a turn. One that never ends waits for a page, unless it has
already begun to give the cursor back. -/
def told (s : RowStream) : Option Turn × Scene → Tale
  | (some (.row values rest), scene) => ⟨.live rest, scene.add [.emitted values]⟩
  | (some (.page rest), scene) => ⟨.live rest, scene⟩
  | (some .ended, scene) => ⟨.closed, scene.add [.ended]⟩
  | (some (.failed cause), scene) => ⟨.closed, scene.add [.failed cause]⟩
  | (none, scene) => ⟨if releasesIn scene.history = [] then .waiting s else .closed, scene⟩

/-- The consumer acts. -/
def act (t : Tale) : Act → Tale
  | .turn =>
    match t.standing with
    | .live s => told s ((s.turn script.connection script.caller).play t.scene)
    | .waiting _ | .closed => t
  | .cancel =>
    match t.standing with
    | .live _ | .closed => { t with scene := t.scene.cancel }
    | .waiting _ => t
  | .drop =>
    match t.standing with
    | .live s | .waiting s => ⟨.closed, ((s.release script.connection).play t.scene).2⟩
    | .closed => t

/-- The tale of a stream whose consumer has acted. -/
def tale (opening : Opening) (cache : SchemaCache) (cancelled : Bool) (acts : List Act) : Tale :=
  acts.foldl script.act (script.opens opening cache cancelled)

end Script

/-! ## The turns of a stream -/

namespace RowStream

variable {script : Script} {s : RowStream} {scene : Scene}

theorem play_turn_cancelled (hc : scene.cancelled = true) :
    (s.turn script.connection script.caller).play scene
      = Staged.play (do s.release script.connection; return .failed .queryCancelled) scene := by
  have hlook : script.caller.cancelled.play scene = (some true, scene) := by rw [← hc]; rfl
  rw [turn, Staged.play_bind_some hlook]
  rfl

section
variable (hc : scene.cancelled = false)
include hc

theorem play_turn_row {row : NativeRow} {rest : List NativeRow} (hb : s.buffer = row :: rest) :
    (s.turn script.connection script.caller).play scene
      = (some (.row (normalize s.compiled.outputs row) { s with buffer := rest }), scene) := by
  have hlook : script.caller.cancelled.play scene = (some false, scene) := by rw [← hc]; rfl
  rw [turn, Staged.play_bind_some hlook]
  obtain ⟨_, _, _, buffer, _, _, _⟩ := s
  cases hb
  rfl

theorem play_turn_end (hb : s.buffer = []) (hn : s.next = none) :
    (s.turn script.connection script.caller).play scene
      = Staged.play (do s.release script.connection; return .ended) scene := by
  have hlook : script.caller.cancelled.play scene = (some false, scene) := by rw [← hc]; rfl
  rw [turn, Staged.play_bind_some hlook]
  obtain ⟨_, _, _, buffer, next, _, _⟩ := s
  cases hb
  cases hn
  rfl

/-- A page is asked for. -/
theorem play_fetch (continuation : Continuation) :
    (s.fetch script.connection script.caller continuation).play scene
      = ((script.nextPage scene.history (s.pageQuery continuation) continuation).reply.map
            (·.result .pageFetch .pageFetch s.pageTimeout),
          scene.enact (.asked (s.pageQuery continuation) continuation)
            (script.nextPage scene.history (s.pageQuery continuation) continuation)
            Script.arrival) := by
  have hlook : script.caller.cancelled.play scene = (some false, scene) := by rw [← hc]; rfl
  have hcall : (script.connection.nextPage (s.pageQuery continuation) continuation
        s.pageTimeout).play scene
      = ((script.nextPage scene.history (s.pageQuery continuation) continuation).reply,
          scene.enact (.asked (s.pageQuery continuation) continuation)
            (script.nextPage scene.history (s.pageQuery continuation) continuation)
            Script.arrival) := rfl
  rw [fetch, Staged.play_bind_some hlook]
  exact Staged.play_bind_pure.trans (by rw [hcall])

theorem play_turn_page {continuation : Continuation} (hb : s.buffer = [])
    (hn : s.next = some continuation) :
    (s.turn script.connection script.caller).play scene
      = Staged.play (do
          match ← s.fetch script.connection script.caller continuation with
          | .ok page => return .page (s.absorb page)
          | .error cause => s.release script.connection; return .failed cause) scene := by
  have hlook : script.caller.cancelled.play scene = (some false, scene) := by rw [← hc]; rfl
  rw [turn, Staged.play_bind_some hlook]
  obtain ⟨_, _, _, buffer, next, _, _⟩ := s
  cases hb
  cases hn
  rfl

end

/-- Giving the open cursor back is one call, if there is a cursor. -/
theorem play_release :
    (s.release script.connection).play scene
      = match s.openCursor with
        | none => (some (), scene)
        | some cursor =>
          ((script.release scene.history cursor).reply.map fun _ => (),
            scene.enact (.released cursor) (script.release scene.history cursor) fun _ => []) := by
  unfold release
  cases s.openCursor with
  | none => rfl
  | some cursor =>
    have hcall : (script.connection.release cursor).play scene
        = ((script.release scene.history cursor).reply,
            scene.enact (.released cursor) (script.release scene.history cursor) fun _ => []) := rfl
    change Staged.play (script.connection.release cursor >>= fun _ => pure ()) scene = _
    rw [Staged.play_bind_pure, hcall]

end RowStream

namespace Script

variable (script : Script) (s : RowStream) (scene : Scene)

/-- A stream comes to its end: its cursor is given back, and then something is handed out. -/
def finish (ending : Occurrence) : Tale :=
  match (s.release script.connection).play scene with
  | (some _, scene) => ⟨.closed, scene.add [ending]⟩
  | (none, scene) => ⟨if releasesIn scene.history = [] then .waiting s else .closed, scene⟩

variable {script s scene}

theorem told_ended :
    told s (Staged.play (do s.release script.connection; return .ended) scene)
      = script.finish s scene .ended := by
  rw [finish]
  rcases hr : (s.release script.connection).play scene with ⟨_ | u, after⟩
  · rw [Staged.play_bind_none hr]; rfl
  · rw [Staged.play_bind_some hr]; rfl

theorem told_failed (cause : Failure) :
    told s (Staged.play (do s.release script.connection; return .failed cause) scene)
      = script.finish s scene (.failed cause) := by
  rw [finish]
  rcases hr : (s.release script.connection).play scene with ⟨_ | u, after⟩
  · rw [Staged.play_bind_none hr]; rfl
  · rw [Staged.play_bind_some hr]; rfl

/-- The ways in which a turn can go. -/
theorem turn_cases {motive : Tale → Prop}
    (finishes : ∀ ending, ending.IsHandedOut → motive (script.finish s scene ending))
    (hands : ∀ values rest, rest.openCursor = s.openCursor →
      motive ⟨.live rest, scene.add [.emitted values]⟩)
    (comes : scene.cancelled = false → ∀ query continuation page,
      (script.nextPage scene.history query continuation).reply = some (.answered (.ok page)) →
      motive ⟨.live (s.absorb page), scene.enact (.asked query continuation)
        (script.nextPage scene.history query continuation) arrival⟩)
    (fails : scene.cancelled = false → ∀ query continuation reply cause,
      (script.nextPage scene.history query continuation).reply = some reply → arrival reply = [] →
      motive (script.finish s (scene.enact (.asked query continuation)
        (script.nextPage scene.history query continuation) arrival) (.failed cause)))
    (waits : scene.cancelled = false → ∀ query continuation,
      (script.nextPage scene.history query continuation).reply = none →
      motive (told s (none, scene.enact (.asked query continuation)
        (script.nextPage scene.history query continuation) arrival))) :
    motive (told s ((s.turn script.connection script.caller).play scene)) := by
  cases hc : scene.cancelled with
  | true =>
    rw [RowStream.play_turn_cancelled hc, told_failed]
    exact finishes _ trivial
  | false =>
    rcases hb : s.buffer with _ | ⟨first, rest⟩
    · rcases hn : s.next with _ | continuation
      · rw [RowStream.play_turn_end hc hb hn, told_ended]
        exact finishes _ trivial
      · have hfetch : (s.fetch script.connection script.caller continuation).play scene = _ :=
          RowStream.play_fetch hc continuation
        rw [RowStream.play_turn_page hc hb hn]
        rcases hreply : (script.nextPage scene.history (s.pageQuery continuation)
          continuation).reply with _ | reply
        · rw [hreply] at hfetch
          rw [Staged.play_bind_none hfetch]
          exact waits hc _ _ hreply
        · rw [hreply] at hfetch
          rw [Staged.play_bind_some hfetch]
          rcases reply with (cause | page) | _ | _
          · exact (congrArg motive (told_failed cause)).mpr (fails hc _ _ _ cause hreply rfl)
          · exact comes hc _ _ _ hreply
          · exact (congrArg motive (told_failed _)).mpr (fails hc _ _ _ _ hreply rfl)
          · exact (congrArg motive (told_failed _)).mpr (fails hc _ _ _ _ hreply rfl)
    · rw [RowStream.play_turn_row hc hb]
      exact hands _ _ rfl

end Script

end Pushdown
