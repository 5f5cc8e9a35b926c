import Pushdown.Proofs.Engine.Tale

/-!
# Cursors are given back once

`Scene.Open` is a scene before anything is given back: the cursor of the latest page that has come
is the one the stream holds. `Scene.Closed` is a scene in which that cursor, if there is one, has
been given back once. Every way for a stream to end leads from the one to the other, by the same
call; and what a consumer does keeps a tale tidy, whatever the connection answers.

Opening a stream gives nothing back. `Session.Leads` follows the session of an engine from call to
call: once the caller has cancelled, it begins none.
-/

namespace Pushdown

/-! ## What a history shows -/

namespace Occurrence

/-- Something is asked of the connection. -/
def Begins : Occurrence → Prop
  | .fetched | .executed _ | .asked .. => True
  | _ => False

/-- Nothing may be asked of the connection after this. -/
def Stops : Occurrence → Prop
  | .released _ | .cancelled => True
  | _ => False

end Occurrence

/-- Nothing is asked of the connection once the caller has cancelled or a cursor is given back. -/
def Heeds (history : List Occurrence) : Prop :=
  history.Pairwise fun earlier later => earlier.Stops → ¬ later.Begins

/-- The pages that have come in a history. -/
def pagesIn (history : List Occurrence) : List Page :=
  history.filterMap fun
    | .came page => some page
    | _ => none

/-- The cursor that a page keeps open on the server. -/
def Page.openCursor (page : Page) : Option Continuation :=
  page.continuation.filter Continuation.isCursor

/-- The cursor of the last page that has come in a history. -/
def openIn (history : List Occurrence) : Option Continuation :=
  (pagesIn history).getLast?.bind Page.openCursor

/-- Events of which a stream need not take notice. -/
structure Silent (events : List Occurrence) : Prop where
  begins : ∀ event ∈ events, ¬ event.Begins
  releases : releasesIn events = []
  pages : pagesIn events = []

section
variable {history events : List Occurrence}

theorem silent_cancelled : Silent [.cancelled] :=
  ⟨List.forall_mem_singleton.2 id, rfl, rfl⟩

theorem silent_of_isHandedOut {event : Occurrence} (h : event.IsHandedOut) : Silent [event] := by
  cases event with
  | emitted | ended | failed => exact ⟨List.forall_mem_singleton.2 id, rfl, rfl⟩
  | fetched | executed | asked | came | released | cancelled => exact h.elim

theorem cancelled_not_mem {event : Occurrence} (h : event.IsHandedOut) : .cancelled ∉ [event] := by
  rintro hmem
  rw [← List.mem_singleton.1 hmem] at h
  exact h

theorem releasesIn_append :
    releasesIn (history ++ events) = releasesIn history ++ releasesIn events :=
  List.filterMap_append

theorem pagesIn_append : pagesIn (history ++ events) = pagesIn history ++ pagesIn events :=
  List.filterMap_append

theorem openIn_append_of_pagesIn_eq_nil (h : pagesIn events = []) :
    openIn (history ++ events) = openIn history := by
  rw [openIn, pagesIn_append, h, List.append_nil, openIn]

/-- Nothing that asks of the connection may be added at any time. -/
theorem Heeds.add_quiet (h : Heeds history) (hquiet : ∀ event ∈ events, ¬ event.Begins) :
    Heeds (history ++ events) :=
  List.pairwise_append.2 ⟨h, List.Pairwise.imp_of_mem (fun _ hb _ _ => hquiet _ hb)
    (List.pairwise_of_forall fun _ _ => trivial), fun _ _ _ hb _ => hquiet _ hb⟩

/-- As long as nothing has stopped it, a call may be added. -/
theorem Heeds.add_call {call : Occurrence} (h : Heeds history)
    (hfree : ∀ event ∈ history, ¬ event.Stops)
    (hquiet : ∀ event ∈ events, ¬ event.Begins) : Heeds (history ++ call :: events) := by
  have hevents : Heeds (call :: events) :=
    List.pairwise_cons.2 ⟨fun _ hb _ => hquiet _ hb, Heeds.add_quiet .nil hquiet⟩
  exact List.pairwise_append.2 ⟨h, hevents, fun _ ha _ _ hs => absurd hs (hfree _ ha)⟩

end

/-! ## Before and after a cursor is given back -/

namespace Scene

/-- Nothing has been given back yet, and this is the cursor to be given back. -/
structure Open (cursor : Option Continuation) (scene : Scene) : Prop where
  heeds : Heeds scene.history
  token : .cancelled ∈ scene.history → scene.cancelled = true
  unreleased : releasesIn scene.history = []
  latest : openIn scene.history = cursor

/-- The cursor of the last page, if there is one, has been given back once. -/
structure Closed (scene : Scene) : Prop where
  heeds : Heeds scene.history
  token : .cancelled ∈ scene.history → scene.cancelled = true
  released : releasesIn scene.history = (openIn scene.history).toList

section
variable {scene : Scene} {cursor : Option Continuation}

theorem Open.closed (h : scene.Open none) : scene.Closed :=
  ⟨h.heeds, h.token, by rw [h.unreleased, h.latest]; rfl⟩

theorem Open.look (h : scene.Open cursor) : scene.look.Open cursor :=
  ⟨h.heeds, h.token, h.unreleased, h.latest⟩

/-- Nothing has stopped a stream whose caller has not cancelled. -/
theorem Open.not_stops (h : scene.Open cursor) (hc : scene.cancelled = false) :
    ∀ event ∈ scene.history, ¬ event.Stops := by
  intro event hevent hstops
  cases event with
  | cancelled => exact absurd (h.token hevent) (by simp [hc])
  | released cursor =>
    have hmem : cursor ∈ releasesIn scene.history := List.mem_filterMap.2 ⟨_, hevent, rfl⟩
    exact absurd hmem (by simp [h.unreleased])
  | fetched | executed | asked | came | emitted | ended | failed => exact hstops

theorem Open.add (h : scene.Open cursor) {events : List Occurrence} (hsilent : Silent events)
    (htoken : .cancelled ∈ events → scene.cancelled = true) : (scene.add events).Open cursor :=
  ⟨h.heeds.add_quiet hsilent.begins, fun hmem => (List.mem_append.1 hmem).elim h.token htoken,
    releasesIn_append.trans (by rw [h.unreleased, hsilent.releases]; rfl),
    (openIn_append_of_pagesIn_eq_nil hsilent.pages).trans h.latest⟩

theorem Closed.add (h : scene.Closed) {events : List Occurrence} (hsilent : Silent events)
    (htoken : .cancelled ∈ events → scene.cancelled = true) : (scene.add events).Closed :=
  ⟨h.heeds.add_quiet hsilent.begins, fun hmem => (List.mem_append.1 hmem).elim h.token htoken,
    releasesIn_append.trans (by
      rw [hsilent.releases, List.append_nil, h.released, ← openIn_append_of_pagesIn_eq_nil
        hsilent.pages]
      rfl)⟩

theorem Open.hand (h : scene.Open cursor) {event : Occurrence} (hevent : event.IsHandedOut) :
    (scene.add [event]).Open cursor :=
  h.add (silent_of_isHandedOut hevent) fun hmem => absurd hmem (cancelled_not_mem hevent)

theorem Closed.hand (h : scene.Closed) {event : Occurrence} (hevent : event.IsHandedOut) :
    (scene.add [event]).Closed :=
  h.add (silent_of_isHandedOut hevent) fun hmem => absurd hmem (cancelled_not_mem hevent)

theorem Open.cancel (h : scene.Open cursor) : scene.cancel.Open cursor := by
  unfold Scene.cancel
  split
  · exact h
  · have hmarked : { scene with cancelled := true }.Open cursor :=
      ⟨h.heeds, fun _ => rfl, h.unreleased, h.latest⟩
    exact hmarked.add silent_cancelled fun _ => rfl

theorem Closed.cancel (h : scene.Closed) : scene.cancel.Closed := by
  unfold Scene.cancel
  split
  · exact h
  · have hmarked : { scene with cancelled := true }.Closed :=
      ⟨h.heeds, fun _ => rfl, h.released⟩
    exact hmarked.add silent_cancelled fun _ => rfl

/-- A call that may bring a page, begun before anything has stopped it. -/
theorem Open.enact (h : scene.Open cursor) (hc : scene.cancelled = false) {α : Type}
    {call : Occurrence} {given : Answer α} {arriving : α → List Occurrence}
    {latest : Option Continuation} (hcall : call.Begins)
    (hcome : ∀ event ∈ (given.reply.map arriving).getD [], ∃ page, event = .came page)
    (hlatest : openIn (scene.history ++ call :: (given.reply.map arriving).getD []) = latest) :
    (scene.enact call given arriving).Open latest := by
  generalize hevents : (given.reply.map arriving).getD [] = events at hcome hlatest
  have hquiet : ∀ event ∈ events, ¬ event.Begins := fun event hevent => by
    obtain ⟨page, rfl⟩ := hcome event hevent
    exact id
  have hreleases : releasesIn (call :: events) = [] := by
    refine List.filterMap_eq_nil_iff.2 (List.forall_mem_cons.2 ⟨?_, fun event hevent => ?_⟩)
    · cases call with
      | fetched | executed | asked => rfl
      | came | released | cancelled | emitted | ended | failed => exact hcall.elim
    · obtain ⟨page, rfl⟩ := hcome event hevent
      rfl
  have htoken : .cancelled ∉ call :: events := by
    rw [List.mem_cons]
    rintro (rfl | hevent)
    · exact hcall
    · obtain ⟨page, heq⟩ := hcome _ hevent
      cases heq
  have hafter : (scene.add (call :: events)).Open latest :=
    ⟨h.heeds.add_call (h.not_stops hc) hquiet,
      fun hmem => (List.mem_append.1 hmem).elim h.token fun hnew => absurd hnew htoken,
      releasesIn_append.trans (by rw [h.unreleased, hreleases]; rfl), hlatest⟩
  rw [Scene.enact, hevents]
  split
  · exact hafter.cancel
  · exact hafter

/-- The cursor is given back. -/
theorem Open.release {given : Answer (Except Failure Unit)} {cursor : Continuation}
    (h : scene.Open (some cursor)) :
    (scene.enact (.released cursor) given fun _ => []).Closed := by
  have hevents : (given.reply.map fun _ => ([] : List Occurrence)).getD [] = [] := by
    cases given.reply <;> rfl
  have hafter : (scene.add [.released cursor]).Closed :=
    ⟨h.heeds.add_quiet (List.forall_mem_singleton.2 id),
      fun hmem => (List.mem_append.1 hmem).elim h.token fun hnew => (nomatch hnew),
      releasesIn_append.trans (by
        rw [h.unreleased, show (scene.add [.released cursor]).history
          = scene.history ++ [.released cursor] from rfl, openIn_append_of_pagesIn_eq_nil rfl,
          h.latest]
        rfl)⟩
  rw [Scene.enact, hevents]
  split
  · exact hafter.cancel
  · exact hafter

end

end Scene

/-! ## What a consumer does -/

/-- A stream that is not over holds the cursor of the latest page; one that is over has given it
back. -/
def Tale.Tidy (t : Tale) : Prop :=
  match t.standing with
  | .live s | .waiting s => t.scene.Open s.openCursor
  | .closed => t.scene.Closed

namespace Script

variable {script : Script} {s : RowStream} {scene : Scene}

end Script

/-! ## Opening a stream -/

namespace Session

variable {α β : Type}

/-- Played in a scene of some kind, a session that brings something leaves a scene that goes with it
behind; if it fails or waits forever, nothing has come that would have to be given back. -/
def Leads (P : Scene → Prop) (x : Session Staged α) (Q : α → Scene → Prop) : Prop :=
  ∀ cache scene, P scene →
    match x.play cache scene with
    | (some (.ok a, _), after) => Q a after
    | (some (.error _, _), after) | (none, after) => after.Open none

variable {P : Scene → Prop} {x : Session Staged α} {Q : α → Scene → Prop}

/-- One session after the other. -/
theorem Leads.bind (hx : Leads P x Q) {f : α → Session Staged β} {R : β → Scene → Prop}
    (hf : ∀ a, Leads (Q a) (f a) R) : Leads P (x >>= f) R := by
  intro cache scene hscene
  have hx := hx cache scene hscene
  rcases hplay : x.play cache scene with ⟨_ | ⟨cause | a, cache'⟩, after⟩
  · rw [hplay] at hx
    rw [play_bind_none hplay]
    exact hx
  · rw [hplay] at hx
    rw [play_bind_error hplay]
    exact hx
  · rw [hplay] at hx
    rw [play_bind_ok hplay]
    exact hf a cache' after hx

/-- A session, or else what is done about its failure. -/
theorem Leads.tryCatch (hx : Leads P x Q) {handler : Failure → Session Staged α}
    (hhandler : ∀ cause, Leads (Scene.Open none) (handler cause) Q) :
    Leads P (tryCatch x handler) Q := by
  intro cache scene hscene
  have hx := hx cache scene hscene
  rcases hplay : x.play cache scene with ⟨_ | ⟨cause | a, cache'⟩, after⟩
  · rw [hplay] at hx
    rw [play_tryCatch_none hplay]
    exact hx
  · rw [hplay] at hx
    rw [play_tryCatch_error hplay]
    exact hhandler cause cache' after hx
  · rw [hplay] at hx
    rw [play_tryCatch_ok hplay]
    exact hx

/-- Nothing is open, and the caller has not cancelled. -/
def Ready (scene : Scene) : Prop :=
  scene.Open none ∧ scene.cancelled = false

/-- A guarded session is played only while the caller has not cancelled. -/
theorem Leads.guarded (hx : Leads Ready x Q) (script : Script) (activity : Activity) :
    Leads (Scene.Open none) (Engine.guarded script.caller activity x) Q := by
  intro cache scene hscene
  rw [play_guarded]
  cases hc : scene.cancelled with
  | true => exact hscene
  | false => exact hx cache scene ⟨hscene, hc⟩

variable (script : Script)

end Session

/-! ## The whole tale -/

namespace Script

variable {script : Script} {s : RowStream} {scene : Scene}

variable (script)

/-- A connection that keeps a new cursor open with every page and cannot close any. -/
def newCursors : Script where
  kind := .mongodb
  identity := ⟨"numbers"⟩
  clock n := n
  fetch _ := ⟨none, false⟩
  execute _ _ := ⟨some (.answered (.ok ⟨[.positional [.int 1]], some (.cursor "first")⟩)), false⟩
  nextPage _ _ _ :=
    ⟨some (.answered (.ok ⟨[.positional [.int 2]], some (.cursor "second")⟩)), false⟩
  release _ _ := ⟨some (.error .backendUnreachable), false⟩

/-- The second row is at hand when the caller cancels. -/
example :
    (newCursors.tale (.compiled { Config.default with batchSize := 1 }
        ⟨.mongodb, .find "numbers" (.object []) (.object []) none, 0, .rows, .cursor,
          [⟨"c0", .numeric, .value⟩]⟩)
      (.ofCapacity 1 0) false [.turn, .turn, .cancel, .turn, .drop]).scene.history.drop 5
      = [.cancelled, .released (.cursor "second"), .failed .queryCancelled] := by
  decide +kernel

end Script

end Pushdown
