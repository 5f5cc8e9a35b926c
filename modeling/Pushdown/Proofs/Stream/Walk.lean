import Mathlib.Logic.Function.Iterate
import Pushdown.Engine.Stream

/-!
# Walks along a row stream

A row stream asks its connection for pages and hands out rows. A `Peer` is the other side of that
connection: it answers each query in some way, or never. `Wire.history` records in order what goes
over the connection and what is handed out, so that a statement about a history says which rows
come, which pages are asked for and by what, and which of the two comes before the other.

`Peer.walk` is the walk of a consumer that never cancels, turn by turn. Each kind of turn has one
lemma (`Peer.step_row`, `Peer.step_end`, `Peer.step_page`, `Peer.step_failure`,
`Peer.step_silence`); they rest on the lemmas about `RowStream.turn`, which hold in every monad.
-/

namespace Pushdown

/-- What happens along a row stream: a call on the connection, or something handed out. -/
inductive StreamEvent where
  | executed (query : NativeQuery)
  | asked (query : NativeQuery) (continuation : Continuation)
  | released (cursor : Continuation)
  | emitted (values : ResultRow)
  | ended
  | failed (cause : Failure)
  deriving DecidableEq, Repr, Inhabited

/-- The rows handed out in a history. -/
def emittedIn (history : List StreamEvent) : List ResultRow :=
  history.filterMap fun
    | .emitted values => some values
    | _ => none

theorem emittedIn_append (history history' : List StreamEvent) :
    emittedIn (history ++ history') = emittedIn history ++ emittedIn history' :=
  List.filterMap_append

/-- What has happened along a stream so far. -/
structure Wire where
  /-- The number of queries sent. -/
  queries : Nat
  history : List StreamEvent
  deriving DecidableEq, Repr, Inhabited

/-- Computations along a stream. One that waits for an answer that never comes has no result, but
what it has sent stays sent. -/
abbrev Wired := OptionT (StateM Wire)

namespace Wired

variable {α β : Type} {x : Wired α} {f : α → Wired β} {wire wire' : Wire}

/-- What comes of a computation, and what has happened by then. -/
def exec (x : Wired α) (wire : Wire) : Option α × Wire :=
  x.run.run wire

@[simp] theorem exec_pure (a : α) : exec (pure a) wire = (some a, wire) := rfl

/-- A computation goes on with what the one before it brings. -/
theorem exec_bind_some {a : α} (h : x.exec wire = (some a, wire')) :
    (x >>= f).exec wire = (f a).exec wire' := by
  unfold exec at h ⊢
  simp only [OptionT.run_bind, Option.elimM, StateT.run_bind, h]
  rfl

/-- A computation whose first part waits forever does so itself. -/
theorem exec_bind_none (h : x.exec wire = (none, wire')) :
    (x >>= f).exec wire = (none, wire') := by
  unfold exec at h ⊢
  simp only [OptionT.run_bind, Option.elimM, StateT.run_bind, h]
  rfl

end Wired

/-- A caller that never cancels. -/
def Caller.patient {m : Type → Type} [Monad m] : Caller m where
  now := pure 0
  cancelled := pure false

/-! ## The turns of a stream whose caller does not cancel -/

namespace RowStream

/-- The stream once all its rows are handed out. -/
def drained (s : RowStream) : RowStream := { s with buffer := [] }

variable {m : Type → Type} [Monad m] [LawfulMonad m] {link : Connection m} {s : RowStream}

/-- A row at hand is handed out. -/
theorem turn_of_row {row : NativeRow} {rest : List NativeRow} (hb : s.buffer = row :: rest) :
    s.turn link .patient
      = pure (.row (normalize s.compiled.outputs row) { s with buffer := rest }) := by
  simp [turn, Caller.patient, hb]

/-- A stream without rows and without another page is over. -/
theorem turn_of_end (hb : s.buffer = []) (hn : s.next = none) :
    s.turn link .patient = (do s.release link; return .ended) := by
  simp [turn, Caller.patient, hb, hn]

/-- A stream without rows asks for the page that follows. -/
theorem turn_of_page {continuation : Continuation} (hb : s.buffer = [])
    (hn : s.next = some continuation) :
    s.turn link .patient = (do
      let reply ← link.nextPage (s.pageQuery continuation) continuation s.pageTimeout
      match reply.result .pageFetch .pageFetch s.pageTimeout with
      | .ok page => return .page (s.absorb page)
      | .error cause => s.release link; return .failed cause) := by
  have hfetch : s.fetch link .patient continuation = (do
      let reply ← link.nextPage (s.pageQuery continuation) continuation s.pageTimeout
      return reply.result .pageFetch .pageFetch s.pageTimeout) :=
    pure_bind false _
  have hturn : s.turn link .patient = (do
      match ← s.fetch link .patient continuation with
      | .ok page => return .page (s.absorb page)
      | .error cause => s.release link; return .failed cause) := by
    obtain ⟨_, _, _, buffer, next, _, _⟩ := s
    cases hb
    cases hn
    exact pure_bind false _
  rw [hturn, hfetch, bind_assoc]
  refine bind_congr fun reply => ?_
  rw [pure_bind]

end RowStream

/-! ## The other side -/

/-- The other side of a connection. -/
structure Peer where
  kind : BackendKind
  /-- The answer to a query, given how many queries came before it, if there ever is one. -/
  page : Nat → NativeQuery → Option (Except Failure Page)
  /-- What comes of giving a cursor back. -/
  release : Continuation → Except Failure Unit

namespace Peer

/-- The peer that answers queries in turn, whatever they are. -/
def ofScript (kind : BackendKind) (script : Nat → Option (Except Failure Page))
    (release : Continuation → Except Failure Unit) : Peer :=
  { kind, page := fun n _ => script n, release }

/-- Sends a query and waits for its answer. -/
def send (peer : Peer) (event : StreamEvent) (query : NativeQuery) : Wired (Reply Page) :=
  OptionT.mk fun wire =>
    ((peer.page wire.queries query).map .answered, ⟨wire.queries + 1, wire.history ++ [event]⟩)

/-- Records an event. -/
def record (event : StreamEvent) : Wired Unit :=
  OptionT.mk fun wire => (some (), { wire with history := wire.history ++ [event] })

/-- The connection to a peer. -/
def connection (peer : Peer) : Connection Wired where
  kind := peer.kind
  identity := default
  connect _ := return .answered (.ok ())
  fetchSchema _ := return .answered (.ok [])
  execute query _ := peer.send (.executed query) query
  nextPage query continuation _ := peer.send (.asked query continuation) query
  release cursor := do
    record (.released cursor)
    return peer.release cursor
  close := return .ok ()

end Peer

/-- Where a stream stands. -/
inductive Standing where
  | live (s : RowStream)
  | finished
  /-- An answer is waited for that never comes. -/
  | waiting
  deriving DecidableEq, Repr, Inhabited

/-- A stream on its way. -/
structure Walk where
  standing : Standing
  wire : Wire
  deriving DecidableEq, Repr, Inhabited

/-! ## Opening a stream -/

section
variable {m : Type → Type} [Monad m]

/-- Runs a compiled query for its first page. -/
def RowStream.firstPage (config : Config) (link : Connection m) (compiled : CompiledQuery) :
    m (Except Failure Page) := do
  let budget := config.queryTimeout
  let reply ← link.execute (link.kind.pageQuery compiled none config.batchSize) budget
  return reply.result .query .query budget

/-- Opens the stream of the rows of a compiled query. -/
def RowStream.opened (config : Config) (link : Connection m) (compiled : CompiledQuery) :
    m (Except Failure RowStream) := do
  return (← firstPage config link compiled).map (RowStream.ofCompiled config compiled).absorb

variable [LawfulMonad m] {caller : Caller m}

/-- A computation is begun if the caller has not cancelled. -/
theorem Engine.guarded_of_not_cancelled {α : Type} (hc : caller.cancelled = pure false)
    (activity : Activity) (session : Session m α) : guarded caller activity session = session := by
  have h : (ExceptT.lift (StateT.lift (pure false)) : Session m Bool) = pure false := by
    funext cache
    change StateT.map Except.ok (StateT.lift (pure false)) cache = pure (.ok false, cache)
    simp [StateT.map, StateT.lift]
  simp [guarded, hc, h]

/-- An engine runs a request that has a plan by running the compiled query of the plan for its
first page, so that `RowStream.opened` is the stream of the request. -/
theorem Engine.start_of_build (e : Engine) {link : Connection m} {request : Request}
    {schema : Schema} {plan : Plan} (hc : caller.cancelled = pure false)
    (hp : Plan.build link.kind.filterOptions schema request = .ok plan) :
    e.start link caller request schema = do
      let page ← effect (RowStream.firstPage e.config link (link.kind.compile plan))
      return (link.kind.compile plan, page) := by
  simp only [Engine.start, hp, guarded_of_not_cancelled hc, RowStream.firstPage,
    MonadExcept.ofExcept, pure_bind]

end

namespace Peer

variable (peer : Peer)

/-- The walk along the stream of a compiled query before its first turn. -/
def start (config : Config) (compiled : CompiledQuery) : Walk :=
  match (RowStream.opened config peer.connection compiled).exec ⟨0, []⟩ with
  | (some (.ok s), wire) => ⟨.live s, wire⟩
  | (some (.error cause), wire) =>
    ⟨.finished, { wire with history := wire.history ++ [.failed cause] }⟩
  | (none, wire) => ⟨.waiting, wire⟩

/-- One turn of a walk. -/
def step (w : Walk) : Walk :=
  match w.standing with
  | .live s =>
    match (s.turn peer.connection .patient).exec w.wire with
    | (some (.row values rest), wire) =>
      ⟨.live rest, { wire with history := wire.history ++ [.emitted values] }⟩
    | (some (.page rest), wire) => ⟨.live rest, wire⟩
    | (some .ended, wire) => ⟨.finished, { wire with history := wire.history ++ [.ended] }⟩
    | (some (.failed cause), wire) =>
      ⟨.finished, { wire with history := wire.history ++ [.failed cause] }⟩
    | (none, wire) => ⟨.waiting, wire⟩
  | .finished | .waiting => w

/-- The walk along the stream of a compiled query after some turns. -/
def walk (config : Config) (compiled : CompiledQuery) (turns : Nat) : Walk :=
  peer.step^[turns] (peer.start config compiled)

/-! ## What a turn does to a walk -/

/-- The events of giving a cursor back, if there is one. -/
def releasing (cursor : Option Continuation) : List StreamEvent :=
  (cursor.map .released).toList

theorem emittedIn_releasing (cursor : Option Continuation) : emittedIn (releasing cursor) = [] := by
  cases cursor <;> rfl

variable {peer} {s : RowStream} {wire : Wire}

/-- Giving the open cursor back is recorded, whatever comes of it. -/
theorem exec_release :
    (s.release peer.connection).exec wire
      = (some (), { wire with history := wire.history ++ releasing s.openCursor }) := by
  unfold RowStream.release
  cases s.openCursor with
  | none => simp [releasing]
  | some cursor => rfl

/-- A row at hand is handed out. -/
theorem step_row {row : NativeRow} {rest : List NativeRow} (hb : s.buffer = row :: rest) :
    peer.step ⟨.live s, wire⟩
      = ⟨.live { s with buffer := rest }, { wire with
          history := wire.history ++ [.emitted (normalize s.compiled.outputs row)] }⟩ := by
  simp only [step, RowStream.turn_of_row hb, Wired.exec_pure]

/-- A stream without rows and without another page gives its cursor back and ends. -/
theorem step_end (hb : s.buffer = []) (hn : s.next = none) :
    peer.step ⟨.live s, wire⟩
      = ⟨.finished,
          { wire with history := wire.history ++ releasing s.openCursor ++ [.ended] }⟩ := by
  simp only [step, RowStream.turn_of_end hb hn, Wired.exec_bind_some exec_release,
    Wired.exec_pure]

/-- What has happened once a page is asked for. -/
def asking (wire : Wire) (query : NativeQuery) (continuation : Continuation) : Wire :=
  ⟨wire.queries + 1, wire.history ++ [.asked query continuation]⟩

variable (peer wire) in
/-- Asking for a page brings the answer of the peer. -/
theorem exec_nextPage (query : NativeQuery) (continuation : Continuation) (budget : Nat) :
    (peer.connection.nextPage query continuation budget).exec wire
      = ((peer.page wire.queries query).map .answered, asking wire query continuation) := rfl

/-- A page that comes is taken in. -/
theorem step_page {continuation : Continuation} {page : Page} (hb : s.buffer = [])
    (hn : s.next = some continuation)
    (hp : peer.page wire.queries (s.pageQuery continuation) = some (.ok page)) :
    peer.step ⟨.live s, wire⟩
      = ⟨.live (s.absorb page), asking wire (s.pageQuery continuation) continuation⟩ := by
  have hx := exec_nextPage peer wire (s.pageQuery continuation) continuation s.pageTimeout
  rw [hp] at hx
  simp only [step, RowStream.turn_of_page hb hn, Wired.exec_bind_some hx, Reply.result,
    Wired.exec_pure]

/-- A failure that comes in place of a page ends the stream; its cursor is given back. -/
theorem step_failure {continuation : Continuation} {cause : Failure} (hb : s.buffer = [])
    (hn : s.next = some continuation)
    (hp : peer.page wire.queries (s.pageQuery continuation) = some (.error cause)) :
    peer.step ⟨.live s, wire⟩
      = ⟨.finished, ⟨wire.queries + 1,
          wire.history ++ [.asked (s.pageQuery continuation) continuation]
            ++ releasing s.openCursor ++ [.failed cause]⟩⟩ := by
  have hx := exec_nextPage peer wire (s.pageQuery continuation) continuation s.pageTimeout
  rw [hp] at hx
  simp only [step, RowStream.turn_of_page hb hn, Wired.exec_bind_some hx, Reply.result,
    Wired.exec_bind_some exec_release, Wired.exec_pure, asking]

/-- A page that never comes is waited for. -/
theorem step_silence {continuation : Continuation} (hb : s.buffer = [])
    (hn : s.next = some continuation)
    (hp : peer.page wire.queries (s.pageQuery continuation) = none) :
    peer.step ⟨.live s, wire⟩
      = ⟨.waiting, asking wire (s.pageQuery continuation) continuation⟩ := by
  have hx := exec_nextPage peer wire (s.pageQuery continuation) continuation s.pageTimeout
  rw [hp] at hx
  simp only [step, RowStream.turn_of_page hb hn, Wired.exec_bind_none hx]

/-- A walk whose first page comes starts with the stream of that page. -/
theorem start_of_page {config : Config} {compiled : CompiledQuery} {page : Page}
    (hp : peer.page 0 (peer.kind.pageQuery compiled none config.batchSize) = some (.ok page)) :
    peer.start config compiled
      = ⟨.live ((RowStream.ofCompiled config compiled).absorb page),
          ⟨1, [.executed (peer.kind.pageQuery compiled none config.batchSize)]⟩⟩ := by
  have hx : (peer.connection.execute (peer.kind.pageQuery compiled none config.batchSize)
      config.queryTimeout).exec ⟨0, []⟩
        = (some (.answered (.ok page)),
            ⟨1, [.executed (peer.kind.pageQuery compiled none config.batchSize)]⟩) := by
    change ((peer.page 0 _).map _, _) = _
    rw [hp]
    rfl
  have hf : (RowStream.firstPage config peer.connection compiled).exec ⟨0, []⟩
      = (some (.ok page),
          ⟨1, [.executed (peer.kind.pageQuery compiled none config.batchSize)]⟩) :=
    Wired.exec_bind_some hx
  rw [start, RowStream.opened, Wired.exec_bind_some hf]
  rfl

/-! ## Several turns -/

/-- The rows at hand are handed out one by one, and nothing else happens meanwhile. -/
theorem iterate_step_buffer (s : RowStream) (wire : Wire) :
    peer.step^[s.buffer.length] ⟨.live s, wire⟩
      = ⟨.live s.drained, { wire with
          history := wire.history
            ++ s.buffer.map fun row => .emitted (normalize s.compiled.outputs row) }⟩ := by
  generalize hb : s.buffer = rows
  induction rows generalizing s wire with
  | nil =>
    have hs : s.drained = s := by rw [RowStream.drained, ← hb]
    simp [hs]
  | cons row rest ih =>
    rw [List.length_cons, Function.iterate_succ_apply, step_row hb, ih _ _ rfl]
    simp [RowStream.drained]

/-- What has happened stays as it is: a turn adds to the history. -/
theorem history_step (w : Walk) : w.wire.history <+: (peer.step w).wire.history := by
  obtain ⟨standing, wire⟩ := w
  cases standing with
  | finished | waiting => exact List.prefix_rfl
  | live s =>
    cases hb : s.buffer with
    | cons row rest => rw [step_row hb]; exact List.prefix_append _ _
    | nil =>
      cases hn : s.next with
      | none => rw [step_end hb hn, List.append_assoc]; exact List.prefix_append _ _
      | some continuation =>
        rcases hp : peer.page wire.queries (s.pageQuery continuation) with _ | cause | page
        · rw [step_silence hb hn hp]; exact List.prefix_append _ _
        · rw [step_failure hb hn hp, List.append_assoc, List.append_assoc]
          exact List.prefix_append _ _
        · rw [step_page hb hn hp]; exact List.prefix_append _ _

variable (peer) in
/-- From some turn on a walk stands so, with this history. -/
def ComesToRest (config : Config) (compiled : CompiledQuery) (standing : Standing)
    (history : List StreamEvent) : Prop :=
  ∃ turns, ∀ n, turns ≤ n → (peer.walk config compiled n).standing = standing
    ∧ (peer.walk config compiled n).wire.history = history

/-- A walk comes to rest with one history only. -/
theorem ComesToRest.history_unique {config : Config} {compiled : CompiledQuery}
    {standing standing' : Standing} {history history' : List StreamEvent}
    (h : peer.ComesToRest config compiled standing history)
    (h' : peer.ComesToRest config compiled standing' history') : history = history' := by
  obtain ⟨turns, hrest⟩ := h
  obtain ⟨turns', hrest'⟩ := h'
  rw [← (hrest _ (Nat.le_max_left turns turns')).2, (hrest' _ (Nat.le_max_right turns turns')).2]

/-- A walk whose stream is over, or which waits, has come to rest. -/
theorem comesToRest {config : Config} {compiled : CompiledQuery} {standing : Standing}
    {history : List StreamEvent} (turns queries : Nat) (hs : ∀ s, standing ≠ .live s)
    (hw : peer.walk config compiled turns = ⟨standing, ⟨queries, history⟩⟩) :
    peer.ComesToRest config compiled standing history := by
  have hstep : peer.step ⟨standing, ⟨queries, history⟩⟩ = ⟨standing, ⟨queries, history⟩⟩ := by
    cases standing with
    | live s => exact absurd rfl (hs s)
    | finished | waiting => rfl
  refine ⟨turns, fun n hn => ?_⟩
  obtain ⟨k, rfl⟩ := Nat.exists_eq_add_of_le hn
  rw [walk, Nat.add_comm, Function.iterate_add_apply, ← walk, hw, Function.iterate_fixed hstep]
  exact ⟨rfl, rfl⟩

end Peer

end Pushdown
