import Pushdown.Proofs.Stream.Walk

/-!
# A row stream walks the pages

Which pages a stream asks for, and by what, is read off the pages themselves: `Page.IsLast` says
that none follows, `followUp` what the next one is asked for by. `shownThrough` is the history of a
stream up to the last row of a page: the query that is run first, its rows, and then for every page
in order that it is asked for and its rows.

`RowStream.afterPage` is the stream when a page has just come. It is the invariant that ties the
rows at hand and the counters of a stream to the pages seen so far: `Peer.reaches_page` carries it
from page to page, and the ways in which a walk can end are read off it.
-/

namespace Pushdown

variable (compiled : CompiledQuery) (batchSize : Nat) (pages : Nat → Page)

/-- Whether no page follows. -/
def Page.IsLast (strategy : PageStrategy) (batchSize : Nat) (page : Page) : Prop :=
  strategy = .singleShot ∨ page.rows.length < batchSize
    ∨ (strategy = .cursor ∨ strategy = .afterKey) ∧ page.continuation = none

instance (strategy : PageStrategy) (batchSize : Nat) (page : Page) :
    Decidable (page.IsLast strategy batchSize) :=
  inferInstanceAs (Decidable (_ ∨ _ ∨ _ ∧ _))

/-- The number of rows of the pages up to one, that one included. -/
def rowsThrough : Nat → Nat
  | 0 => (pages 0).rows.length
  | k + 1 => rowsThrough k + (pages (k + 1)).rows.length

/-- What the page after one is asked for by. -/
def followUp (strategy : PageStrategy) (k : Nat) : Option Continuation :=
  match strategy with
  | .singleShot => none
  | .offset => some (.offset (rowsThrough pages k))
  | .cursor | .afterKey => (pages k).continuation

/-- The query for a page. -/
def queryFor : Nat → NativeQuery
  | 0 => compiled.backend.pageQuery compiled none batchSize
  | k + 1 => compiled.backend.pageQuery compiled (followUp pages compiled.strategy k) batchSize

/-- The rows a page brings. A query over everything has a row even if nothing was found. -/
def rowsBrought : Nat → List NativeRow
  | 0 =>
    (if compiled.shape = .aggregate ∧ (pages 0).rows = [] then
        [emptyAggregate compiled.outputs]
      else [])
      ++ (pages 0).rows
  | k + 1 => (pages (k + 1)).rows

/-- The rows of a page being handed out. -/
def emitting (k : Nat) : List StreamEvent :=
  (rowsBrought compiled pages k).map fun row => .emitted (normalize compiled.outputs row)

/-- The page after one being asked for. -/
def askingAfter (k : Nat) : List StreamEvent :=
  ((followUp pages compiled.strategy k).map fun continuation =>
    .asked (compiled.backend.pageQuery compiled (some continuation) batchSize) continuation).toList

/-- The cursor of a page being given back, if it has one. -/
def releasingAfter (k : Nat) : List StreamEvent :=
  Peer.releasing ((pages k).continuation.filter Continuation.isCursor)

/-- The history up to the last row of a page. -/
def shownThrough : Nat → List StreamEvent
  | 0 => .executed (queryFor compiled batchSize pages 0) :: emitting compiled pages 0
  | k + 1 =>
    shownThrough k ++ askingAfter compiled batchSize pages k ++ emitting compiled pages (k + 1)

variable {compiled pages} in
/-- The pages of a result that may have more than one row bring their own rows. -/
theorem rowsBrought_of_shape_ne (hshape : compiled.shape ≠ .aggregate) (k : Nat) :
    rowsBrought compiled pages k = (pages k).rows := by
  cases k with
  | zero =>
    rw [rowsBrought, if_neg, List.nil_append]
    exact fun h => hshape h.1
  | succ k => rfl

variable {compiled batchSize pages} in
/-- The rows handed out up to the last row of a page are those the pages bring, in order. -/
theorem emittedIn_shownThrough (k : Nat) :
    emittedIn (shownThrough compiled batchSize pages k)
      = ((List.range (k + 1)).flatMap (rowsBrought compiled pages)).map
          (normalize compiled.outputs) := by
  have hrows (k : Nat) : emittedIn (emitting compiled pages k)
      = (rowsBrought compiled pages k).map (normalize compiled.outputs) := by
    rw [emittedIn, emitting, List.filterMap_map]
    exact congrFun List.filterMap_eq_map _
  have hasked (k : Nat) : emittedIn (askingAfter compiled batchSize pages k) = [] := by
    unfold askingAfter
    cases followUp pages compiled.strategy k <;> rfl
  induction k with
  | zero => simpa [shownThrough, emittedIn] using hrows 0
  | succ k ih =>
    rw [shownThrough, emittedIn_append, emittedIn_append, ih, hasked, hrows, List.append_nil,
      ← List.map_append, List.range_succ (n := k + 1), List.flatMap_append,
      List.flatMap_singleton]

/-- The stream when a page has just come. -/
def RowStream.afterPage (pageTimeout k : Nat) : RowStream :=
  { compiled, batchSize, pageTimeout
    buffer := rowsBrought compiled pages k
    next :=
      if (pages k).IsLast compiled.strategy batchSize then none
      else followUp pages compiled.strategy k
    openCursor := (pages k).continuation.filter Continuation.isCursor
    fetched := rowsThrough pages k }

variable {compiled batchSize pages}

/-- A stream goes on from a page as `Page.IsLast` and `followUp` say. -/
theorem continuationAfter_page (k : Nat) :
    RowStream.continuationAfter compiled.strategy (batchSize ≤ (pages k).rows.length)
        (rowsThrough pages k) (pages k)
      = if (pages k).IsLast compiled.strategy batchSize then none
        else followUp pages compiled.strategy k := by
  unfold RowStream.continuationAfter followUp Page.IsLast
  rcases Nat.lt_or_ge (pages k).rows.length batchSize with h | h
  · cases compiled.strategy <;> simp [h, Nat.not_le.2 h]
  · cases compiled.strategy with
    | singleShot => simp
    | offset => simp [h, Nat.not_lt.2 h]
    | cursor | afterKey => simp [h, Nat.not_lt.2 h, eq_comm]

/-- A page that is not the last one is full, so rows have come with it. -/
theorem rowsThrough_pos (hb : 0 < batchSize) {k : Nat}
    (hk : ¬ (pages k).IsLast compiled.strategy batchSize) : 0 < rowsThrough pages k := by
  have hfull : batchSize ≤ (pages k).rows.length :=
    Nat.le_of_not_lt fun h => hk (.inr (.inl h))
  cases k with
  | zero => exact Nat.lt_of_lt_of_le hb hfull
  | succ k => exact Nat.lt_of_lt_of_le hb (Nat.le_trans hfull (Nat.le_add_left _ _))

/-- After a page that is not the last one there is something to ask the next one for by. -/
theorem followUp_eq_some {k : Nat} (hk : ¬ (pages k).IsLast compiled.strategy batchSize) :
    ∃ continuation, followUp pages compiled.strategy k = some continuation := by
  unfold Page.IsLast at hk
  unfold followUp
  cases hs : compiled.strategy with
  | singleShot => simp [hs] at hk
  | offset => exact ⟨_, rfl⟩
  | cursor | afterKey =>
    simp only [hs, true_or, or_true, true_and, not_or] at hk
    exact Option.ne_none_iff_exists'.1 hk.2.2

/-- The stream once its first page has come. -/
theorem absorb_first (config : Config) :
    (RowStream.ofCompiled config compiled).absorb (pages 0)
      = .afterPage compiled config.batchSize pages config.pageTimeout 0 := by
  have hrows : (RowStream.ofCompiled config compiled).rowsOf (pages 0)
      = rowsBrought compiled pages 0 := by
    unfold RowStream.rowsOf rowsBrought
    by_cases h : (pages 0).rows = []
    · by_cases hs : compiled.shape = .aggregate <;> simp [RowStream.ofCompiled, h, hs]
    · simp [h]
  unfold RowStream.absorb RowStream.afterPage
  rw [hrows, ← continuationAfter_page 0]
  simp only [RowStream.ofCompiled, rowsThrough, List.nil_append, Nat.zero_add]
  rfl

/-- The stream once a later page has come: its rows are the rows of the page. -/
theorem absorb_next {pageTimeout k : Nat} (hpos : 0 < rowsThrough pages k) :
    (RowStream.afterPage compiled batchSize pages pageTimeout k).drained.absorb (pages (k + 1))
      = .afterPage compiled batchSize pages pageTimeout (k + 1) := by
  unfold RowStream.absorb RowStream.drained RowStream.afterPage
  rw [← continuationAfter_page (k + 1)]
  simp [RowStream.rowsOf, rowsBrought, rowsThrough, Nat.ne_of_gt hpos]

/-- The page after one is asked for once, by what follows from the pages so far. -/
theorem askingAfter_eq {k : Nat} {continuation : Continuation}
    (hf : followUp pages compiled.strategy k = some continuation) :
    askingAfter compiled batchSize pages k
      = [.asked (queryFor compiled batchSize pages (k + 1)) continuation] := by
  simp [askingAfter, queryFor, hf]

section
variable {pageTimeout k : Nat} {continuation : Continuation}

theorem next_afterPage_of_isLast (hk : (pages k).IsLast compiled.strategy batchSize) :
    (RowStream.afterPage compiled batchSize pages pageTimeout k).drained.next = none :=
  if_pos hk

theorem next_afterPage_of_not_isLast (hk : ¬ (pages k).IsLast compiled.strategy batchSize)
    (hf : followUp pages compiled.strategy k = some continuation) :
    (RowStream.afterPage compiled batchSize pages pageTimeout k).drained.next
      = some continuation :=
  (if_neg hk).trans hf

variable (pageTimeout) in
theorem pageQuery_afterPage (hf : followUp pages compiled.strategy k = some continuation) :
    (RowStream.afterPage compiled batchSize pages pageTimeout k).drained.pageQuery continuation
      = queryFor compiled batchSize pages (k + 1) := by
  rw [queryFor, hf]
  rfl

end

/-! ## From page to page -/

/-- A peer answers the queries up to a page with pages, and the stream asks for all of them. -/
structure Peer.Serves (peer : Peer) (config : Config) (compiled : CompiledQuery)
    (pages : Nat → Page) (k : Nat) : Prop where
  kind : peer.kind = compiled.backend
  page : ∀ j ≤ k,
    peer.page j (queryFor compiled config.batchSize pages j) = some (.ok (pages j))
  goesOn : ∀ j < k, ¬ (pages j).IsLast compiled.strategy config.batchSize

namespace Peer

variable {peer : Peer} {config : Config} {k : Nat}

theorem Serves.of_succ (h : peer.Serves config compiled pages (k + 1)) :
    peer.Serves config compiled pages k where
  kind := h.kind
  page j hj := h.page j (Nat.le_succ_of_le hj)
  goesOn j hj := h.goesOn j (Nat.lt_succ_of_lt hj)

/-- A walk that is at a page comes to its last row, having shown the rows of the page. -/
theorem walk_through_page (turns : Nat) {queries : Nat} {history : List StreamEvent}
    (h : peer.walk config compiled turns
      = ⟨.live (.afterPage compiled config.batchSize pages config.pageTimeout k),
          ⟨queries, history⟩⟩) :
    ∃ turns, peer.walk config compiled turns
      = ⟨.live (RowStream.afterPage compiled config.batchSize pages config.pageTimeout k).drained,
          ⟨queries, history ++ emitting compiled pages k⟩⟩ := by
  refine ⟨(rowsBrought compiled pages k).length + turns, ?_⟩
  rw [walk, Function.iterate_add_apply, ← walk, h]
  exact iterate_step_buffer (RowStream.afterPage compiled config.batchSize pages
    config.pageTimeout k) _

/-- The walk comes to the last row of every page the stream asks for, having shown all pages up to
it. -/
theorem reaches_page (hb : 0 < config.batchSize) (h : peer.Serves config compiled pages k) :
    ∃ turns, peer.walk config compiled turns
      = ⟨.live (RowStream.afterPage compiled config.batchSize pages config.pageTimeout k).drained,
          ⟨k + 1, shownThrough compiled config.batchSize pages k⟩⟩ := by
  induction k with
  | zero =>
    have hp := h.page 0 (Nat.le_refl 0)
    rw [queryFor, ← h.kind] at hp
    have hw : peer.walk config compiled 0
        = ⟨.live (.afterPage compiled config.batchSize pages config.pageTimeout 0),
            ⟨1, [.executed (queryFor compiled config.batchSize pages 0)]⟩⟩ := by
      rw [walk, Function.iterate_zero_apply, start_of_page hp, absorb_first, queryFor, h.kind]
    exact walk_through_page 0 hw
  | succ k ih =>
    obtain ⟨turns, hw⟩ := ih h.of_succ
    have hopen := h.goesOn k (Nat.lt_succ_self k)
    obtain ⟨continuation, hf⟩ := followUp_eq_some hopen
    have hp := h.page (k + 1) (Nat.le_refl _)
    rw [← pageQuery_afterPage config.pageTimeout hf] at hp
    refine walk_through_page (turns + 1) ?_
    rw [walk, Function.iterate_succ_apply', ← walk, hw,
      step_page rfl (next_afterPage_of_not_isLast hopen hf) hp,
      absorb_next (rowsThrough_pos hb hopen), asking, pageQuery_afterPage _ hf, askingAfter_eq hf]

/-! ## How a walk ends -/

/-- After the last page the cursor is given back and the stream is over. -/
theorem comesToRest_of_isLast (hb : 0 < config.batchSize)
    (h : peer.Serves config compiled pages k)
    (hk : (pages k).IsLast compiled.strategy config.batchSize) :
    peer.ComesToRest config compiled .finished
      (shownThrough compiled config.batchSize pages k ++ releasingAfter pages k ++ [.ended]) := by
  obtain ⟨turns, hw⟩ := reaches_page hb h
  refine comesToRest (turns + 1) (k + 1) (by simp) ?_
  rw [walk, Function.iterate_succ_apply', ← walk, hw, step_end rfl (next_afterPage_of_isLast hk)]
  rfl

/-- A failure in place of a page is handed out as it is, and the stream is over. -/
theorem comesToRest_of_failure {cause : Failure} (hb : 0 < config.batchSize)
    (h : peer.Serves config compiled pages k)
    (hk : ¬ (pages k).IsLast compiled.strategy config.batchSize)
    (hp : peer.page (k + 1) (queryFor compiled config.batchSize pages (k + 1))
      = some (.error cause)) :
    peer.ComesToRest config compiled .finished
      (shownThrough compiled config.batchSize pages k
        ++ askingAfter compiled config.batchSize pages k ++ releasingAfter pages k
        ++ [.failed cause]) := by
  obtain ⟨turns, hw⟩ := reaches_page hb h
  obtain ⟨continuation, hf⟩ := followUp_eq_some hk
  rw [← pageQuery_afterPage config.pageTimeout hf] at hp
  refine comesToRest (turns + 1) (k + 2) (by simp) ?_
  rw [walk, Function.iterate_succ_apply', ← walk, hw,
    step_failure rfl (next_afterPage_of_not_isLast hk hf) hp, pageQuery_afterPage _ hf,
    askingAfter_eq hf]
  rfl

/-- A page that never comes is asked for and waited for. -/
theorem comesToRest_of_silence (hb : 0 < config.batchSize)
    (h : peer.Serves config compiled pages k)
    (hk : ¬ (pages k).IsLast compiled.strategy config.batchSize)
    (hp : peer.page (k + 1) (queryFor compiled config.batchSize pages (k + 1)) = none) :
    peer.ComesToRest config compiled .waiting
      (shownThrough compiled config.batchSize pages k
        ++ askingAfter compiled config.batchSize pages k) := by
  obtain ⟨turns, hw⟩ := reaches_page hb h
  obtain ⟨continuation, hf⟩ := followUp_eq_some hk
  rw [← pageQuery_afterPage config.pageTimeout hf] at hp
  refine comesToRest (turns + 1) (k + 2) (by simp) ?_
  rw [walk, Function.iterate_succ_apply', ← walk, hw,
    step_silence rfl (next_afterPage_of_not_isLast hk hf) hp, asking, pageQuery_afterPage _ hf,
    askingAfter_eq hf]

/-- **The stream of a compiled query walks the pages.** Let the answers to its queries be a script
whose first pages are `pages 0, …, pages k`, none but the last of which is the last one of the
query. Then the stream comes to the end of page `k` with the history `shownThrough`: the first
query, the rows of its page, and for each later page that it is asked for, once and by what follows
from the pages before it, and after that its rows. If page `k` is the last one, the stream is over
after its rows. Otherwise the next page is asked for: a failure in its place is handed out as it
is and ends the stream, and an answer that never comes is waited for. Histories only ever grow, so
nothing else happens in between or afterwards. -/
theorem walk_ofScript {script : Nat → Option (Except Failure Page)}
    {release : Continuation → Except Failure Unit} (hb : 0 < config.batchSize)
    (hpages : ∀ j ≤ k, script j = some (.ok (pages j)))
    (hopen : ∀ j < k, ¬ (pages j).IsLast compiled.strategy config.batchSize) :
    let peer := Peer.ofScript compiled.backend script release
    let shown := shownThrough compiled config.batchSize pages k
    let asked := askingAfter compiled config.batchSize pages k
    let released := releasingAfter pages k
    (∀ n, (peer.walk config compiled n).wire.history
        <+: (peer.walk config compiled (n + 1)).wire.history)
      ∧ (∃ n, (peer.walk config compiled n).wire.history = shown)
      ∧ emittedIn shown
          = ((List.range (k + 1)).flatMap (rowsBrought compiled pages)).map
              (normalize compiled.outputs)
      ∧ ((pages k).IsLast compiled.strategy config.batchSize →
          peer.ComesToRest config compiled .finished (shown ++ released ++ [.ended]))
      ∧ (¬ (pages k).IsLast compiled.strategy config.batchSize →
          (∀ cause, script (k + 1) = some (.error cause) →
            peer.ComesToRest config compiled .finished
              (shown ++ asked ++ released ++ [.failed cause]))
          ∧ (script (k + 1) = none →
            peer.ComesToRest config compiled .waiting (shown ++ asked))) := by
  intro peer shown asked released
  have hserves : peer.Serves config compiled pages k := ⟨rfl, hpages, hopen⟩
  refine ⟨fun n => ?_, ?_, emittedIn_shownThrough k, fun hk => ?_, fun hk => ⟨fun cause hp => ?_,
    fun hp => ?_⟩⟩
  · rw [walk, walk, Function.iterate_succ_apply']
    exact history_step _
  · obtain ⟨n, hw⟩ := reaches_page hb hserves
    exact ⟨n, by rw [hw]⟩
  · exact comesToRest_of_isLast hb hserves hk
  · exact comesToRest_of_failure hb hserves hk hp
  · exact comesToRest_of_silence hb hserves hk hp

/-- A query over one column of numbers. -/
def oneColumn : CompiledQuery :=
  ⟨.postgres, .statement "SELECT 1" [1], 0, .rows, .offset, [⟨"c0", .numeric, .value⟩]⟩

/-- A page with a row and then pages without any. -/
def oneRow : Nat → Page
  | 0 => ⟨[.positional [.int 7]], none⟩
  | _ => ⟨[], none⟩

/-- With room for one row in a page the only row fills the first one, so an empty page is asked
for before the stream is over. -/
theorem walk_ofScript_oneRow :
    (ofScript .postgres (fun n => some (.ok (oneRow n))) fun _ => .ok ()).ComesToRest
      { Config.default with batchSize := 1 } oneColumn .finished
      [ .executed (BackendKind.postgres.pageQuery oneColumn none 1),
        .emitted [.int 7],
        .asked (BackendKind.postgres.pageQuery oneColumn (some (.offset 1)) 1) (.offset 1),
        .ended ] := by
  have hlast : (oneRow 1).IsLast oneColumn.strategy 1 := by decide
  have hopen : ∀ j < 1, ¬ (oneRow j).IsLast oneColumn.strategy 1 := by
    intro j hj
    obtain rfl := Nat.lt_one_iff.1 hj
    decide
  have hroom : 0 < ({ Config.default with batchSize := 1 } : Config).batchSize := Nat.zero_lt_one
  exact (walk_ofScript hroom (fun _ _ => rfl) hopen).2.2.2.1 hlast

end Peer

end Pushdown
