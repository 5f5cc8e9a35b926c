import Pushdown.Document.Flatten
import Pushdown.Proofs.Stream.OffsetPages

/-!
# Paging by cursor

A document store hands out a result in batches of a cursor. The batch that closes the cursor says
so by the cursor id zero, and a batch may be smaller than what was asked for although more follow.
A stream does not look at the id alone: a batch that is not full ends it, as the end of every other
result does. `Document.batchesRead` are therefore the batches up to the first that is not full, and
`Peer.handsOut_batches` is that a stream hands out the documents of these, in order. Nothing is lost
if only the last batch is not full; `Peer.not_handsOut_cutShort` is a cursor where it is otherwise.
-/

namespace Pushdown

namespace Document

/-- A batch of a cursor: some documents, and the id of the cursor after them. -/
structure Batch where
  documents : List Members
  cursorId : Int
  deriving DecidableEq, Repr, Inhabited

/-- The page a batch is read as. -/
def Batch.page (shape : Shape) (batch : Batch) : Page :=
  pageOfBatch shape (batch.documents.map .object) batch.cursorId

/-- The batches of a cursor, of which the last one closes it. -/
inductive OfCursor : List Batch → Prop where
  | last {batch : Batch} (hclosed : batch.cursorId = 0) : OfCursor [batch]
  | more {batch : Batch} {rest : List Batch} (hopen : batch.cursorId ≠ 0) (hrest : OfCursor rest) :
    OfCursor (batch :: rest)

/-- The batches up to the first that is not full. -/
def batchesRead (b : Nat) : List Batch → List Batch
  | [] => []
  | batch :: rest => batch :: if batch.documents.length < b then [] else batchesRead b rest

/-- The rows of some batches. -/
def rowsOfBatches (shape : Shape) (batches : List Batch) : List NativeRow :=
  batches.flatMap fun batch => batch.documents.map (rowOf shape)

variable {shape : Shape} {plan : Plan} {batches : List Batch} {b : Nat}

/-- If only the last batch is not full, all batches are read. -/
theorem batchesRead_eq_self (hfull : ∀ batch ∈ batches.dropLast, b ≤ batch.documents.length) :
    batchesRead b batches = batches := by
  induction batches with
  | nil => rfl
  | cons batch rest ih =>
    cases rest with
    | nil => simp [batchesRead]
    | cons next rest =>
      rw [List.dropLast_cons_cons, List.forall_mem_cons] at hfull
      rw [batchesRead, if_neg (Nat.not_lt.2 hfull.1), ih hfull.2]

variable (b) in
/-- The batches read are all full and keep the cursor open, but for the last of them: it is not
full, or it closes the cursor. -/
theorem exists_batchesRead (h : OfCursor batches) :
    ∃ earlier last, batchesRead b batches = earlier ++ [last]
      ∧ (∀ batch ∈ earlier, b ≤ batch.documents.length ∧ batch.cursorId ≠ 0)
      ∧ (last.documents.length < b ∨ last.cursorId = 0) := by
  induction h with
  | last hclosed => exact ⟨[], _, by simp [batchesRead], by simp, .inr hclosed⟩
  | @more batch rest hopen _ ih =>
    by_cases hshort : batch.documents.length < b
    · exact ⟨[], batch, by simp [batchesRead, hshort], by simp, .inl hshort⟩
    · obtain ⟨earlier, last, hread, hearlier, hlast⟩ := ih
      exact ⟨batch :: earlier, last, by rw [batchesRead, if_neg hshort, hread, List.cons_append],
        List.forall_mem_cons.2 ⟨⟨Nat.le_of_not_lt hshort, hopen⟩, hearlier⟩, hlast⟩

variable (b batches) in
/-- The batches read are the first ones. -/
theorem batchesRead_prefix : batchesRead b batches <+: batches := by
  induction batches with
  | nil => exact List.prefix_rfl
  | cons batch rest ih =>
    rw [batchesRead, List.prefix_cons_inj]
    split
    · exact List.nil_prefix
    · exact ih

/-- Each document of a batch is a row of its page. -/
theorem rows_page (shape : Shape) (batch : Batch) :
    (batch.page shape).rows = batch.documents.map (rowOf shape) := by
  simp [Batch.page, pageOfBatch, List.filterMap_map, Function.comp_def, Json.members?]

/-- A page goes on as long as the cursor is open. -/
theorem continuation_page_eq_none {batch : Batch} :
    (batch.page shape).continuation = none ↔ batch.cursorId = 0 := by
  simp [Batch.page, pageOfBatch]

/-! ## The stream of a plan -/

/-- A plan whose result has more than one row is walked by its cursor. -/
theorem strategy_compile (hshape : plan.shape ≠ .aggregate) :
    (compile plan).strategy = .cursor := by
  unfold compile
  cases hs : plan.shape with
  | aggregate => exact absurd hs hshape
  | rows | grouped => rfl

theorem shape_compile (plan : Plan) : (compile plan).shape = plan.shape := by
  unfold compile
  cases plan.shape <;> rfl

theorem backend_compile (plan : Plan) : (compile plan).backend = .mongodb := by
  unfold compile
  cases plan.shape <;> rfl

/-- Whichever page is asked for, the query is the same: the cursor knows what follows. -/
theorem queryFor_compile (pages : Nat → Page) (k : Nat) :
    queryFor (compile plan) b pages k = BackendKind.mongodb.pageQuery (compile plan) none b := by
  have hsame (continuation : Option Continuation) :
      BackendKind.mongodb.pageQuery (compile plan) continuation b
        = BackendKind.mongodb.pageQuery (compile plan) none b := by
    unfold BackendKind.pageQuery
    cases (compile plan).native <;> rfl
  cases k with
  | zero => rw [queryFor, backend_compile]
  | succ k => rw [queryFor, backend_compile, hsame]

/-- The pages of some batches. -/
def batchPages (shape : Shape) (batches : List Batch) (k : Nat) : Page :=
  (batches[k]?.getD default).page shape

/-- The rows of the pages are the rows of the batches. -/
theorem flatMap_rows_batchPages (shape : Shape) (batches : List Batch) :
    ((List.range batches.length).flatMap fun k => (batchPages shape batches k).rows)
      = rowsOfBatches shape batches := by
  have hbatches :
      (List.range batches.length).map (fun k => batches[k]?.getD default) = batches := by
    refine List.ext_getElem (by simp) fun k hk hk' => ?_
    simp [hk']
  simp only [batchPages, rows_page, rowsOfBatches]
  conv => rhs; rw [← hbatches, List.flatMap_map]

end Document

/-- A peer answers a query, whenever it comes, with the batch whose turn it is. -/
def Peer.BatchesOf (peer : Peer) (query : NativeQuery) (shape : Shape)
    (batches : List Document.Batch) : Prop :=
  ∀ n batch, batches[n]? = some batch → peer.page n query = some (.ok (batch.page shape))

namespace Peer

variable {peer : Peer} {config : Config} {plan : Plan} {batches : List Document.Batch}

/-- A peer with a cursor serves the batches of it that are read. -/
theorem serves_batchPages (hshape : plan.shape ≠ .aggregate) (hkind : peer.kind = .mongodb)
    (hpeer : peer.BatchesOf
      (BackendKind.mongodb.pageQuery (Document.compile plan) none config.batchSize) plan.shape
      batches)
    {earlier : List Document.Batch} {last : Document.Batch}
    (hread : Document.batchesRead config.batchSize batches = earlier ++ [last])
    (hearlier : ∀ batch ∈ earlier,
      config.batchSize ≤ batch.documents.length ∧ batch.cursorId ≠ 0) :
    peer.Serves config (Document.compile plan)
      (Document.batchPages plan.shape (earlier ++ [last])) earlier.length := by
  refine ⟨hkind.trans (Document.backend_compile plan).symm, fun k hk => ?_, fun k hk => ?_⟩
  · rw [Document.queryFor_compile]
    have hlt : k < (earlier ++ [last]).length := by simpa using Nat.lt_succ_of_le hk
    have hat : (earlier ++ [last])[k]? = some (earlier ++ [last])[k] :=
      List.getElem?_eq_getElem hlt
    rw [Document.batchPages, hat, Option.getD_some]
    refine hpeer k _ ?_
    obtain ⟨later, hlater⟩ := Document.batchesRead_prefix batches config.batchSize
    rw [hread] at hlater
    rw [← hlater, List.getElem?_append_left hlt, hat]
  · obtain ⟨hfull, hopen⟩ := hearlier earlier[k] (List.getElem_mem hk)
    rw [Document.batchPages, List.getElem?_append_left hk, List.getElem?_eq_getElem hk,
      Option.getD_some]
    rintro (h | h | ⟨-, h⟩)
    · exact nomatch (Document.strategy_compile hshape).symm.trans h
    · rw [Document.rows_page, List.length_map] at h
      exact absurd hfull (Nat.not_le.2 h)
    · exact hopen (Document.continuation_page_eq_none.1 h)

/-- **Paging by cursor reads the batches up to the first that is not full.** Let a peer answer the
query of a plan whose result has more than one row with the batches of a cursor, the last of which
closes it. Then the stream of the plan ends, having handed out the documents of the batches up to
the first that is not full, each once and in order, whatever the batch size. These are all the
batches if no batch but the last is smaller than what was asked for. -/
theorem handsOut_batches (hshape : plan.shape ≠ .aggregate) (hb : 0 < config.batchSize)
    (hkind : peer.kind = .mongodb) (hcursor : Document.OfCursor batches)
    (hpeer : peer.BatchesOf
      (BackendKind.mongodb.pageQuery (Document.compile plan) none config.batchSize) plan.shape
      batches) :
    peer.HandsOut config (Document.compile plan)
        ((Document.rowsOfBatches plan.shape (Document.batchesRead config.batchSize batches)).map
          (normalize (Document.compile plan).outputs))
      ∧ ((∀ batch ∈ batches.dropLast, config.batchSize ≤ batch.documents.length) →
          Document.batchesRead config.batchSize batches = batches) := by
  refine ⟨?_, Document.batchesRead_eq_self⟩
  obtain ⟨earlier, last, hread, hearlier, hlast⟩ :=
    Document.exists_batchesRead config.batchSize hcursor
  have hserves := serves_batchPages hshape hkind hpeer hread hearlier
  have hisLast : (Document.batchPages plan.shape (earlier ++ [last]) earlier.length).IsLast
      (Document.compile plan).strategy config.batchSize := by
    rw [Document.batchPages, List.getElem?_concat_length, Option.getD_some]
    rcases hlast with hshort | hclosed
    · exact .inr (.inl (by rwa [Document.rows_page, List.length_map]))
    · exact .inr (.inr ⟨.inl (Document.strategy_compile hshape),
        Document.continuation_page_eq_none.2 hclosed⟩)
  refine ⟨_, comesToRest_of_isLast hb hserves hisLast, ?_⟩
  have hlength : earlier.length + 1 = (earlier ++ [last]).length := by simp
  rw [emittedIn_append, emittedIn_shownThrough, releasingAfter, emittedIn_releasing,
    List.append_nil, hread, ← Document.flatMap_rows_batchPages, hlength,
    funext (rowsBrought_of_shape_ne ((Document.shape_compile plan).trans_ne hshape))]

section

/-- The peer that answers with some batches in turn, whatever it is asked. -/
def ofBatches (shape : Shape) (batches : List Document.Batch) : Peer :=
  .ofScript .mongodb (fun n => batches[n]?.map fun batch => .ok (batch.page shape))
    fun _ => .ok ()

theorem batchesOf_ofBatches (query : NativeQuery) (shape : Shape) (batches : List Document.Batch) :
    (ofBatches shape batches).BatchesOf query shape batches := by
  intro n batch hbatch
  simp [ofBatches, ofScript, hbatch]

/-- The plan of the rows of a collection with one column of numbers. -/
def ordersPlan : Plan :=
  ⟨"shop.orders", "shop.orders", [.column ⟨"n", "n", .numeric, "long", "shop.orders", false⟩ none],
    [], false⟩

/-- Two documents, one in a batch. -/
def orderBatches : List Document.Batch :=
  [⟨[[("n", .int 1)]], 7⟩, ⟨[[("n", .int 2)]], 0⟩]

theorem ofCursor_orderBatches : Document.OfCursor orderBatches :=
  .more (by decide) (.last rfl)

/-- With room for one document in a batch both are handed out. -/
theorem handsOut_batches_orderBatches :
    (ofBatches .rows orderBatches).HandsOut { Config.default with batchSize := 1 }
      (Document.compile ordersPlan) [[.int 1], [.int 2]] := by
  have hshape : ordersPlan.shape ≠ .aggregate := by decide
  have hroom : 0 < ({ Config.default with batchSize := 1 } : Config).batchSize := Nat.zero_lt_one
  exact (handsOut_batches hshape hroom rfl ofCursor_orderBatches (batchesOf_ofBatches _ _ _)).1

/-- With room for two, the first batch is cut short and the second document is lost, although the
cursor is open. -/
theorem not_handsOut_cutShort :
    Document.OfCursor orderBatches ∧ (∀ batch ∈ orderBatches, batch.documents.length ≤ 2)
      ∧ (ofBatches .rows orderBatches).BatchesOf
          (BackendKind.mongodb.pageQuery (Document.compile ordersPlan) none 2) .rows orderBatches
      ∧ ¬ (ofBatches .rows orderBatches).HandsOut { Config.default with batchSize := 2 }
          (Document.compile ordersPlan)
          ((Document.rowsOfBatches .rows orderBatches).map
            (normalize (Document.compile ordersPlan).outputs)) := by
  refine ⟨ofCursor_orderBatches, by decide, batchesOf_ofBatches _ _ _, fun hall => ?_⟩
  have hserves : (ofBatches .rows orderBatches).Serves { Config.default with batchSize := 2 }
      (Document.compile ordersPlan) (Document.batchPages .rows orderBatches) 0 :=
    ⟨rfl, fun k hk => by obtain rfl := Nat.le_zero.1 hk; rfl, fun k hk => absurd hk k.not_lt_zero⟩
  have hfirst : (ofBatches .rows orderBatches).HandsOut { Config.default with batchSize := 2 }
      (Document.compile ordersPlan) [[.int 1]] :=
    ⟨_, comesToRest_of_isLast Nat.zero_lt_two hserves (by decide), rfl⟩
  exact absurd (hall.unique hfirst) (by decide)

end

end Peer

end Pushdown
