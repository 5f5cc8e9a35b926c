import Mathlib.SetTheory.Cardinal.Order
import Pushdown.Proofs.Relational.Ordering
import Pushdown.Proofs.Relational.PageClause
import Pushdown.Proofs.Stream.Pages

/-!
# Paging by number of rows

A relational backend answers a statement for a part of a result with the rows of that part, in the
order the statement asks for. What this order leaves open the backend decides, and it may decide
otherwise for every page (`Peer.PagesOf`). `Peer.handsOut_sorted` is that the stream of a plan whose
result has more than one row still hands out every row of the result once, in order. The pages are
cut where the rows so far end, and cutting does not depend on what the order leaves open, because
the rows a request asked for do not (`Plan.map_resultRow_eq`).
-/

namespace Pushdown

/-- The part of the rows of a result that is asked for. -/
def PageWindow.rowsOf {α : Type} (w : PageWindow) (rows : List α) : List α :=
  (rows.drop w.offset).take w.limit

/-- A peer answers a statement that asks for a part of the result of another one with this part, the
result being put in some order the statement asks for. -/
def Peer.PagesOf (peer : Peer) (d : Dialect) (text : String) (order : Nat → LinearOrder Json)
    (result : List (List Json)) : Prop :=
  ∀ n query orderBy window, PageWindow.read? d text query = some window →
    ∃ page rows, peer.page n (.statement query orderBy) = some (.ok page)
      ∧ rows.Perm result ∧ SortedBy order window.orderBy rows
      ∧ page.rows = (window.rowsOf rows).map .positional

/-- The stream of a compiled query ends, having handed out these rows. -/
def Peer.HandsOut (peer : Peer) (config : Config) (compiled : CompiledQuery)
    (rows : List ResultRow) : Prop :=
  ∃ shown, peer.ComesToRest config compiled .finished (shown ++ [.ended]) ∧ emittedIn shown = rows

/-- A stream hands out its rows in one way only. -/
theorem Peer.HandsOut.unique {peer : Peer} {config : Config} {compiled : CompiledQuery}
    {rows rows' : List ResultRow} (h : peer.HandsOut config compiled rows)
    (h' : peer.HandsOut config compiled rows') : rows = rows' := by
  obtain ⟨shown, hrest, rfl⟩ := h
  obtain ⟨shown', hrest', rfl⟩ := h'
  rw [List.append_cancel_right (hrest.history_unique hrest')]

/-! ## Cutting a list -/

/-- Pieces of one length, put together again. -/
theorem flatMap_drop_take {α : Type} (l : List α) (b m : Nat) :
    ((List.range m).flatMap fun k => (l.drop (k * b)).take b) = l.take (m * b) := by
  induction m with
  | zero => simp
  | succ m ih =>
    rw [List.range_succ, List.flatMap_append, ih, List.flatMap_singleton, Nat.succ_mul,
      List.take_add]

/-- Of a list cut into pieces, the last piece is not full, and the ones before it are. -/
theorem length_drop_take {α : Type} (l : List α) {b : Nat} (hb : 0 < b) :
    (∀ k < l.length / b, ((l.drop (k * b)).take b).length = b)
      ∧ ((l.drop (l.length / b * b)).take b).length < b := by
  simp only [List.length_take, List.length_drop]
  refine ⟨fun k hk => ?_, ?_⟩
  · have hle : (k + 1) * b ≤ l.length := (Nat.le_div_iff_mul_le hb).1 hk
    rw [Nat.succ_mul] at hle
    omega
  · have hlt : l.length < l.length / b * b + b := Nat.lt_div_mul_add hb
    omega

/-- After full pages the number of rows so far is a multiple of the batch size. -/
theorem rowsThrough_of_full {pages : Nat → Page} {b k : Nat}
    (hfull : ∀ j ≤ k, (pages j).rows.length = b) : rowsThrough pages k = (k + 1) * b := by
  induction k with
  | zero => rw [rowsThrough, hfull 0 (Nat.le_refl 0), Nat.zero_add, Nat.one_mul]
  | succ k ih =>
    rw [rowsThrough, ih fun j hj => hfull j (Nat.le_succ_of_le hj), hfull _ (Nat.le_refl _),
      Nat.succ_mul (k + 1)]

/-! ## The statements of a stream -/

namespace Dialect

variable {d : Dialect} {plan : Plan} {b : Nat}

/-- The statement for a page of the result of a plan. -/
def pageStatement (d : Dialect) (plan : Plan) (b k : Nat) : String :=
  d.paginate (d.render (d.statement plan)) (columnOrdinals plan) b (k * b)

/-- After full pages, each page is asked for by the number of rows before it. -/
theorem queryFor_compile (hshape : plan.shape ≠ .aggregate) {pages : Nat → Page} {k : Nat}
    (hfull : ∀ j < k, (pages j).rows.length = b) :
    queryFor (d.compile plan) b pages k
      = .statement (d.pageStatement plan b k) (columnOrdinals plan) := by
  have hstrategy : (d.compile plan).strategy = .offset := if_neg hshape
  cases k with
  | zero =>
    rw [queryFor, pageStatement, Nat.zero_mul]
    exact pageQuery_compile hshape none
  | succ k =>
    have hrows := rowsThrough_of_full fun j hj => hfull j (Nat.lt_succ_of_le hj)
    rw [queryFor, followUp.eq_def, hstrategy, hrows]
    exact pageQuery_compile hshape _

end Dialect

namespace Peer

variable {peer : Peer} {config : Config} {d : Dialect} {plan : Plan}
  {order : Nat → LinearOrder Json} {result sorted : List (List Json)}

/-- Let every page be cut out of the result, put in order for that page alone. If the rows a request
asked for come in the same order each time, the stream hands them out in that order. -/
theorem handsOut_of_map_eq (hshape : plan.shape ≠ .aggregate) (hb : 0 < config.batchSize)
    (hkind : peer.kind = d.kind)
    (hpages : peer.PagesOf d (d.render (d.statement plan)) order result)
    {asked : List ResultRow}
    (hasked : ∀ rows, rows.Perm result → SortedBy order (Dialect.columnOrdinals plan) rows →
      rows.map plan.resultRow = asked) :
    peer.HandsOut config (d.compile plan) asked := by
  choose page rows hpage hperm hsorted hrows using fun k =>
    hpages k (d.pageStatement plan config.batchSize k) (Dialect.columnOrdinals plan) _
      (PageWindow.read?_paginate d _
        ⟨Dialect.columnOrdinals plan, config.batchSize, k * config.batchSize⟩)
  have hmap (k : Nat) : (rows k).map plan.resultRow = asked := hasked _ (hperm k) (hsorted k)
  have hcut (k : Nat) : (page k).rows.map (normalize (d.compile plan).outputs)
      = (asked.drop (k * config.batchSize)).take config.batchSize := by
    rw [hrows k, PageWindow.rowsOf, List.map_map, List.map_take, List.map_drop, ← hmap k]
    rfl
  have hlength (k : Nat) : (page k).rows.length
      = ((asked.drop (k * config.batchSize)).take config.batchSize).length := by
    rw [← hcut k, List.length_map]
  obtain ⟨hfull, hlast⟩ := length_drop_take asked hb
  have hstrategy : (d.compile plan).strategy = .offset := if_neg hshape
  have hserves : peer.Serves config (d.compile plan) page (asked.length / config.batchSize) := by
    refine ⟨hkind, fun k hk => ?_, fun k hk => ?_⟩
    · rw [Dialect.queryFor_compile hshape fun j hj =>
        (hlength j).trans (hfull j (Nat.lt_of_lt_of_le hj hk))]
      exact hpage k
    · rintro (h | h | ⟨h | h, -⟩)
      · exact nomatch hstrategy.symm.trans h
      · exact absurd ((hlength k).trans (hfull k hk)) (Nat.ne_of_lt h)
      · exact nomatch hstrategy.symm.trans h
      · exact nomatch hstrategy.symm.trans h
  have hisLast : (page (asked.length / config.batchSize)).IsLast (d.compile plan).strategy
      config.batchSize := .inr (.inl (hlength _ ▸ hlast))
  refine ⟨_, comesToRest_of_isLast hb hserves hisLast, ?_⟩
  have hlt : asked.length ≤ (asked.length / config.batchSize + 1) * config.batchSize := by
    rw [Nat.succ_mul]
    exact Nat.le_of_lt (Nat.lt_div_mul_add hb)
  rw [emittedIn_append, emittedIn_shownThrough, releasingAfter, emittedIn_releasing,
    List.append_nil, List.map_flatMap, funext (rowsBrought_of_shape_ne hshape), funext hcut,
    flatMap_drop_take, List.take_of_length_le hlt]

variable (d order result) in
/-- **Paging by number of rows loses nothing and repeats nothing.** For a plan whose result has more
than one row, the rows a request asked for come in the same order however the result is put in
order, if groups differ in their keys. Whatever the batch size, and whatever a backend makes of what
the order leaves open in each page, the stream of the plan ends, having handed out these rows. -/
theorem handsOut_sorted {options : FilterOptions} {schema : Schema} {request : Request}
    (hplan : Plan.build options schema request = .ok plan) (hshape : plan.shape ≠ .aggregate)
    (hgroups : plan.shape = .grouped → (result.map plan.keyValues).Nodup) :
    ∃ asked : List ResultRow,
      (∃ sorted, sorted.Perm result ∧ SortedBy order (Dialect.columnOrdinals plan) sorted)
      ∧ (∀ sorted, sorted.Perm result → SortedBy order (Dialect.columnOrdinals plan) sorted →
          sorted.map plan.resultRow = asked)
      ∧ ∀ (config : Config) (peer : Peer), 0 < config.batchSize → peer.kind = d.kind →
          peer.PagesOf d (d.render (d.statement plan)) order result →
          peer.HandsOut config (d.compile plan) asked := by
  obtain ⟨sorted, hperm, hsorted⟩ : ∃ sorted, sorted.Perm result
      ∧ SortedBy order (Dialect.columnOrdinals plan) sorted := exists_sortedBy result
  have hcolumns (hs : plan.shape = .rows) :
      ∀ projection ∈ plan.projections, projection.isColumn ∨ projection = .unit := by
    refine Plan.isColumn_or_unit hplan ?_
    unfold Plan.shape at hs
    split at hs
    · simpa using ‹(!plan.pushdown) = true›
    · split at hs <;> cases hs
  have hasked (rows : List (List Json)) (hp : rows.Perm result)
      (hs : SortedBy order (Dialect.columnOrdinals plan) rows) :
      rows.map plan.resultRow = sorted.map plan.resultRow := by
    have hkeys (h : plan.shape = .grouped) : (rows.map plan.keyValues).Nodup :=
      (hp.map plan.keyValues).nodup_iff.2 (hgroups h)
    exact Plan.map_resultRow_eq hcolumns hkeys hshape hs hsorted (hp.trans hperm.symm)
  exact ⟨_, ⟨sorted, hperm, hsorted⟩, hasked, fun config peer hb hkind hpages =>
    handsOut_of_map_eq hshape hb hkind hpages hasked⟩

section
open Dialect (postgres)

/-- A column of texts. -/
def tagColumn : Column := ⟨"tag", "tag", .hierarchy, "text", "tags", false⟩

/-- The plan of the rows of a dataset with one column. -/
def tagPlan : Plan := ⟨"tags", "tags", [.column tagColumn none], [], false⟩

/-- Two rows that do not differ. -/
def tagRows : List (List Json) := [[.text "new"], [.text "new"]]

/-- The peer that has the two rows. -/
def tagPeer : Peer where
  kind := .postgres
  page _ query :=
    match query with
    | .statement text _ =>
      (PageWindow.read? postgres (postgres.render (postgres.statement tagPlan)) text).map
        fun window => .ok ⟨(window.rowsOf tagRows).map .positional, none⟩
    | _ => none
  release _ := .ok ()

/-- With room for one row in a page, both of two equal rows are handed out. -/
theorem handsOut_sorted_tagRows :
    tagPeer.HandsOut { Config.default with batchSize := 1 } (postgres.compile tagPlan)
      [[.text "new"], [.text "new"]] := by
  let order (_ : Nat) : LinearOrder Json :=
    @linearOrderOfSTO Json WellOrderingRel _ (Classical.decRel _)
  have hsorted (orderBy : List Nat) : SortedBy order orderBy tagRows :=
    List.pairwise_pair.2 (.refl orderBy _)
  have hpages : tagPeer.PagesOf postgres (postgres.render (postgres.statement tagPlan)) order
      tagRows := by
    intro n query orderBy window hwindow
    refine ⟨⟨(window.rowsOf tagRows).map .positional, none⟩, tagRows, ?_, .refl _, hsorted _, rfl⟩
    simp only [tagPeer, hwindow]
    rfl
  have hplan : Plan.build .exact ⟨[⟨"tags", "tags", [tagColumn], [("tag", 0)]⟩]⟩
      ⟨"tags", [⟨"tag", none, none⟩], [], false⟩ = .ok tagPlan := rfl
  obtain ⟨asked, -, hasked, hrun⟩ :=
    handsOut_sorted postgres order tagRows hplan (by decide) (by decide)
  obtain rfl := hasked tagRows (.refl _) (hsorted _)
  exact hrun { Config.default with batchSize := 1 } tagPeer Nat.zero_lt_one rfl hpages

end

end Peer

end Pushdown
