import Mathlib.Data.List.Nodup
import Mathlib.Order.Defs.LinearOrder
import Pushdown.Proofs.Query.Planning
import Pushdown.Relational.Statement
import Pushdown.Row.Normalize

/-!
# Results in order

`SortedBy` is that the rows of a result are ordered by ordinals of the select list, each of which
may have an order of its own. Such an order leaves rows that differ elsewhere where they please, so
a result has many of them. What does not depend on which one is the rows a request asked for
(`Plan.map_resultRow_eq`): the ordinals of a statement are those of all its plain columns, and a
row of the result is settled by these, since the rest of it is constant when the rows are those of
the dataset, and belongs to the group when they are groups.
-/

namespace Pushdown

/-! ## Ordering by ordinals -/

/-- The value of a row for an ordinal of the select list, counted from one. -/
def valueAt (row : List Json) (ordinal : Nat) : Json :=
  row[ordinal - 1]?.getD .null

/-- The values a row is ordered by. -/
def sortKey (orderBy : List Nat) (row : List Json) : List Json :=
  orderBy.map (valueAt row)

variable (order : Nat → LinearOrder Json)

/-- Whether a row may come before another: the first ordinal in which they differ decides. -/
def MayPrecede : List Nat → List Json → List Json → Prop
  | [], _, _ => True
  | i :: orderBy, row, row' =>
    (order i).lt (valueAt row i) (valueAt row' i)
      ∨ valueAt row i = valueAt row' i ∧ MayPrecede orderBy row row'

/-- Rows ordered by ordinals of the select list. -/
def SortedBy (orderBy : List Nat) (rows : List (List Json)) : Prop :=
  rows.Pairwise (MayPrecede order orderBy)

namespace MayPrecede

variable {order} {orderBy : List Nat} {row row' row'' : List Json}

theorem total : ∀ (orderBy : List Nat) (row row' : List Json),
    MayPrecede order orderBy row row' ∨ MayPrecede order orderBy row' row
  | [], _, _ => .inl trivial
  | i :: orderBy, row, row' => by
    let := order i
    rcases lt_trichotomy (valueAt row i) (valueAt row' i) with h | h | h
    · exact .inl (.inl h)
    · exact (total orderBy row row').imp (fun hr => .inr ⟨h, hr⟩) fun hr => .inr ⟨h.symm, hr⟩
    · exact .inr (.inl h)

theorem refl (orderBy : List Nat) (row : List Json) : MayPrecede order orderBy row row :=
  (total orderBy row row).elim id id

theorem trans (h : MayPrecede order orderBy row row') (h' : MayPrecede order orderBy row' row'') :
    MayPrecede order orderBy row row'' := by
  induction orderBy with
  | nil => exact trivial
  | cons i orderBy ih =>
    let := order i
    rcases h with h | ⟨he, h⟩ <;> rcases h' with h' | ⟨he', h'⟩
    · exact .inl (lt_trans h h')
    · exact .inl (he' ▸ h)
    · exact .inl (he ▸ h')
    · exact .inr ⟨he.trans he', ih h h'⟩

/-- Rows that may come either way agree in all the ordinals. -/
theorem antisymm (h : MayPrecede order orderBy row row')
    (h' : MayPrecede order orderBy row' row) : sortKey orderBy row = sortKey orderBy row' := by
  induction orderBy with
  | nil => rfl
  | cons i orderBy ih =>
    let := order i
    rcases h with h | ⟨he, h⟩ <;> rcases h' with h' | ⟨he', h'⟩
    · exact absurd h' (lt_asymm h)
    · exact absurd (he' ▸ h) (lt_irrefl _)
    · exact absurd (he ▸ h') (lt_irrefl _)
    · exact List.cons_eq_cons.2 ⟨he, ih h h'⟩

/-- Only the values in the ordinals matter. -/
theorem congr {row₁ row₁' : List Json} (h : MayPrecede order orderBy row row')
    (hk : sortKey orderBy row = sortKey orderBy row₁)
    (hk' : sortKey orderBy row' = sortKey orderBy row₁') :
    MayPrecede order orderBy row₁ row₁' := by
  induction orderBy with
  | nil => exact trivial
  | cons i orderBy ih =>
    obtain ⟨hi, hk⟩ := List.cons_eq_cons.1 hk
    obtain ⟨hi', hk'⟩ := List.cons_eq_cons.1 hk'
    rw [MayPrecede, ← hi, ← hi']
    exact h.imp id fun ⟨he, h⟩ => ⟨he, ih h hk hk'⟩

end MayPrecede

section
variable {order} {orderBy : List Nat} {rows rows' : List (List Json)}

open MayPrecede in
/-- Every result can be put in order. -/
theorem exists_sortedBy (rows : List (List Json)) :
    ∃ sorted, sorted.Perm rows ∧ SortedBy order orderBy sorted := by
  classical
  let le (row row' : List Json) : Bool := MayPrecede order orderBy row row'
  have htrans (row row' row'' : List Json) (h : le row row') (h' : le row' row'') : le row row'' :=
    decide_eq_true (trans (of_decide_eq_true h) (of_decide_eq_true h'))
  have htotal (row row' : List Json) : le row row' || le row' row := by
    rw [Bool.or_eq_true, decide_eq_true_iff, decide_eq_true_iff]
    exact total orderBy row row'
  exact ⟨rows.mergeSort le, List.mergeSort_perm _ _,
    (List.pairwise_mergeSort htrans htotal rows).imp of_decide_eq_true⟩

/-- However a result is put in order, the values it is ordered by come in the same order. -/
theorem SortedBy.map_sortKey_eq (h : SortedBy order orderBy rows)
    (h' : SortedBy order orderBy rows') (hp : rows.Perm rows') :
    rows.map (sortKey orderBy) = rows'.map (sortKey orderBy) := by
  let precedes (key key' : List Json) : Prop := ∃ row row', sortKey orderBy row = key
    ∧ sortKey orderBy row' = key' ∧ MayPrecede order orderBy row row'
  have hkeys {rows : List (List Json)} (h : SortedBy order orderBy rows) :
      (rows.map (sortKey orderBy)).Pairwise precedes :=
    List.pairwise_map.2 (h.imp fun hr => ⟨_, _, rfl, rfl, hr⟩)
  refine List.Perm.eq_of_pairwise (fun key key' _ _ hk hk' => ?_) (hkeys h) (hkeys h') (hp.map _)
  obtain ⟨row, row', rfl, rfl, hr⟩ := hk
  obtain ⟨row₁, row₁', hrow', hrow, hr'⟩ := hk'
  exact hr.antisymm (hr'.congr hrow' hrow)

end

/-! ## The rows of a plan -/

namespace Plan

variable (plan : Plan)

/-- The row a request asked for, of a row of the result of its statement. -/
def resultRow (row : List Json) : ResultRow :=
  normalize (plan.outputs .places) (.positional row)

/-- The values of the plain columns of a row of the result. -/
def keyValues (row : List Json) : List Json :=
  (plan.placed.filter fun placed => placed.1.isColumn).map fun placed => row[placed.2]?.getD .null

/-- A statement orders the pages of its result by its plain columns. -/
theorem sortKey_columnOrdinals (row : List Json) :
    sortKey (Dialect.columnOrdinals plan) row = plan.keyValues row := by
  simp only [sortKey, Dialect.columnOrdinals, keyValues, List.map_map]
  rfl

variable {plan} {row row' : List Json}

/-- A value that is output stands at the place of a projection. -/
theorem mem_zipIdx_outputs {keys : OutputKeys} {output : OutputColumn} {place : Nat}
    (h : (output, place) ∈ (plan.outputs keys).zipIdx) :
    ∃ projection, (projection, place) ∈ plan.placed
      ∧ output = Plan.output keys plan.pushdown (projection, place) := by
  rw [List.mk_mem_zipIdx_iff_getElem?, outputs, placed, List.getElem?_map, List.getElem?_zipIdx]
    at h
  obtain ⟨_, hplaced, rfl⟩ := Option.map_eq_some_iff.1 h
  obtain ⟨projection, hprojection, rfl⟩ := Option.map_eq_some_iff.1 hplaced
  refine ⟨projection, ?_, by rw [Nat.zero_add]⟩
  exact List.mk_mem_zipIdx_iff_getElem?.2 hprojection

/-- Rows of the dataset are settled by their plain columns. -/
theorem resultRow_eq_of_columns
    (hcolumns : ∀ projection ∈ plan.projections, projection.isColumn ∨ projection = .unit)
    (hk : plan.keyValues row = plan.keyValues row') : plan.resultRow row = plan.resultRow row' := by
  refine List.map_congr_left fun ⟨output, place⟩ h => ?_
  obtain ⟨projection, hplaced, rfl⟩ := mem_zipIdx_outputs h
  rcases hcolumns projection (List.fst_mem_of_mem_zipIdx hplaced) with hc | rfl
  · have hvalue : row[place]?.getD .null = row'[place]?.getD .null :=
      List.map_inj_left.1 hk (projection, place) (List.mem_filter.2 ⟨hplaced, hc⟩)
    cases projection with
    | column column level => simp only [NativeRow.cell, output, NativeRow.extract, hvalue]
    | aggregate | rowCount | unit => cases hc
  · rfl

/-- Lists that agree in one function agree in another that depends on it. -/
theorem map_eq_of_map_eq {α β γ : Type} {f : α → β} {g : α → γ} :
    ∀ {l l' : List α}, (∀ a ∈ l, ∀ a' ∈ l', f a = f a' → g a = g a') →
      l.map f = l'.map f → l.map g = l'.map g
  | [], [], _, _ => rfl
  | a :: l, a' :: l', h, he => by
    obtain ⟨ha, hl⟩ := List.cons_eq_cons.1 he
    exact List.cons_eq_cons.2 ⟨h a List.mem_cons_self a' List.mem_cons_self ha,
      map_eq_of_map_eq (fun b hb b' hb' => h b (.tail a hb) b' (.tail a' hb')) hl⟩

/-- However the result of a statement is put in order, the rows a request asked for come in the
same order. Groups must differ in their keys. -/
theorem map_resultRow_eq {order : Nat → LinearOrder Json} {rows rows' : List (List Json)}
    (hcolumns : plan.shape = .rows →
      ∀ projection ∈ plan.projections, projection.isColumn ∨ projection = .unit)
    (hgroups : plan.shape = .grouped → (rows.map plan.keyValues).Nodup)
    (hshape : plan.shape ≠ .aggregate)
    (h : SortedBy order (Dialect.columnOrdinals plan) rows)
    (h' : SortedBy order (Dialect.columnOrdinals plan) rows') (hp : rows.Perm rows') :
    rows.map plan.resultRow = rows'.map plan.resultRow := by
  have hkeys : rows.map plan.keyValues = rows'.map plan.keyValues := by
    simpa only [funext plan.sortKey_columnOrdinals] using h.map_sortKey_eq h' hp
  refine map_eq_of_map_eq (fun row hrow row' hrow' hk => ?_) hkeys
  cases hs : plan.shape with
  | rows => exact resultRow_eq_of_columns (hcolumns hs) hk
  | grouped =>
    rw [List.inj_on_of_nodup_map (hgroups hs) hrow (hp.mem_iff.2 hrow') hk]
  | aggregate => exact absurd hs hshape

end Plan

end Pushdown
