import Mathlib.Data.String.Basic
import Pushdown.Row.Normalize

/-!
# The row a plan asks for

The values of a plan that pushes grouping down are named by their places in the query, and read by
these names from what a backend answers. `Plan.rowOf` is the row a request asked for, given what is
answered for each projection: its value under the projection's own type. `Plan.normalize_eq_rowOf`
reduces the reading of a whole row to its cells. The names keep the places apart
(`placeName_inj`, `Plan.eq_of_mem_placed`).
-/

namespace Pushdown

/-- Places have names of their own. -/
theorem placeName_inj {place place' : Nat} :
    placeName place = placeName place' ↔ place = place' := by
  refine ⟨fun h => ?_, fun h => h ▸ rfl⟩
  have hlist := congrArg String.toList h
  simp only [placeName, String.toList_append] at hlist
  have hdigits := congrArg (fun digits => Nat.ofDigitChars 10 digits 0)
    (List.append_cancel_left hlist)
  simpa [Nat.toString_eq_ofList_toDigits] using hdigits

/-- Places share no name with the members that a backend names itself. -/
theorem placeName_ne {name : String} (place : Nat) (h : name.toList.head? ≠ some 'c') :
    placeName place ≠ name := by
  rintro rfl
  simp [placeName] at h

/-- The type of the values of a projection. -/
def Projection.resultType : Projection → ColumnType
  | .column c _ => c.type
  | .aggregate c .min | .aggregate c .max => c.type
  | .aggregate .. | .rowCount | .unit => .numeric

namespace Plan

variable {plan : Plan} {keys : OutputKeys}

/-- The row of a plan, given what is answered for each of its projections. -/
def rowOf (plan : Plan) (answer : Projection × Nat → Json) : ResultRow :=
  plan.placed.map fun placed => normalizeValue placed.1.resultType (answer placed)

/-- There is one projection at a place. -/
theorem eq_of_mem_placed {projection projection' : Projection} {place : Nat}
    (h : (projection, place) ∈ plan.placed) (h' : (projection', place) ∈ plan.placed) :
    projection = projection' := by
  rw [placed, List.mk_mem_zipIdx_iff_getElem?] at h h'
  exact Option.some.inj (h.symm.trans h')

/-- What stands under the names of places has distinct names. -/
theorem nodup_names {β : Type} {named? : Projection × Nat → Option (String × β)}
    (hname : ∀ placed entry, named? placed = some entry → entry.1 = placeName placed.2) :
    ((plan.placed.filterMap named?).map Prod.fst).Nodup := by
  have hplaces : plan.placed.Pairwise fun a b => a.2 ≠ b.2 := by
    have hnodup : (plan.placed.map Prod.snd).Nodup := by
      rw [Plan.placed, List.zipIdx_map_snd]
      exact List.nodup_range'
    exact List.pairwise_map.1 hnodup
  rw [List.Nodup, List.pairwise_map, List.pairwise_filterMap]
  refine hplaces.imp fun {a b} hab entry hentry entry' hentry' heq => hab ?_
  rwa [hname a entry hentry, hname b entry' hentry', placeName_inj] at heq

/-- An output has the type of its projection. -/
theorem type_output (keys : OutputKeys) (pushdown : Bool) (placed : Projection × Nat) :
    (output keys pushdown placed).type = placed.1.resultType := by
  obtain ⟨projection, place⟩ := placed
  cases projection with
  | column | rowCount | unit => rfl
  | aggregate column aggregation => cases aggregation <;> rfl

/-- With every value named by its place, an output looks for its value under that name. -/
theorem key_output (pushdown : Bool) (placed : Projection × Nat) :
    (output .places pushdown placed).key = placeName placed.2 := by
  obtain ⟨projection, place⟩ := placed
  cases projection <;> rfl

/-- The outputs of a plan are read at the places of its projections. -/
theorem normalize_outputs (row : NativeRow) :
    normalize (plan.outputs keys) row
      = plan.placed.map fun placed => row.cell (output keys plan.pushdown placed) placed.2 := by
  refine List.ext_getElem (by simp [normalize, outputs]) fun i hi hi' => ?_
  simp [normalize, outputs, placed]

/-- A row is the one a request asked for if all its cells are. -/
theorem normalize_eq_rowOf {row : NativeRow} {answer : Projection × Nat → Json}
    (hcell : ∀ placed ∈ plan.placed, row.cell (output keys plan.pushdown placed) placed.2
      = normalizeValue placed.1.resultType (answer placed)) :
    normalize (plan.outputs keys) row = plan.rowOf answer := by
  rw [normalize_outputs]
  exact List.map_congr_left hcell

end Plan

end Pushdown
