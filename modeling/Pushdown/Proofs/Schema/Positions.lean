import Pushdown.Schema.Basic

/-!
# The index of a dataset

A dataset keeps its columns in a list and the position of each of them in an index. The two are
grown together, and `Dataset.Indexed` says how they belong together: every position of the index is
that of the column it is kept under, and every column has its position there. A new dataset is
`Indexed`, and `Dataset.Indexed.push` shows that one more column keeps it so, whether it is new or a
duplicate.

So a look at the index is a search for the first column of that id
(`Dataset.Indexed.column?_eq`), and no position leads anywhere else or out of the list.
-/

namespace Pushdown

namespace Dataset

variable {d : Dataset} {c : Column}

/-- The index has the positions of the columns, and nothing else. -/
structure Indexed (d : Dataset) : Prop where
  /-- Every position is that of the column it is kept under. -/
  column_of_position : ∀ id i, d.index.get? id = some i → ∃ c, d.columns[i]? = some c ∧ c.id = id
  /-- Every column has its position. -/
  position_of_column : ∀ (i : Nat) c, d.columns[i]? = some c → d.index.get? c.id = some i

theorem indexed_named (name : String) : (named name).Indexed where
  column_of_position id i h := by cases h
  position_of_column i c h := by cases h

/-! ## One more column -/

/-- A column of an id that has a position is a duplicate. -/
theorem push_of_position {i : Nat} (h : d.index.get? c.id = some i) : d.push c = d := by
  rw [push, h]

/-- A column of an id that has no position becomes the last one. -/
theorem push_of_new (h : d.index.get? c.id = none) :
    d.push c = { d with
      columns := d.columns ++ [c]
      index := d.index.insert c.id d.columns.length } := by
  rw [push, h]

@[simp] theorem id_push (d : Dataset) (c : Column) : (d.push c).id = d.id := by
  unfold push
  split <;> rfl

@[simp] theorem name_push (d : Dataset) (c : Column) : (d.push c).name = d.name := by
  unfold push
  split <;> rfl

namespace Indexed

/-- An id has no position exactly if no column has it. -/
theorem get?_eq_none_iff (h : d.Indexed) {id : String} :
    d.index.get? id = none ↔ ∀ c ∈ d.columns, c.id ≠ id := by
  constructor
  · intro hnone c hc hid
    obtain ⟨i, hi⟩ := List.mem_iff_getElem?.1 hc
    have hposition := h.position_of_column i c hi
    rw [hid, hnone] at hposition
    cases hposition
  · intro hno
    cases hposition : d.index.get? id with
    | none => rfl
    | some i =>
      obtain ⟨c, hc, hid⟩ := h.column_of_position id i hposition
      exact absurd hid (hno c (List.mem_of_getElem? hc))

/-- One more column gets the position at the end, and the others stay where they are. A duplicate
gets none. -/
theorem push (h : d.Indexed) (c : Column) : (d.push c).Indexed := by
  cases hposition : d.index.get? c.id with
  | some i => rwa [push_of_position hposition]
  | none =>
    rw [push_of_new hposition]
    constructor
    · intro id i hi
      rw [Table.get?_insert] at hi
      split at hi
      · next hid =>
        obtain rfl := Option.some.inj hi
        exact ⟨c, List.getElem?_concat_length, hid⟩
      · obtain ⟨c', hc', hid⟩ := h.column_of_position id i hi
        exact ⟨c', by rw [List.getElem?_append_left (List.getElem?_eq_some_iff.1 hc').1, hc'], hid⟩
    · intro i c' hc'
      rw [Table.get?_insert]
      rcases Nat.lt_or_ge i d.columns.length with hi | hi
      · rw [List.getElem?_append_left hi] at hc'
        have hold := h.position_of_column i c' hc'
        have hne : c.id ≠ c'.id := fun hid => by simp [hid, hold] at hposition
        rw [if_neg hne, hold]
      · rw [List.getElem?_append_right hi, List.getElem?_singleton] at hc'
        split at hc'
        · next hlast =>
          obtain rfl := Option.some.inj hc'
          rw [if_pos rfl, Nat.le_antisymm hi (Nat.le_of_sub_eq_zero hlast)]
        · cases hc'

/-- The columns after one more: it is the last one, unless there was one of its id. -/
theorem columns_push (h : d.Indexed) (c : Column) :
    (d.push c).columns
      = if ∃ c' ∈ d.columns, c'.id = c.id then d.columns else d.columns ++ [c] := by
  cases hposition : d.index.get? c.id with
  | some i =>
    obtain ⟨c', hc', hid⟩ := h.column_of_position _ i hposition
    rw [push_of_position hposition, if_pos ⟨c', List.mem_of_getElem? hc', hid⟩]
  | none =>
    have hno : ¬ ∃ c' ∈ d.columns, c'.id = c.id := fun ⟨c', hc', hid⟩ =>
      h.get?_eq_none_iff.1 hposition c' hc' hid
    rw [push_of_new hposition, if_neg hno]

/-! ## Looking a column up -/

/-- What is found by the index is the first column of the id. -/
theorem column?_eq (h : d.Indexed) (name : String) :
    d.column? name = d.columns.find? fun c => c.id = Text.lower name := by
  rw [column?]
  cases hposition : d.index.get? (Text.lower name) with
  | none =>
    have hno := h.get?_eq_none_iff.1 hposition
    exact (List.find?_eq_none.2 fun c hc => by simpa using hno c hc).symm
  | some i =>
    obtain ⟨c, hc, hid⟩ := h.column_of_position _ i hposition
    have hsome : (d.columns.find? fun c => c.id = Text.lower name).isSome :=
      List.find?_isSome.2 ⟨c, List.mem_of_getElem? hc, decide_eq_true hid⟩
    obtain ⟨first, hfirst⟩ := Option.isSome_iff_exists.1 hsome
    obtain ⟨j, hj⟩ := List.mem_iff_getElem?.1 (List.mem_of_find?_eq_some hfirst)
    have hfirstId : first.id = Text.lower name := by simpa using List.find?_some hfirst
    -- Both columns have the id, and the index has one position for it.
    have hsame : some j = some i := by
      rw [← h.position_of_column j first hj, hfirstId, hposition]
    rw [Option.bind_some, hfirst, ← hj, Option.some.inj hsame]

end Indexed

end Dataset

end Pushdown
