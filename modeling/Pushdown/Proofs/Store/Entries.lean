import Mathlib.Algebra.GroupWithZero.Nat
import Mathlib.Data.List.Flatten

/-!
# Lists of entries

Laws of lists in which entries stand under keys, or under their places: what is found when a key is
left out, and what an exchanged entry adds to a total.
-/

namespace Pushdown

/-- What stands under a key stays there when another key is left out. -/
theorem lookup_filter_of_ne {κ β : Type} [DecidableEq κ] {key other : κ} (h : other ≠ key)
    (entries : List (κ × β)) :
    (entries.filter fun entry => entry.1 ≠ key).lookup other = entries.lookup other := by
  induction entries with
  | nil => rfl
  | cons entry rest ih =>
    by_cases hentry : entry.1 = key
    · have hother : (other == entry.1) = false := by simpa [hentry] using h
      rw [List.filter_cons_of_neg (by simpa using hentry), ih, List.lookup_cons, hother]
    · rw [List.filter_cons_of_pos (by simpa using hentry), List.lookup_cons, List.lookup_cons, ih]

variable {α γ : Type} {l : List α} {i j : Nat} {a b : α}

/-- An exchanged entry changes a total by what it adds instead of the old one. -/
theorem sum_map_set (h : l[i]? = some a) (b : α) (f : α → Nat) :
    ((l.set i b).map f).sum + f a = (l.map f).sum + f b := by
  induction l generalizing i with
  | nil => cases h
  | cons c l ih =>
    cases i with
    | zero =>
      cases h
      simp only [List.set_cons_zero, List.map_cons, List.sum_cons]
      omega
    | succ i =>
      have hrest := ih (i := i) h
      simp only [List.set_cons_succ, List.map_cons, List.sum_cons]
      omega

variable [DecidableEq γ] {f : α → List γ} {g : γ}

/-- So it does with the number of times that something is named in all entries. -/
theorem count_flatMap_set (h : l[i]? = some a) (b : α) (f : α → List γ) (g : γ) :
    ((l.set i b).flatMap f).count g + (f a).count g
      = (l.flatMap f).count g + (f b).count g := by
  rw [List.count_flatMap, List.count_flatMap]
  exact sum_map_set h b (List.count g ∘ f)

/-- What is named only once is named in one entry. -/
theorem index_eq_of_count_flatMap (hcount : (l.flatMap f).count g ≤ 1) (hi : l[i]? = some a)
    (hj : l[j]? = some b) (ha : g ∈ f a) (hb : g ∈ f b) : i = j := by
  induction l generalizing i j with
  | nil => cases hi
  | cons c l ih =>
    have hmem {k : Nat} {d : α} (hk : l[k]? = some d) (hd : g ∈ f d) :
        0 < (l.flatMap f).count g :=
      List.count_pos_iff.2 (List.mem_flatMap.2 ⟨d, List.mem_of_getElem? hk, hd⟩)
    rw [List.flatMap_cons, List.count_append] at hcount
    cases i with
    | zero =>
      cases hi
      have hfirst := List.count_pos_iff.2 ha
      cases j with
      | zero => rfl
      | succ j =>
        have hrest := hmem (k := j) hj hb
        omega
    | succ i =>
      cases j with
      | zero =>
        cases hj
        have hfirst := List.count_pos_iff.2 hb
        have hrest := hmem (k := i) hi ha
        omega
      | succ j =>
        exact congrArg Nat.succ (ih (by omega) (i := i) (j := j) hi hj)

end Pushdown
