import Pushdown.Predicate.Basic

/-!
# What predicates mean

A row holds at most one value under a name. How values compare with literals is left open, and so
is what a backend makes of a row without a value when a test asks for something else than some
values (`Absence`): it may be that nothing is known, or that the row differs from all of them. Given
both, `Predicate.selects` says whether a predicate selects a row.

`Predicate.induction` is induction along predicates. `Predicate.leaves` are the tests that a
predicate is made of, and `Predicate.Sound` is what the renderings of a predicate rely on: every
list has a member, and what is compared for equality is not a number beyond all numbers.
-/

namespace Pushdown

/-- A list has a member that passes one of two tests if they agree on its members. -/
theorem any_congr_of_mem {α : Type} {l : List α} {test test' : α → Bool}
    (h : ∀ a ∈ l, test a = test' a) : l.any test = l.any test' := by
  rw [Bool.eq_iff_iff, List.any_eq_true, List.any_eq_true]
  exact exists_congr fun a => and_congr_right fun ha => by rw [h a ha]

/-- A function that goes along a list and treats each member by another one maps the list. -/
theorem eq_map_of_cons {α β : Type} {each : List α → List β} {one : α → β}
    (hnil : each [] = []) (hcons : ∀ a l, each (a :: l) = one a :: each l) (l : List α) :
    each l = l.map one := by
  induction l with
  | nil => exact hnil
  | cons a l ih => rw [hcons, ih, List.map_cons]

/-- Whether a comparison holds of two things that compare so. -/
def Comparison.holds : Comparison → Ordering → Bool
  | .eq => Ordering.isEq
  | .ne => Ordering.isNe
  | .lt => Ordering.isLT
  | .le => Ordering.isLE
  | .gt => Ordering.isGT
  | .ge => Ordering.isGE

/-- Whether a row without a value satisfies the tests for something else than some values. -/
structure Absence where
  /-- To differ from a value. -/
  unequal : Bool
  /-- To be outside a range. -/
  outside : Bool
  /-- To differ from all values of a list. -/
  unlisted : Bool
  deriving DecidableEq, Repr, Inhabited

namespace Absence

/-- Nothing is known of a value that is not there. -/
def unknown : Absence := ⟨false, false, false⟩

/-- A row without a value satisfies every test that negates another one. -/
def complement : Absence := ⟨true, true, true⟩

/-- A row without a value differs from all values, but is neither below nor above a range. -/
def apart : Absence := ⟨true, false, true⟩

end Absence

/-- Whether a literal is not a number beyond all numbers. -/
def Literal.IsFinite : Literal → Prop
  | .number x => x.isFinite
  | .text _ | .bool _ | .timestamp _ => True

namespace Predicate

/-- Induction along predicates. -/
@[elab_as_elim]
theorem induction {motive : Predicate → Prop}
    (compare : ∀ column op value, motive (.compare column op value))
    (between : ∀ column low high negated, motive (.between column low high negated))
    (inList : ∀ column values negated, motive (.inList column values negated))
    (isNull : ∀ column negated, motive (.isNull column negated))
    (any : ∀ parts, (∀ part ∈ parts, motive part) → motive (.any parts))
    (all : ∀ parts, (∀ part ∈ parts, motive part) → motive (.all parts))
    (constant : ∀ value, motive (.constant value)) (p : Predicate) : motive p :=
  @Predicate.rec motive (fun parts => ∀ part ∈ parts, motive part) compare between inList isNull
    any all constant (fun _ h => nomatch h)
    (fun _ _ ihp ihps _ h => (List.mem_cons.1 h).elim (fun he => he ▸ ihp) (ihps _)) p

/-! ## The tests of a predicate -/

mutual

/-- The tests that a predicate is made of. -/
def leaves : Predicate → List Predicate
  | .any parts | .all parts => leavesOf parts
  | p => [p]

/-- The tests that some predicates are made of. -/
def leavesOf : List Predicate → List Predicate
  | [] => []
  | p :: rest => p.leaves ++ leavesOf rest

end

theorem leavesOf_eq (parts : List Predicate) : leavesOf parts = parts.flatMap leaves := by
  induction parts with
  | nil => rfl
  | cons p rest ih => rw [leavesOf, ih, List.flatMap_cons]

@[simp] theorem leaves_any (parts : List Predicate) :
    (Predicate.any parts).leaves = parts.flatMap leaves := by
  rw [leaves, leavesOf_eq]

@[simp] theorem leaves_all (parts : List Predicate) :
    (Predicate.all parts).leaves = parts.flatMap leaves := by
  rw [leaves, leavesOf_eq]

theorem leaves_subset_any {part : Predicate} {parts : List Predicate} (h : part ∈ parts) :
    part.leaves ⊆ (any parts).leaves := by
  rw [leaves_any]
  exact fun leaf hleaf => List.mem_flatMap.2 ⟨part, h, hleaf⟩

theorem leaves_subset_all {part : Predicate} {parts : List Predicate} (h : part ∈ parts) :
    part.leaves ⊆ (all parts).leaves := by
  rw [leaves_all]
  exact fun leaf hleaf => List.mem_flatMap.2 ⟨part, h, hleaf⟩

/-- The column a test is about. -/
def column? : Predicate → Option Column
  | .compare column _ _ | .between column _ _ _ | .inList column _ _ | .isNull column _ =>
    some column
  | .any _ | .all _ | .constant _ => none

/-- The literals of a test. -/
def operands : Predicate → List Literal
  | .compare _ _ value => [value]
  | .between _ low high _ => [low, high]
  | .inList _ values _ => values
  | .isNull _ _ | .any _ | .all _ | .constant _ => []

/-- The literals of a predicate. -/
def literals (p : Predicate) : List Literal := p.leaves.flatMap operands

/-- The columns of a predicate. -/
def columns (p : Predicate) : List Column := p.leaves.filterMap column?

/-- Whether a test can be rendered: a list has a member, and a number compared for equality is
finite. -/
def IsSoundTest : Predicate → Prop
  | .compare _ _ value => value.IsFinite
  | .inList _ values _ => values ≠ [] ∧ ∀ value ∈ values, value.IsFinite
  | _ => True

/-- A predicate whose tests can be rendered. -/
def Sound (p : Predicate) : Prop := ∀ leaf ∈ p.leaves, leaf.IsSoundTest

/-! ## Selection -/

section
variable {V : Type} (absence : Absence) (row : String → Option V) (cmp : V → Literal → Ordering)

/-- Whether a value is within a closed range. -/
def within (v : V) (low high : Literal) : Bool :=
  (cmp v low).isGE && (cmp v high).isLE

/-- A value is outside a range if it is below or above it. -/
theorem outside_eq (v : V) (low high : Literal) :
    ((cmp v low).isLT || (cmp v high).isGT) = (within cmp v low high != true) := by
  unfold within
  cases cmp v low <;> cases cmp v high <;> rfl

/-- Whether a value is one of a list. -/
def isAmong (v : V) (values : List Literal) : Bool :=
  values.any fun value => (cmp v value).isEq

mutual

/-- Whether a predicate selects a row. -/
def selects : Predicate → Bool
  | .compare column op value =>
    (row column.name).elim (op = .ne && absence.unequal) fun v => op.holds (cmp v value)
  | .between column low high negated =>
    (row column.name).elim (negated && absence.outside) fun v => within cmp v low high != negated
  | .inList column values negated =>
    (row column.name).elim (negated && absence.unlisted) fun v => isAmong cmp v values != negated
  | .isNull column negated => (row column.name).isNone != negated
  | .any parts => selectsSome parts
  | .all parts => selectsEvery parts
  | .constant value => value

/-- Whether one of several predicates selects a row. -/
def selectsSome : List Predicate → Bool
  | [] => false
  | p :: rest => selects p || selectsSome rest

/-- Whether each of several predicates selects a row. -/
def selectsEvery : List Predicate → Bool
  | [] => true
  | p :: rest => selects p && selectsEvery rest

end

@[simp] theorem selects_any (parts : List Predicate) :
    selects absence row cmp (.any parts) = (parts.map (selects absence row cmp)).any id := by
  rw [selects]
  induction parts with
  | nil => rfl
  | cons p rest ih => rw [selectsSome, ih]; rfl

@[simp] theorem selects_all (parts : List Predicate) :
    selects absence row cmp (.all parts) = (parts.map (selects absence row cmp)).all id := by
  rw [selects]
  induction parts with
  | nil => rfl
  | cons p rest ih => rw [selectsEvery, ih]; rfl

/-- What is written in place of a literal compares as the literal does. -/
def FaithfulOn {R : Type} (compare : V → R → Ordering) (render : Literal → R) (p : Predicate) :
    Prop :=
  ∀ literal ∈ p.literals, ∀ v, compare v (render literal) = cmp v literal

variable {cmp} in
/-- To be one of a list is to be one of what is written in place of its members. -/
theorem any_isEq_map {R : Type} {compare : V → R → Ordering} {render : Literal → R}
    {values : List Literal} (h : ∀ value ∈ values, ∀ v, compare v (render value) = cmp v value)
    (v : V) :
    ((values.map render).any fun value => (compare v value).isEq) = isAmong cmp v values := by
  rw [List.any_map]
  exact any_congr_of_mem fun value hvalue => congrArg Ordering.isEq (h value hvalue v)

/-- The exact sub-fields of the columns of a predicate hold what their fields hold. -/
def ExactFieldsAgree (p : Predicate) : Prop :=
  ∀ column ∈ p.columns, column.hasKeyword → row (column.name ++ ".keyword") = row column.name

/-! What holds of a predicate holds of its tests and of its parts. -/

variable {row cmp} {p q : Predicate} {parts : List Predicate}

theorem Sound.mono (h : p.Sound) (hq : q.leaves ⊆ p.leaves) : q.Sound :=
  fun leaf hleaf => h leaf (hq hleaf)

theorem Sound.test (h : p.Sound) (hp : p.leaves = [p]) : p.IsSoundTest :=
  h p (hp ▸ List.mem_singleton_self p)

theorem Sound.of_any (h : (any parts).Sound) : ∀ part ∈ parts, part.Sound :=
  fun _ hpart => h.mono (leaves_subset_any hpart)

theorem Sound.of_all (h : (all parts).Sound) : ∀ part ∈ parts, part.Sound :=
  fun _ hpart => h.mono (leaves_subset_all hpart)

section
variable {R : Type} {compare : V → R → Ordering} {render : Literal → R}

theorem FaithfulOn.mono (h : FaithfulOn cmp compare render p) (hq : q.leaves ⊆ p.leaves) :
    FaithfulOn cmp compare render q := by
  intro literal hliteral
  obtain ⟨leaf, hleaf, hmem⟩ := List.mem_flatMap.1 hliteral
  exact h literal (List.mem_flatMap.2 ⟨leaf, hq hleaf, hmem⟩)

theorem FaithfulOn.test (h : FaithfulOn cmp compare render p) (hp : p.leaves = [p]) :
    ∀ literal ∈ p.operands, ∀ v, compare v (render literal) = cmp v literal := by
  intro literal hliteral
  refine h literal ?_
  rw [literals, hp, List.flatMap_singleton]
  exact hliteral

theorem FaithfulOn.of_any (h : FaithfulOn cmp compare render (any parts)) :
    ∀ part ∈ parts, FaithfulOn cmp compare render part :=
  fun _ hpart => h.mono (leaves_subset_any hpart)

theorem FaithfulOn.of_all (h : FaithfulOn cmp compare render (all parts)) :
    ∀ part ∈ parts, FaithfulOn cmp compare render part :=
  fun _ hpart => h.mono (leaves_subset_all hpart)

end

theorem ExactFieldsAgree.mono (h : ExactFieldsAgree row p) (hq : q.leaves ⊆ p.leaves) :
    ExactFieldsAgree row q := by
  intro column hcolumn
  obtain ⟨leaf, hleaf, hmem⟩ := List.mem_filterMap.1 hcolumn
  exact h column (List.mem_filterMap.2 ⟨leaf, hq hleaf, hmem⟩)

theorem ExactFieldsAgree.test {column : Column} (h : ExactFieldsAgree row p) (hp : p.leaves = [p])
    (hcolumn : p.column? = some column) :
    column.hasKeyword → row (column.name ++ ".keyword") = row column.name :=
  h column (List.mem_filterMap.2 ⟨p, hp ▸ List.mem_singleton_self p, hcolumn⟩)

theorem ExactFieldsAgree.of_any (h : ExactFieldsAgree row (any parts)) :
    ∀ part ∈ parts, ExactFieldsAgree row part :=
  fun _ hpart => h.mono (leaves_subset_any hpart)

theorem ExactFieldsAgree.of_all (h : ExactFieldsAgree row (all parts)) :
    ∀ part ∈ parts, ExactFieldsAgree row part :=
  fun _ hpart => h.mono (leaves_subset_all hpart)

end

end Predicate

end Pushdown
