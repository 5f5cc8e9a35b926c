import Mathlib.Data.List.Forall2
import Pushdown.Query.Plan

/-!
# What a plan is built from

`Plan.build_ok` takes a plan apart: it was built from a dataset of the schema, with a projection for
each requested column and a predicate for each filter, in order. What the projections of a plan can
be follows from that. Without pushdown the rows of a result are rows of the dataset, and nothing of
them is left out but the constant that stands for a row (`Plan.isColumn_or_unit`).
-/

namespace Pushdown

/-- A computation that goes on after another one succeeds only if both do. -/
theorem Except.ok_of_bind {ε α β : Type} {x : Except ε α} {f : α → Except ε β} {b : β}
    (h : x >>= f = .ok b) : ∃ a, x = .ok a ∧ f a = .ok b := by
  cases x with
  | error e => cases h
  | ok a => exact ⟨a, rfl, h⟩

/-- What is computed from a list is computed from its members, in order. -/
theorem Except.forall₂_of_mapM {ε α β : Type} {f : α → Except ε β} :
    ∀ {l : List α} {l' : List β}, l.mapM f = .ok l' → List.Forall₂ (fun a b => f a = .ok b) l l'
  | [], l', h => by
    rw [List.mapM_nil] at h
    cases h
    exact .nil
  | a :: l, l', h => by
    rw [List.mapM_cons] at h
    obtain ⟨b, hb, h⟩ := ok_of_bind h
    obtain ⟨bs, hbs, h⟩ := ok_of_bind h
    cases h
    exact .cons hb (forall₂_of_mapM hbs)

/-- Members of related lists are related to members. -/
theorem exists_mem_of_forall₂ {α β : Type} {R : α → β → Prop} {l : List α}
    {l' : List β} (h : List.Forall₂ R l l') {b : β} (hb : b ∈ l') : ∃ a ∈ l, R a b := by
  induction h with
  | nil => cases hb
  | cons hab _ ih =>
    rcases List.mem_cons.1 hb with rfl | hb
    · exact ⟨_, List.mem_cons_self, hab⟩
    · obtain ⟨a, ha, hR⟩ := ih hb
      exact ⟨a, List.mem_cons_of_mem _ ha, hR⟩

namespace Plan

variable {options : FilterOptions} {schema : Schema} {request : Request} {plan : Plan}

/-- A plan has a projection for each requested column and a predicate for each filter. -/
theorem build_ok (h : build options schema request = .ok plan) :
    ∃ dataset, schema.resolve request.datasetId = .ok dataset
      ∧ plan.datasetId = dataset.id ∧ plan.datasetName = dataset.name
      ∧ plan.pushdown = request.pushdown
      ∧ List.Forall₂ (fun requested projection =>
          project request.pushdown dataset requested = .ok projection)
          request.columns plan.projections
      ∧ List.Forall₂ (fun filter predicate =>
          Predicate.ofDatasetFilter options dataset filter = .ok predicate)
          request.filters plan.predicates := by
  unfold build at h
  split at h
  · cases h
  obtain ⟨dataset, hdataset, h⟩ := Except.ok_of_bind h
  obtain ⟨projections, hprojections, h⟩ := Except.ok_of_bind h
  obtain ⟨predicates, hpredicates, h⟩ := Except.ok_of_bind h
  cases h
  exact ⟨dataset, hdataset, rfl, rfl, rfl, Except.forall₂_of_mapM hprojections,
    Except.forall₂_of_mapM hpredicates⟩

/-- Without pushdown a requested column becomes a column, or the constant of a row. -/
theorem isColumn_or_unit_of_project {dataset : Dataset} {requested : RequestedColumn}
    {projection : Projection} (h : project false dataset requested = .ok projection) :
    projection.isColumn ∨ projection = .unit := by
  unfold project at h
  split at h
  · refine .inr ?_
    unfold projectRows at h
    split at h <;> cases h <;> rfl
  · refine .inl ?_
    obtain ⟨column, -, h⟩ := Except.ok_of_bind h
    cases h
    rfl

/-- Without pushdown the projections of a plan are columns and the constant of a row. -/
theorem isColumn_or_unit (h : build options schema request = .ok plan)
    (hp : plan.pushdown = false) :
    ∀ projection ∈ plan.projections, projection.isColumn ∨ projection = .unit := by
  obtain ⟨dataset, -, -, -, hpushdown, hprojections, -⟩ := build_ok h
  rw [← hpushdown, hp] at hprojections
  intro projection hmem
  obtain ⟨requested, -, hproject⟩ := exists_mem_of_forall₂ hprojections hmem
  exact isColumn_or_unit_of_project hproject

end Plan

end Pushdown
