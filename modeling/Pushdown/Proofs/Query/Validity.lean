import Pushdown.Engine.Basic
import Pushdown.Proofs.Predicate.Filters

/-!
# Valid requests

`Request.Valid` says when a request makes sense against a schema, and `Request.FirstFault` what is
wrong with one that does not: the first thing in the order columns missing, dataset, columns,
filters. Neither speaks of a backend. `Plan.accepts_valid` is that a plan is built exactly for the
valid requests and that every other one fails with its first fault, whatever the options for filters
and hence whatever the kind of backend.

The parts follow the request. A list of parts that are checked one after the other fails with the
first part that does (`Except.mapM_eq_error_iff`), and a part passes its check exactly if it is
valid (`Plan.exists_project_iff`, `Predicate.exists_ofDatasetFilter_iff`).
-/

namespace Pushdown

/-! ## Checks one after the other -/

namespace Except

variable {ε α β : Type} {f : α → Except ε β} {e : ε}

theorem bind_eq_error_iff {x : Except ε α} :
    x >>= f = .error e ↔ x = .error e ∨ ∃ a, x = .ok a ∧ f a = .error e := by
  cases x with
  | error e' =>
    refine ⟨fun h => .inl (by cases h; rfl), ?_⟩
    rintro (h | ⟨_, h, -⟩) <;> cases h
    rfl
  | ok a =>
    refine ⟨fun h => .inr ⟨a, rfl, h⟩, ?_⟩
    rintro (h | ⟨a, ⟨⟩, h⟩)
    · cases h
    · exact h

theorem exists_bind_eq_ok_iff {x : Except ε α} :
    (∃ b, x >>= f = .ok b) ↔ ∃ a, x = .ok a ∧ ∃ b, f a = .ok b := by
  constructor
  · rintro ⟨b, h⟩
    obtain ⟨a, ha, hb⟩ := ok_of_bind h
    exact ⟨a, ha, b, hb⟩
  · rintro ⟨a, rfl, b, hb⟩
    exact ⟨b, hb⟩

theorem exists_map_eq_ok_iff {x : Except ε α} {g : α → β} :
    (∃ b, x.map g = .ok b) ↔ ∃ a, x = .ok a := by
  cases x <;> simp [Except.map]

theorem map_eq_error_iff {x : Except ε α} {g : α → β} : x.map g = .error e ↔ x = .error e := by
  cases x <;> simp [Except.map]

/-- A list is computed if each of its members is. -/
theorem exists_mapM_eq_ok_iff {l : List α} :
    (∃ bs, l.mapM f = .ok bs) ↔ ∀ a ∈ l, ∃ b, f a = .ok b := by
  induction l with
  | nil => exact ⟨fun _ => nofun, fun _ => ⟨[], rfl⟩⟩
  | cons a l ih =>
    rw [List.mapM_cons, exists_bind_eq_ok_iff, List.forall_mem_cons]
    constructor
    · rintro ⟨b, hb, h⟩
      obtain ⟨bs, hbs, -⟩ := exists_bind_eq_ok_iff.1 h
      exact ⟨⟨b, hb⟩, ih.1 ⟨bs, hbs⟩⟩
    · rintro ⟨⟨b, hb⟩, hl⟩
      obtain ⟨bs, hbs⟩ := ih.2 hl
      exact ⟨b, hb, exists_bind_eq_ok_iff.2 ⟨bs, hbs, b :: bs, rfl⟩⟩

/-- Otherwise it fails as the first of its members that does. -/
theorem mapM_eq_error_iff {l : List α} :
    l.mapM f = .error e ↔ ∃ before a after, l = before ++ a :: after
      ∧ (∀ a' ∈ before, ∃ b, f a' = .ok b) ∧ f a = .error e := by
  induction l with
  | nil =>
    constructor
    · nofun
    · rintro ⟨before, a, after, h, -⟩
      exact absurd h.symm (by simp)
  | cons a l ih =>
    rw [List.mapM_cons, bind_eq_error_iff]
    constructor
    · rintro (h | ⟨b, hb, h⟩)
      · exact ⟨[], a, l, rfl, nofun, h⟩
      · rcases bind_eq_error_iff.1 h with h | ⟨bs, -, h⟩
        · obtain ⟨before, a', after, rfl, hbefore, ha'⟩ := ih.1 h
          exact ⟨a :: before, a', after, rfl, List.forall_mem_cons.2 ⟨⟨b, hb⟩, hbefore⟩, ha'⟩
        · cases h
    · rintro ⟨before, a', after, heq, hbefore, ha'⟩
      cases before with
      | nil =>
        obtain ⟨rfl, rfl⟩ := List.cons.inj heq
        exact .inl ha'
      | cons first before =>
        obtain ⟨rfl, rfl⟩ := List.cons.inj heq
        obtain ⟨⟨b, hb⟩, hbefore⟩ := List.forall_mem_cons.1 hbefore
        exact .inr ⟨b, hb, bind_eq_error_iff.2 (.inl (ih.2 ⟨before, a', after, rfl, hbefore, ha'⟩))⟩

end Except

/-! ## What is asked of a request -/

/-- Whether a filter value can be compared with a column. -/
def Column.Takes (column : Column) (value : Json) : Prop :=
  ∃ literal, Literal.coerce column value = .ok literal

/-- Whether the columns of a type can be reduced so: counted always, added up if they are numbers,
and ordered unless they are labels. -/
def Aggregation.Reduces (type : ColumnType) : Aggregation → Prop
  | .count | .distinctCount => True
  | .sum => type = .numeric
  | .min | .max => type ≠ .hierarchy

/-- A requested column is valid if it stands for the rows, which can only be counted, or if it is a
column of the dataset, which under pushdown is reduced as its type allows. The id that stands for
the rows names no column. -/
def RequestedColumn.Valid (pushdown : Bool) (dataset : Dataset) (c : RequestedColumn) : Prop :=
  if c.isWildcard then c.aggregation = none ∨ c.aggregation = some .count
  else ∃ column, dataset.column? c.columnId = some column
    ∧ (pushdown = true → ∀ aggregation, c.aggregation = some aggregation →
      aggregation.Reduces column.type)

/-- What is wrong with a requested column. -/
inductive RequestedColumn.Fault (pushdown : Bool) (dataset : Dataset) (c : RequestedColumn) :
    Failure → Prop where
  | wildcard {aggregation : Aggregation} (hwildcard : c.isWildcard)
    (haggregation : c.aggregation = some aggregation) (hcount : aggregation ≠ .count) :
    Fault pushdown dataset c (.wildcardAggregation aggregation)
  | unknown (hwildcard : c.isWildcard = false) (hunknown : dataset.column? c.columnId = none) :
    Fault pushdown dataset c (.unknownColumn c.columnId dataset.id)
  | unsupported {column : Column} {aggregation : Aggregation} (hwildcard : c.isWildcard = false)
    (hcolumn : dataset.column? c.columnId = some column) (hpushdown : pushdown = true)
    (haggregation : c.aggregation = some aggregation)
    (hreduces : ¬ aggregation.Reduces column.type) :
    Fault pushdown dataset c (.unsupportedAggregation aggregation column)

/-- Whether the values of a filter fit its column: a test for `null` has none to fit, a list may
hold `null` beside what the column takes, and a comparison looks at its first value, which may be
`null` if it is tested for equality. -/
def Filter.Fits (column : Column) (f : Filter) : Prop :=
  match f.test with
  | .isNull | .isNotNull => True
  | .isIn | .notIn => ∀ value ∈ f.values, value ≠ .null → column.Takes value
  | .eq | .ne => ∃ value, f.values.head? = some value ∧ (value = .null ∨ column.Takes value)
  | .lt | .le | .gt | .ge =>
    ∃ value, f.values.head? = some value ∧ value ≠ .null ∧ column.Takes value

/-- A filter is valid if its column is one of the dataset and its values fit. -/
def Filter.Valid (dataset : Dataset) (f : Filter) : Prop :=
  ∃ column, dataset.column? f.columnId = some column ∧ f.Fits column

/-- What is wrong with the values of a filter. -/
inductive Filter.Misfit (column : Column) (f : Filter) : Failure → Prop where
  | missing {op : Comparison} (htest : f.test = op.test) (hvalues : f.values = []) :
    Misfit column f (.missingValue f.test f.columnId)
  | null {op : Comparison} (htest : f.test = op.test) (horder : op ≠ .eq ∧ op ≠ .ne)
    (hvalue : f.values.head? = some .null) : Misfit column f (.nullComparison f.test f.columnId)
  | compared {op : Comparison} {value : Json} (htest : f.test = op.test)
    (hvalue : f.values.head? = some value) (hnull : value ≠ .null) (htakes : ¬ column.Takes value) :
    Misfit column f (.invalidValue value column)
  | listed {before after : List Json} {value : Json} (htest : f.test = .isIn ∨ f.test = .notIn)
    (hvalues : f.values = before ++ value :: after)
    (hbefore : ∀ earlier ∈ before, earlier ≠ .null → column.Takes earlier)
    (hnull : value ≠ .null) (htakes : ¬ column.Takes value) :
    Misfit column f (.invalidValue value column)

/-- What is wrong with a filter. -/
inductive Filter.Fault (dataset : Dataset) (f : Filter) : Failure → Prop where
  | unknown (hunknown : dataset.column? f.columnId = none) :
    Fault dataset f (.unknownColumn f.columnId dataset.id)
  | misfit {column : Column} {e : Failure} (hcolumn : dataset.column? f.columnId = some column)
    (hmisfit : f.Misfit column e) : Fault dataset f e

/-- A request is valid if it asks for something, its dataset is known, and its columns and filters
are valid. -/
def Request.Valid (schema : Schema) (request : Request) : Prop :=
  request.columns ≠ [] ∧ ∃ dataset, schema.dataset? request.datasetId = some dataset
    ∧ (∀ c ∈ request.columns, c.Valid request.pushdown dataset)
    ∧ ∀ f ∈ request.filters, f.Valid dataset

/-- The first thing that is wrong with a request. -/
inductive Request.FirstFault (schema : Schema) (request : Request) : Failure → Prop where
  | noColumns (hcolumns : request.columns = []) : FirstFault schema request .noColumns
  | dataset (hcolumns : request.columns ≠ [])
    (hunknown : schema.dataset? request.datasetId = none) :
    FirstFault schema request (.unknownDataset request.datasetId)
  | column {dataset : Dataset} {before after : List RequestedColumn} {c : RequestedColumn}
    {e : Failure} (hdataset : schema.dataset? request.datasetId = some dataset)
    (hcolumns : request.columns = before ++ c :: after)
    (hbefore : ∀ earlier ∈ before, earlier.Valid request.pushdown dataset)
    (hfault : c.Fault request.pushdown dataset e) : FirstFault schema request e
  | filter {dataset : Dataset} {before after : List Filter} {f : Filter} {e : Failure}
    (hne : request.columns ≠ [])
    (hdataset : schema.dataset? request.datasetId = some dataset)
    (hcolumns : ∀ c ∈ request.columns, c.Valid request.pushdown dataset)
    (hfilters : request.filters = before ++ f :: after)
    (hbefore : ∀ earlier ∈ before, earlier.Valid dataset)
    (hfault : f.Fault dataset e) : FirstFault schema request e

/-- Whether a failure is about a name that is not known. -/
def Failure.isUnresolved : Failure → Bool
  | .unknownDataset _ | .unknownColumn .. => true
  | _ => false

/-! ## Names -/

theorem Dataset.resolve_eq_ok {d : Dataset} {name : String} {column : Column} :
    d.resolve name = .ok column ↔ d.column? name = some column := by
  unfold Dataset.resolve
  split
  · next c h => rw [h]; simp
  · next h => rw [h]; simp

theorem Dataset.resolve_eq_error {d : Dataset} {name : String} {e : Failure} :
    d.resolve name = .error e ↔ d.column? name = none ∧ e = .unknownColumn name d.id := by
  unfold Dataset.resolve
  split
  · next c h => rw [h]; simp
  · next h => rw [h]; simp [eq_comm]

theorem Schema.resolve_eq_ok {s : Schema} {name : String} {dataset : Dataset} :
    s.resolve name = .ok dataset ↔ s.dataset? name = some dataset := by
  unfold Schema.resolve
  split
  · next d h => rw [h]; simp
  · next h => rw [h]; simp

theorem Schema.resolve_eq_error {s : Schema} {name : String} {e : Failure} :
    s.resolve name = .error e ↔ s.dataset? name = none ∧ e = .unknownDataset name := by
  unfold Schema.resolve
  split
  · next d h => rw [h]; simp
  · next h => rw [h]; simp [eq_comm]

/-! ## Columns -/

namespace Plan

variable {pushdown : Bool} {dataset : Dataset} {c : RequestedColumn} {e : Failure}

theorem supports_iff {aggregation : Aggregation} {type : ColumnType} :
    supports aggregation type = true ↔ aggregation.Reduces type := by
  cases aggregation <;> simp [supports, Aggregation.Reduces]

/-- The rows can be counted and nothing else. -/
theorem exists_projectRows_iff :
    (∃ projection, projectRows pushdown c = .ok projection)
      ↔ c.aggregation = none ∨ c.aggregation = some .count := by
  unfold projectRows
  split
  · next h => simp [h]
  · next h => simp [h]
  · next aggregation hcount h =>
    have hne : aggregation ≠ .count := fun heq => hcount (heq ▸ rfl)
    simp [h, hne]

theorem projectRows_eq_error_iff :
    projectRows pushdown c = .error e
      ↔ ∃ aggregation, c.aggregation = some aggregation ∧ aggregation ≠ .count
        ∧ e = .wildcardAggregation aggregation := by
  unfold projectRows
  split
  · next h => simp [h]
  · next h => simp [h]
  · next aggregation hcount h =>
    have hne : aggregation ≠ .count := fun heq => hcount (heq ▸ rfl)
    simp [h, hne, eq_comm]

theorem exists_projectColumn_iff {column : Column} :
    (∃ projection, projectColumn pushdown c column = .ok projection)
      ↔ (pushdown = true → ∀ aggregation, c.aggregation = some aggregation →
        aggregation.Reduces column.type) := by
  unfold projectColumn
  split
  · next aggregation h =>
    rw [h]
    split
    · next hsupports => simp [supports_iff.1 hsupports]
    · next hsupports => simp [mt supports_iff.2 hsupports]
  · next hnot =>
    refine iff_of_true ⟨_, rfl⟩ fun hpushdown aggregation h => ?_
    exact absurd h (hnot aggregation hpushdown)

theorem projectColumn_eq_error_iff {column : Column} :
    projectColumn pushdown c column = .error e
      ↔ pushdown = true ∧ ∃ aggregation, c.aggregation = some aggregation
        ∧ ¬ aggregation.Reduces column.type ∧ e = .unsupportedAggregation aggregation column := by
  unfold projectColumn
  split
  · next aggregation h =>
    rw [h]
    split
    · next hsupports => simp [supports_iff.1 hsupports]
    · next hsupports => simp [mt supports_iff.2 hsupports, eq_comm]
  · next hnot =>
    refine iff_of_false nofun ?_
    rintro ⟨hpushdown, aggregation, h, -⟩
    exact hnot aggregation hpushdown h

/-- A column is projected exactly if it is valid. -/
theorem exists_project_iff :
    (∃ projection, project pushdown dataset c = .ok projection) ↔ c.Valid pushdown dataset := by
  unfold project RequestedColumn.Valid
  split
  · exact exists_projectRows_iff
  · simp only [Except.exists_bind_eq_ok_iff, Dataset.resolve_eq_ok, exists_projectColumn_iff]

/-- Otherwise it fails with what is wrong with it. -/
theorem project_eq_error_iff :
    project pushdown dataset c = .error e ↔ c.Fault pushdown dataset e := by
  unfold project
  split
  · next hwildcard =>
    rw [projectRows_eq_error_iff]
    constructor
    · rintro ⟨aggregation, haggregation, hcount, rfl⟩
      exact .wildcard hwildcard haggregation hcount
    · intro h
      cases h with
      | wildcard _ haggregation hcount => exact ⟨_, haggregation, hcount, rfl⟩
      | unknown h | unsupported h => exact absurd hwildcard (by simp [h])
  · next hwildcard =>
    have hwildcard : c.isWildcard = false := Bool.not_eq_true _ ▸ hwildcard
    simp only [Except.bind_eq_error_iff, Dataset.resolve_eq_error, Dataset.resolve_eq_ok,
      projectColumn_eq_error_iff]
    constructor
    · rintro (⟨hunknown, rfl⟩ | ⟨column, hcolumn, hpushdown, aggregation, h, hreduces, rfl⟩)
      · exact .unknown hwildcard hunknown
      · exact .unsupported hwildcard hcolumn hpushdown h hreduces
    · intro h
      cases h with
      | wildcard h => exact absurd h (by simp [hwildcard])
      | unknown _ hunknown => exact .inl ⟨hunknown, rfl⟩
      | unsupported _ hcolumn hpushdown haggregation hreduces =>
        exact .inr ⟨_, hcolumn, hpushdown, _, haggregation, hreduces, rfl⟩

end Plan

/-! ## Filters -/

theorem Literal.coerce_eq_error_iff {column : Column} {value : Json} {e : Failure} :
    Literal.coerce column value = .error e
      ↔ ¬ column.Takes value ∧ e = .invalidValue value column := by
  unfold Column.Takes Literal.coerce
  split
  · next literal _ => simp
  · simp [eq_comm]

namespace Predicate

variable {options : FilterOptions} {column : Column} {f : Filter} {e : Failure}

theorem not_isNull_iff {value : Json} : (!value.isNull) = true ↔ value ≠ .null := by
  cases value <;> simp [Json.isNull]

theorem exists_listedLiterals_iff {values : List Json} :
    (∃ literals, listedLiterals column values = .ok literals)
      ↔ ∀ value ∈ values, value ≠ .null → column.Takes value := by
  rw [listedLiterals, Except.exists_mapM_eq_ok_iff]
  simp only [List.mem_filter, not_isNull_iff, and_imp, Column.Takes]

/-- The first value of a list that the column does not take fails. -/
theorem listedLiterals_eq_error_iff {values : List Json} :
    listedLiterals column values = .error e
      ↔ ∃ before value after, values = before ++ value :: after
        ∧ (∀ earlier ∈ before, earlier ≠ .null → column.Takes earlier)
        ∧ value ≠ .null ∧ ¬ column.Takes value ∧ e = .invalidValue value column := by
  rw [listedLiterals, Except.mapM_eq_error_iff]
  constructor
  · rintro ⟨before, value, after, hvalues, hbefore, hvalue⟩
    obtain ⟨before', after', rfl, rfl, hafter⟩ := List.filter_eq_append_iff.1 hvalues
    -- only `null`s were left out between what was coerced and the value that fails
    obtain ⟨nulls, after', rfl, hnulls, hnull, -⟩ := List.filter_eq_cons_iff.1 hafter
    obtain ⟨htakes, rfl⟩ := Literal.coerce_eq_error_iff.1 hvalue
    refine ⟨before' ++ nulls, value, after', by simp, fun earlier h hne => ?_,
      not_isNull_iff.1 hnull, htakes, rfl⟩
    rcases List.mem_append.1 h with h | h
    · exact hbefore earlier (List.mem_filter.2 ⟨h, not_isNull_iff.2 hne⟩)
    · exact absurd (not_isNull_iff.2 hne) (hnulls earlier h)
  · rintro ⟨before, value, after, rfl, hbefore, hnull, htakes, rfl⟩
    refine ⟨before.filter fun v => !v.isNull, value, after.filter fun v => !v.isNull, ?_,
      fun earlier h => ?_, Literal.coerce_eq_error_iff.2 ⟨htakes, rfl⟩⟩
    · rw [List.filter_append, List.filter_cons, if_pos (not_isNull_iff.2 hnull)]
    · obtain ⟨hmem, hne⟩ := List.mem_filter.1 h
      exact hbefore earlier hmem (not_isNull_iff.1 hne)

/-- A comparison succeeds if its first value can be compared, or is `null` and is tested for
equality. -/
theorem exists_ofComparison_iff {op : Comparison} :
    (∃ p, ofComparison options column f op = .ok p)
      ↔ ∃ value, f.values.head? = some value
        ∧ (value = .null ∧ (op = .eq ∨ op = .ne) ∨ value ≠ .null ∧ column.Takes value) := by
  unfold ofComparison
  split
  · next h => simp [h]
  · next h => cases op <;> simp [h]
  · next value rest hne h =>
    have hnull : value ≠ .null := fun heq => hne (heq ▸ rfl)
    rw [Except.exists_map_eq_ok_iff]
    simp [h, hnull, Column.Takes]

theorem test_inj {op op' : Comparison} : op.test = op'.test ↔ op = op' := by
  cases op <;> cases op' <;> decide

theorem not_isIn_or_notIn (op : Comparison) : ¬ (op.test = .isIn ∨ op.test = .notIn) := by
  cases op <;> decide

theorem ofComparison_eq_error_iff {op : Comparison} (htest : f.test = op.test) :
    ofComparison options column f op = .error e ↔ f.Misfit column e := by
  unfold ofComparison
  constructor
  · split
    · next hvalues =>
      rintro ⟨⟩
      exact .missing htest hvalues
    · next hvalues =>
      have hvalue : f.values.head? = some .null := by rw [hvalues]; rfl
      split
      · nofun
      · nofun
      · next heq hne =>
        rintro ⟨⟩
        exact .null htest ⟨heq, hne⟩ hvalue
    · next value rest hnull hvalues =>
      intro h
      obtain ⟨htakes, rfl⟩ := Literal.coerce_eq_error_iff.1 (Except.map_eq_error_iff.1 h)
      exact .compared htest (by rw [hvalues]; rfl) (fun heq => hnull (heq ▸ rfl)) htakes
  · intro h
    cases h with
    | missing _ hvalues => rw [hvalues]
    | null htest' horder hvalue =>
      obtain rfl := test_inj.1 (htest.symm.trans htest')
      obtain ⟨rest, hvalues⟩ := List.head?_eq_some_iff.1 hvalue
      rw [hvalues]
      cases op with
      | eq => exact absurd rfl horder.1
      | ne => exact absurd rfl horder.2
      | lt | le | gt | ge => rfl
    | compared _ hvalue hnull htakes =>
      obtain ⟨rest, hvalues⟩ := List.head?_eq_some_iff.1 hvalue
      rw [hvalues]
      split
      · next h => cases h
      · next h => exact absurd (List.cons.inj h).1 hnull
      · next h =>
        obtain ⟨rfl, -⟩ := List.cons.inj h
        exact Except.map_eq_error_iff.2 (Literal.coerce_eq_error_iff.2 ⟨htakes, rfl⟩)
    | listed hlist => exact absurd (htest ▸ hlist) (not_isIn_or_notIn op)

theorem ofMembership_eq_error_iff {negated : Bool} (htest : f.test = .isIn ∨ f.test = .notIn) :
    ofMembership options column f negated = .error e ↔ f.Misfit column e := by
  rw [ofMembership, Except.map_eq_error_iff, listedLiterals_eq_error_iff]
  constructor
  · rintro ⟨before, value, after, hvalues, hbefore, hnull, htakes, rfl⟩
    exact .listed htest hvalues hbefore hnull htakes
  · intro h
    cases h with
    | @missing op h | @null op h | @compared op _ h =>
      exact absurd (h ▸ htest) (not_isIn_or_notIn op)
    | listed _ hvalues hbefore hnull htakes =>
      exact ⟨_, _, _, hvalues, hbefore, hnull, htakes, rfl⟩

theorem exists_ofMembership_iff {negated : Bool} :
    (∃ p, ofMembership options column f negated = .ok p)
      ↔ ∀ value ∈ f.values, value ≠ .null → column.Takes value := by
  rw [ofMembership, Except.exists_map_eq_ok_iff, exists_listedLiterals_iff]

/-- A filter on a column is settled exactly if its values fit. -/
theorem exists_ofFilter_iff :
    (∃ p, ofFilter options column f = .ok p) ↔ f.Fits column := by
  unfold ofFilter Filter.Fits
  cases f.test with
  | isNull | isNotNull => exact iff_of_true ⟨_, rfl⟩ trivial
  | isIn | notIn => exact exists_ofMembership_iff
  | eq | ne =>
    refine exists_ofComparison_iff.trans (exists_congr fun value => and_congr_right fun _ => ?_)
    by_cases hnull : value = .null <;> simp [hnull]
  | lt | le | gt | ge =>
    refine exists_ofComparison_iff.trans (exists_congr fun value => and_congr_right fun _ => ?_)
    simp

/-- Otherwise it fails with what is wrong with them. -/
theorem ofFilter_eq_error_iff :
    ofFilter options column f = .error e ↔ f.Misfit column e := by
  have hnull (h : f.test = .isNull ∨ f.test = .isNotNull) : ¬ f.Misfit column e := by
    intro hmisfit
    cases hmisfit with
    | @missing op htest | @null op htest | @compared op _ htest =>
      cases op <;> simp [htest, Comparison.test] at h
    | listed htest => rcases htest with htest | htest <;> simp [htest] at h
  unfold ofFilter
  cases htest : f.test with
  | isNull => exact iff_of_false nofun (hnull (.inl htest))
  | isNotNull => exact iff_of_false nofun (hnull (.inr htest))
  | isIn => exact ofMembership_eq_error_iff (.inl htest)
  | notIn => exact ofMembership_eq_error_iff (.inr htest)
  | eq | ne | lt | le | gt | ge => exact ofComparison_eq_error_iff htest

/-- A filter is settled exactly if it is valid. -/
theorem exists_ofDatasetFilter_iff {dataset : Dataset} :
    (∃ p, ofDatasetFilter options dataset f = .ok p) ↔ f.Valid dataset := by
  simp only [ofDatasetFilter, Except.exists_bind_eq_ok_iff, Dataset.resolve_eq_ok,
    exists_ofFilter_iff, Filter.Valid]

theorem ofDatasetFilter_eq_error_iff {dataset : Dataset} :
    ofDatasetFilter options dataset f = .error e ↔ f.Fault dataset e := by
  simp only [ofDatasetFilter, Except.bind_eq_error_iff, Dataset.resolve_eq_error,
    Dataset.resolve_eq_ok, ofFilter_eq_error_iff]
  constructor
  · rintro (⟨hunknown, rfl⟩ | ⟨column, hcolumn, hmisfit⟩)
    · exact .unknown hunknown
    · exact .misfit hcolumn hmisfit
  · intro h
    cases h with
    | unknown hunknown => exact .inl ⟨hunknown, rfl⟩
    | misfit hcolumn hmisfit => exact .inr ⟨_, hcolumn, hmisfit⟩

end Predicate

/-! ## Plans -/

namespace Plan

variable {options : FilterOptions} {schema : Schema} {request : Request} {e : Failure}

/-- What is left to do for a request that asks for something. -/
theorem build_of_ne (hne : request.columns ≠ []) :
    build options schema request = (do
      let dataset ← schema.resolve request.datasetId
      let projections ← request.columns.mapM (project request.pushdown dataset)
      let predicates ← request.filters.mapM (Predicate.ofDatasetFilter options dataset)
      return ⟨dataset.id, dataset.name, projections, predicates, request.pushdown⟩) :=
  if_neg (mt List.isEmpty_iff.1 hne)

/-- A plan is built exactly for the valid requests. -/
theorem exists_build_iff :
    (∃ plan, build options schema request = .ok plan) ↔ request.Valid schema := by
  by_cases hcolumns : request.columns = []
  · have hbuild : build options schema request = .error .noColumns :=
      if_pos (List.isEmpty_iff.2 hcolumns)
    refine iff_of_false ?_ fun h => h.1 hcolumns
    rw [hbuild]
    nofun
  · have hpure (plan : Plan) : ∃ plan', (pure plan : Except Failure Plan) = .ok plan' := ⟨plan, rfl⟩
    rw [build_of_ne hcolumns]
    simp only [Except.exists_bind_eq_ok_iff, hpure, and_true, Schema.resolve_eq_ok]
    constructor
    · rintro ⟨dataset, hdataset, projections, hprojections, hpredicates⟩
      refine ⟨hcolumns, dataset, hdataset, fun c hc => ?_, fun f hf => ?_⟩
      · exact exists_project_iff.1 (Except.exists_mapM_eq_ok_iff.1 ⟨projections, hprojections⟩ c hc)
      · exact Predicate.exists_ofDatasetFilter_iff.1
          (Except.exists_mapM_eq_ok_iff.1 hpredicates f hf)
    · rintro ⟨-, dataset, hdataset, hvalid, hfilters⟩
      obtain ⟨projections, hprojections⟩ := Except.exists_mapM_eq_ok_iff.2 fun c hc =>
        exists_project_iff.2 (hvalid c hc)
      exact ⟨dataset, hdataset, projections, hprojections,
        Except.exists_mapM_eq_ok_iff.2 fun f hf =>
          Predicate.exists_ofDatasetFilter_iff.2 (hfilters f hf)⟩

/-- Every other request fails with its first fault. -/
theorem build_eq_error_iff :
    build options schema request = .error e ↔ request.FirstFault schema e := by
  by_cases hcolumns : request.columns = []
  · have hbuild : build options schema request = .error .noColumns :=
      if_pos (List.isEmpty_iff.2 hcolumns)
    rw [hbuild]
    constructor
    · rintro ⟨⟩
      exact .noColumns hcolumns
    · intro h
      cases h with
      | noColumns => rfl
      | dataset hne | filter hne => exact absurd hcolumns hne
      | column _ hsplit => exact absurd (hsplit.symm.trans hcolumns) (by simp)
  · rw [build_of_ne hcolumns]
    simp only [Except.bind_eq_error_iff, Schema.resolve_eq_error, Schema.resolve_eq_ok]
    constructor
    · rintro (⟨hunknown, rfl⟩ | ⟨dataset, hdataset, h | ⟨projections, hprojections, h⟩⟩)
      · exact .dataset hcolumns hunknown
      · obtain ⟨before, c, after, hsplit, hbefore, hfault⟩ := Except.mapM_eq_error_iff.1 h
        exact .column hdataset hsplit (fun c hc => exists_project_iff.1 (hbefore c hc))
          (project_eq_error_iff.1 hfault)
      · rcases h with h | ⟨_, _, ⟨⟩⟩
        obtain ⟨before, f, after, hsplit, hbefore, hfault⟩ := Except.mapM_eq_error_iff.1 h
        have hvalid := Except.exists_mapM_eq_ok_iff.1 ⟨projections, hprojections⟩
        exact .filter hcolumns hdataset (fun c hc => exists_project_iff.1 (hvalid c hc)) hsplit
          (fun f hf => Predicate.exists_ofDatasetFilter_iff.1 (hbefore f hf))
          (Predicate.ofDatasetFilter_eq_error_iff.1 hfault)
    · intro h
      cases h with
      | noColumns h => exact absurd h hcolumns
      | dataset _ hunknown => exact .inl ⟨hunknown, rfl⟩
      | column hdataset hsplit hbefore hfault =>
        refine .inr ⟨_, hdataset, .inl (Except.mapM_eq_error_iff.2 ⟨_, _, _, hsplit, ?_,
          project_eq_error_iff.2 hfault⟩)⟩
        exact fun c hc => exists_project_iff.2 (hbefore c hc)
      | filter _ hdataset hvalid hsplit hbefore hfault =>
        obtain ⟨projections, hprojections⟩ := Except.exists_mapM_eq_ok_iff.2 fun c hc =>
          exists_project_iff.2 (hvalid c hc)
        refine .inr ⟨_, hdataset, .inr ⟨projections, hprojections, .inl
          (Except.mapM_eq_error_iff.2 ⟨_, _, _, hsplit, ?_,
            Predicate.ofDatasetFilter_eq_error_iff.2 hfault⟩)⟩⟩
        exact fun f hf => Predicate.exists_ofDatasetFilter_iff.2 (hbefore f hf)

/-- A name that is not known is not found, and whatever else is wrong is the request's own. -/
theorem fault_of_firstFault (h : request.FirstFault schema e) :
    e.fault = if e.isUnresolved then .notFound else .badRequest := by
  cases h with
  | noColumns | dataset => rfl
  | column _ _ _ hfault => cases hfault <;> rfl
  | filter _ _ _ _ _ hfault =>
    cases hfault with
    | unknown => rfl
    | misfit _ hmisfit => cases hmisfit <;> rfl

/-- An engine that may use a kind of backend compiles the plan that is built for it. -/
theorem compileWith_of_contains {engine : Engine} {kind : BackendKind}
    (h : engine.registry.kinds.contains kind) :
    engine.compileWith kind request schema
      = (do return kind.compile (← build kind.filterOptions schema request)) := by
  have hrequire : engine.registry.require kind = .ok () := if_pos h
  rw [Engine.compileWith, hrequire]
  rfl

/-- A plan is built exactly for the valid requests, and every other request fails with its first
fault: a name that is not known, or what else is wrong with the request. A plan has a projection for
each requested column and a predicate for each filter, in order. The options for filters decide
neither, so an engine compiles the same requests for every kind of backend that it may use and fails
for the others with the same failure. -/
theorem accepts_valid (schema : Schema) (request : Request) :
    (∀ options, (∃ plan, build options schema request = .ok plan) ↔ request.Valid schema)
    ∧ (∀ options e, build options schema request = .error e ↔ request.FirstFault schema e)
    ∧ (∀ e, request.FirstFault schema e →
      e.fault = if e.isUnresolved then .notFound else .badRequest)
    ∧ (∀ options plan, build options schema request = .ok plan →
      ∃ dataset, schema.dataset? request.datasetId = some dataset
        ∧ List.Forall₂ (fun c projection =>
            project request.pushdown dataset c = .ok projection) request.columns plan.projections
        ∧ List.Forall₂ (fun f predicate =>
            Predicate.ofDatasetFilter options dataset f = .ok predicate)
            request.filters plan.predicates)
    ∧ (∀ options options',
      ((∃ plan, build options schema request = .ok plan)
        ↔ ∃ plan, build options' schema request = .ok plan)
      ∧ ∀ e, build options schema request = .error e ↔ build options' schema request = .error e)
    ∧ ∀ (engine : Engine) (kind : BackendKind), engine.registry.kinds.contains kind →
      ((∃ query, engine.compileWith kind request schema = .ok query) ↔ request.Valid schema)
      ∧ ∀ e, engine.compileWith kind request schema = .error e ↔ request.FirstFault schema e := by
  refine ⟨fun _ => exists_build_iff, fun _ _ => build_eq_error_iff, fun _ => fault_of_firstFault,
    fun options plan h => ?_, fun _ _ => ?_, fun engine kind hkind => ?_⟩
  · obtain ⟨dataset, hdataset, -, -, -, hprojections, hpredicates⟩ := build_ok h
    exact ⟨dataset, Schema.resolve_eq_ok.1 hdataset, hprojections, hpredicates⟩
  · exact ⟨exists_build_iff.trans exists_build_iff.symm,
      fun _ => build_eq_error_iff.trans build_eq_error_iff.symm⟩
  · rw [compileWith_of_contains hkind]
    refine ⟨?_, fun e => ?_⟩
    · rw [Except.exists_bind_eq_ok_iff, ← exists_build_iff]
      exact exists_congr fun plan => and_iff_left ⟨_, rfl⟩
    · rw [Except.bind_eq_error_iff, build_eq_error_iff]
      exact or_iff_left (by rintro ⟨_, _, ⟨⟩⟩)

/-- A dataset of orders. -/
def orders : Dataset :=
  ⟨"orders", "Orders", [ ⟨"status", "Status", .hierarchy, "text", "orders", false⟩,
    ⟨"total", "Total", .numeric, "numeric", "orders", false⟩ ], [("status", 0), ("total", 1)]⟩

/-- A request for the number and the total of the orders of each status. -/
def ordersRequest (filters : List Filter) : Request :=
  ⟨"Orders", [⟨"*", some .count, none⟩, ⟨"Status", none, none⟩, ⟨"total", some .sum, none⟩],
    filters, true⟩

/-- The orders that have a status are asked for, and then those of a total below `null`, which is
the first fault of the second request for every kind of backend. -/
theorem accepts_valid_orders :
    (∃ plan, build ⟨true⟩ ⟨[orders]⟩ (ordersRequest [⟨"status", .ne, [.null]⟩]) = .ok plan
      ∧ plan.projections.length = 3 ∧ plan.predicates.length = 1)
    ∧ Failure.fault (.nullComparison .lt "total") = .badRequest
    ∧ ∀ kind : BackendKind,
      Engine.compileWith ⟨default, .builtin⟩ kind
        (ordersRequest [⟨"status", .ne, [.null]⟩, ⟨"total", .lt, [.null]⟩, ⟨"id", .isNull, []⟩])
        ⟨[orders]⟩ = .error (.nullComparison .lt "total") := by
  have hdataset : Schema.dataset? ⟨[orders]⟩ "Orders" = some orders := by decide +kernel
  have hstatus : orders.column? "Status" = some ⟨"status", "Status", .hierarchy, "text", "orders",
    false⟩ := by decide +kernel
  have hstatus' : orders.column? "status" = some ⟨"status", "Status", .hierarchy, "text", "orders",
    false⟩ := by decide +kernel
  have htotal : orders.column? "total" = some ⟨"total", "Total", .numeric, "numeric", "orders",
    false⟩ := by decide +kernel
  have hcolumns : ∀ c ∈ (ordersRequest []).columns, c.Valid true orders := by
    refine List.forall_mem_cons.2 ⟨.inr rfl, List.forall_mem_cons.2 ⟨⟨_, hstatus, ?_⟩,
      List.forall_mem_singleton.2 ⟨_, htotal, ?_⟩⟩⟩
    · nofun
    · rintro - _ ⟨⟩
      rfl
  have hfilter : Filter.Valid orders ⟨"status", .ne, [.null]⟩ := ⟨_, hstatus', .null, rfl, .inl rfl⟩
  have hfault : Filter.Fault orders ⟨"total", .lt, [.null]⟩ (.nullComparison .lt "total") :=
    .misfit htotal (@Filter.Misfit.null _ _ .lt rfl (by decide) rfl)
  have hfirst : Request.FirstFault ⟨[orders]⟩ (ordersRequest
      [⟨"status", .ne, [.null]⟩, ⟨"total", .lt, [.null]⟩, ⟨"id", .isNull, []⟩])
      (.nullComparison .lt "total") :=
    .filter (by decide) hdataset hcolumns rfl (List.forall_mem_singleton.2 hfilter) hfault
  refine ⟨?_, (accepts_valid _ _).2.2.1 _ hfirst, fun kind => ?_⟩
  · have hvalid := accepts_valid ⟨[orders]⟩ (ordersRequest [⟨"status", .ne, [.null]⟩])
    obtain ⟨plan, hplan⟩ := (hvalid.1 ⟨true⟩).2 ⟨by decide, orders, hdataset, hcolumns,
      List.forall_mem_singleton.2 hfilter⟩
    obtain ⟨_, -, hprojections, hpredicates⟩ := hvalid.2.2.2.1 _ plan hplan
    exact ⟨plan, hplan, hprojections.length_eq.symm, hpredicates.length_eq.symm⟩
  · have hkind : Registry.builtin.kinds.contains kind := by cases kind <;> decide
    exact (((accepts_valid _ _).2.2.2.2.2 ⟨default, .builtin⟩ kind hkind).2 _).2 hfirst

end Plan

end Pushdown
