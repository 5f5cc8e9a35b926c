import Pushdown.Predicate.OfFilter
import Pushdown.Proofs.Predicate.Meaning
import Pushdown.Proofs.Query.Planning

/-!
# What filters mean

`Filter.Admits` is the law of the filters that know about absent values: `in`, `not in`, `is null`
and `is not null`. `Predicate.selects_ofFilter` is that the predicate of such a filter follows the
law whatever a backend makes of rows without a value (`Absence`). The connectives around a list are
there for that: they settle what becomes of such a row before the test of the list can matter.

For a comparison this holds only in part. `Predicate.selects_ofFilter_comparison` says where it does
not: a row without a value may differ from a value.
-/

namespace Pushdown

/-! ## Literals of filter values -/

namespace Literal

variable {value : Json} {literal : Literal}

/-- A filter value of a numeric column is coerced to a finite number. -/
theorem coerce?_numeric (h : coerce? .numeric value = some literal) :
    ∃ x, literal = .number x ∧ x.isFinite := by
  have hfinite {x? : Option Binary64}
      (h : (x?.bind fun x => if x.isFinite then some (number x) else none) = some literal) :
      ∃ x, literal = .number x ∧ x.isFinite := by
    obtain ⟨x, -, hx⟩ := Option.bind_eq_some_iff.1 h
    split at hx
    · exact ⟨x, (Option.some.inj hx).symm, ‹_›⟩
    · cases hx
  cases value <;> (simp only [coerce?] at h; exact hfinite h)

/-- Filter values are coerced to finite literals. -/
theorem isFinite_of_coerce? {type : ColumnType} (h : coerce? type value = some literal) :
    literal.IsFinite := by
  cases type with
  | numeric =>
    obtain ⟨x, rfl, hx⟩ := coerce?_numeric h
    exact hx
  | datetime =>
    have hinstant {t? : Option Instant} (h : t?.map timestamp = some literal) :
        literal.IsFinite := by
      obtain ⟨t, -, rfl⟩ := Option.map_eq_some_iff.1 h
      exact trivial
    cases value <;> (simp only [coerce?] at h; exact hinstant h)
  | hierarchy =>
    cases value with
    | text | bool | int | float => cases h; exact trivial
    | null | list | object => cases h

theorem coerce_eq_ok {column : Column}
    (h : coerce column value = .ok literal) : coerce? column.type value = some literal := by
  unfold coerce at h
  split at h
  · cases h
    assumption
  · cases h

end Literal

/-! ## The law of filters that know about absent values -/

/-- The test of a comparison. -/
def Comparison.test : Comparison → FilterTest
  | .eq => .eq
  | .ne => .ne
  | .lt => .lt
  | .le => .le
  | .gt => .gt
  | .ge => .ge

/-- Whether a test knows about absent values: a test for absence, or one of membership. -/
def FilterTest.IsNullAware (test : FilterTest) : Prop :=
  test = .isIn ∨ test = .notIn ∨ test = .isNull ∨ test = .isNotNull

section
variable {V : Type} (options : FilterOptions) (column : Column) (cmp : V → Literal → Ordering)

/-- Whether a value matches a literal: it is equal to it or, where equality with a number is a
small range, within this range. -/
def Literal.isMatch (v : V) : Literal → Bool
  | .number x =>
    if Predicate.approximates options column then
      Predicate.within cmp v (.number (x.sub equalityMargin)) (.number (x.add equalityMargin))
    else (cmp v (.number x)).isEq
  | value => (cmp v value).isEq

theorem Literal.isMatch_of_not_approximates {options : FilterOptions} {column : Column}
    (ha : ¬ Predicate.approximates options column) (v : V) (literal : Literal) :
    literal.isMatch options column cmp v = (cmp v literal).isEq := by
  cases literal with
  | number x => rw [Literal.isMatch, if_neg ha]
  | text | bool | timestamp => rfl

/-- Whether a value matches one of the values of a filter that are not `null`. -/
def Filter.Lists (f : Filter) (v : V) : Prop :=
  ∃ value ∈ f.values, value ≠ .null ∧ ∃ literal, Literal.coerce? column.type value = some literal
    ∧ literal.isMatch options column cmp v

/-- Whether a filter that knows about absent values admits what a row holds in its column. -/
def Filter.Admits (f : Filter) (held : Option V) : Prop :=
  match f.test, held with
  | .isIn, some v => f.Lists options column cmp v
  | .notIn, some v => ¬ f.Lists options column cmp v
  | .isIn, none | .notIn, none => .null ∈ f.values
  | .isNull, held => held = none
  | .isNotNull, held => held ≠ none
  | _, _ => False

end

namespace Predicate

section
variable {V : Type} {options : FilterOptions} {column : Column} {values : List Literal}
  {f : Filter} {p : Predicate} (absence : Absence) (row : String → Option V)
  (cmp : V → Literal → Ordering)

/-- The test of a membership without `null`, applied to what a row holds. -/
def listTest (options : FilterOptions) (column : Column) (cmp : V → Literal → Ordering)
    (values : List Literal) (v : V) : Bool :=
  values.any (Literal.isMatch options column cmp v)

/-- Where equality is a small range, literals are numbers. -/
theorem exists_number {literal : Literal} (ha : approximates options column)
    (hcoerce : ∃ value, Literal.coerce? column.type value = some literal) :
    ∃ x, literal = .number x := by
  obtain ⟨value, hvalue⟩ := hcoerce
  rw [approximates, Bool.and_eq_true, decide_eq_true_iff] at ha
  rw [ha.2] at hvalue
  obtain ⟨x, hx, -⟩ := Literal.coerce?_numeric hvalue
  exact ⟨x, hx⟩

/-- Where equality is a small range, the literals of a list are numbers. -/
theorem exists_numbers (ha : approximates options column)
    (hcoerce : ∀ literal ∈ values, ∃ value, Literal.coerce? column.type value = some literal) :
    ∃ xs : List Binary64, values = xs.map .number := by
  induction values with
  | nil => exact ⟨[], rfl⟩
  | cons literal values ih =>
    obtain ⟨hliteral, hvalues⟩ := List.forall_mem_cons.1 hcoerce
    obtain ⟨x, rfl⟩ := exists_number ha hliteral
    obtain ⟨xs, rfl⟩ := ih hvalues
    exact ⟨x :: xs, rfl⟩

/-- There is a range around each number of a list. -/
theorem nearbyEach_numbers (column : Column) (negated : Bool) (xs : List Binary64) :
    nearbyEach column negated (xs.map .number) = xs.map fun x => nearby column x negated := by
  rw [nearbyEach, List.filterMap_map]
  exact congrFun List.filterMap_eq_map xs

theorem selects_nearbyEach (negated : Bool) (ha : approximates options column)
    (hcoerce : ∀ literal ∈ values, ∃ value, Literal.coerce? column.type value = some literal) :
    (nearbyEach column negated values).map (selects absence row cmp)
      = values.map fun value => (row column.name).elim (negated && absence.outside)
          fun v => value.isMatch options column cmp v != negated := by
  obtain ⟨xs, rfl⟩ := exists_numbers ha hcoerce
  rw [nearbyEach_numbers, List.map_map, List.map_map]
  refine List.map_congr_left fun x _ => ?_
  rw [Function.comp_apply, Function.comp_apply, nearby, selects]
  simp only [Literal.isMatch, ha, if_true]

variable (options) in
/-- Membership in a list selects the values that match one of its members, or those that do not. A
row without a value is never in a list. -/
theorem selects_listed (negated : Bool) (hne : values ≠ [])
    (hcoerce : ∀ literal ∈ values, ∃ value, Literal.coerce? column.type value = some literal) :
    (listed options column values negated).selects absence row cmp
      = (row column.name).elim
          (negated && if approximates options column then absence.outside else absence.unlisted)
          fun v => listTest options column cmp values v != negated := by
  unfold listed
  split
  · rename_i ha
    have hmap := selects_nearbyEach absence row cmp negated ha hcoerce
    cases negated with
    | false =>
      rw [if_neg Bool.false_ne_true, selects_any, hmap]
      cases row column.name with
      | none => simp
      | some v => simp [listTest]
    | true =>
      rw [if_pos rfl, selects_all, hmap]
      cases row column.name with
      | none =>
        obtain ⟨value, values, rfl⟩ := List.exists_cons_of_ne_nil hne
        cases absence.outside <;> simp
      | some v => simp [listTest, List.not_any_eq_all_not]
  · rename_i ha
    have htest (v : V) : isAmong cmp v values = listTest options column cmp values v :=
      any_congr_of_mem fun value _ => (Literal.isMatch_of_not_approximates cmp ha v value).symm
    rw [selects]
    simp only [htest]

/-- What a membership makes of a row does not depend on what a backend makes of absent values. -/
theorem selects_membership (withNull negated : Bool)
    (hcoerce : ∀ literal ∈ values, ∃ value, Literal.coerce? column.type value = some literal) :
    (membership options column withNull values negated).selects absence row cmp
      = (row column.name).elim withNull
          fun v => listTest options column cmp values v != negated := by
  cases values with
  | nil =>
    cases negated <;> cases withNull <;> simp only [membership, selects, listTest] <;>
      cases row column.name <;> rfl
  | cons value values =>
    have hlisted := selects_listed options absence row cmp negated (List.cons_ne_nil value values)
      hcoerce
    cases negated <;> cases withNull <;>
      simp only [membership, selects_any, selects_all, List.map_cons, List.map_nil, selects,
        hlisted] <;>
      cases row column.name <;> simp

/-- The literals of a membership are those of the filter values that are not `null`. -/
theorem listTest_iff (options : FilterOptions)
    (h : listedLiterals column f.values = .ok values) (v : V) :
    listTest options column cmp values v ↔ f.Lists options column cmp v := by
  have hliterals := Except.forall₂_of_mapM h
  rw [listTest, List.any_eq_true]
  constructor
  · rintro ⟨literal, hmem, hmatch⟩
    obtain ⟨value, hvalue, hcoerce⟩ := exists_mem_of_forall₂ hliterals hmem
    obtain ⟨hvalue, hnull⟩ := List.mem_filter.1 hvalue
    refine ⟨value, hvalue, ?_, literal, Literal.coerce_eq_ok hcoerce, hmatch⟩
    rintro rfl
    cases hnull
  · rintro ⟨value, hvalue, hnull, literal, hliteral, hmatch⟩
    have hkept : value ∈ f.values.filter fun v => !v.isNull := by
      refine List.mem_filter.2 ⟨hvalue, ?_⟩
      cases value with
      | null => exact absurd rfl hnull
      | _ => rfl
    obtain ⟨literal', hmem, hcoerce⟩ := exists_mem_of_forall₂ hliterals.flip hkept
    obtain rfl := Option.some.inj ((Literal.coerce_eq_ok hcoerce).symm.trans hliteral)
    exact ⟨literal', hmem, hmatch⟩

theorem any_isNull_iff : f.values.any Json.isNull ↔ .null ∈ f.values := by
  rw [List.any_eq_true]
  constructor
  · rintro ⟨value, hvalue, hnull⟩
    cases value with
    | null => exact hvalue
    | _ => cases hnull
  · exact fun h => ⟨.null, h, rfl⟩

/-- Literals come from filter values. -/
theorem exists_value_of_listedLiterals (h : listedLiterals column f.values = .ok values) :
    ∀ literal ∈ values, ∃ value, Literal.coerce? column.type value = some literal := by
  intro literal hmem
  obtain ⟨value, -, hvalue⟩ := exists_mem_of_forall₂ (Except.forall₂_of_mapM h) hmem
  exact ⟨value, Literal.coerce_eq_ok hvalue⟩

theorem ofMembership_eq_ok {negated : Bool} (h : ofMembership options column f negated = .ok p) :
    ∃ values, listedLiterals column f.values = .ok values
      ∧ p = membership options column (f.values.any Json.isNull) values negated := by
  unfold ofMembership at h
  cases hl : listedLiterals column f.values with
  | error e => rw [hl] at h; cases h
  | ok values =>
    rw [hl] at h
    exact ⟨values, rfl, (Except.ok.inj h).symm⟩

/-- What a membership makes of a row is what its filter admits. -/
theorem selects_ofMembership {negated : Bool} (h : ofMembership options column f negated = .ok p) :
    p.selects absence row cmp ↔
      match row column.name with
      | some v => if negated then ¬ f.Lists options column cmp v else f.Lists options column cmp v
      | none => .null ∈ f.values := by
  obtain ⟨values, hvalues, rfl⟩ := ofMembership_eq_ok h
  rw [selects_membership absence row cmp _ negated (exists_value_of_listedLiterals hvalues)]
  cases row column.name with
  | none => exact any_isNull_iff
  | some v =>
    have hlists := listTest_iff cmp options hvalues v
    cases negated with
    | false => simpa using hlists
    | true => simpa using not_congr hlists

/-- **A filter that knows about absent values selects what it admits**, whatever a backend makes of
rows without a value. -/
theorem selects_ofFilter (htest : f.test.IsNullAware) (h : ofFilter options column f = .ok p) :
    p.selects absence row cmp ↔ f.Admits options column cmp (row column.name) := by
  unfold ofFilter at h
  unfold Filter.Admits
  rcases htest with ht | ht | ht | ht
  · rw [ht] at h ⊢
    rw [selects_ofMembership absence row cmp h]
    cases row column.name <;> rfl
  · rw [ht] at h ⊢
    rw [selects_ofMembership absence row cmp h]
    cases row column.name <;> rfl
  · rw [ht] at h ⊢
    cases h
    rw [selects]
    cases row column.name <;> simp
  · rw [ht] at h ⊢
    cases h
    rw [selects]
    cases row column.name <;> simp

/-- The predicate of a comparison: a test for absence, or a comparison with a literal. -/
theorem ofComparison_eq_ok {op : Comparison} (h : ofComparison options column f op = .ok p) :
    (op = .eq ∧ p = .isNull column false ∧ f.values.head? = some .null)
      ∨ (op = .ne ∧ p = .isNull column true ∧ f.values.head? = some .null)
      ∨ ∃ literal, p = comparison options column op literal ∧ f.values.head? ≠ some .null
        ∧ (∃ value, Literal.coerce? column.type value = some literal) := by
  unfold ofComparison at h
  split at h
  · cases h
  · rename_i hvalues
    cases op <;> cases h
    · exact .inl ⟨rfl, rfl, by rw [hvalues]; rfl⟩
    · exact .inr (.inl ⟨rfl, rfl, by rw [hvalues]; rfl⟩)
  · rename_i value rest hne hvalues
    cases hl : Literal.coerce column value with
    | error e => rw [hl] at h; cases h
    | ok literal =>
      rw [hl] at h
      refine .inr (.inr ⟨literal, (Except.ok.inj h).symm, ?_, value, Literal.coerce_eq_ok hl⟩)
      rw [hvalues]
      rintro ⟨⟩
      exact hne rfl

/-- Whether a value compares with a literal as a filter asks for. -/
def comparesWith (options : FilterOptions) (column : Column) (cmp : V → Literal → Ordering)
    (op : Comparison) (literal : Literal) (v : V) : Bool :=
  match op with
  | .eq => literal.isMatch options column cmp v
  | .ne => !literal.isMatch options column cmp v
  | op => op.holds (cmp v literal)

theorem comparison_of_not_approximates (ha : ¬ approximates options column) (op : Comparison)
    (literal : Literal) : comparison options column op literal = .compare column op literal := by
  cases op <;> cases literal <;> simp [comparison, ha]

/-- What a comparison with a literal makes of a row. -/
theorem selects_comparison {op : Comparison} {literal : Literal}
    (hcoerce : ∃ value, Literal.coerce? column.type value = some literal) :
    (comparison options column op literal).selects absence row cmp
      = (row column.name).elim
          (op = .ne && if approximates options column then absence.outside else absence.unequal)
          (comparesWith options column cmp op literal) := by
  by_cases ha : approximates options column
  · obtain ⟨x, rfl⟩ := exists_number ha hcoerce
    cases op <;> simp only [comparison, ha, if_true, nearby, selects] <;>
      cases row column.name <;> simp [comparesWith, Literal.isMatch, ha]
  · have hmatch (v : V) :
        op.holds (cmp v literal) = comparesWith options column cmp op literal v := by
      unfold comparesWith
      rw [Literal.isMatch_of_not_approximates cmp ha]
      cases op with
      | ne => cases cmp v literal <;> rfl
      | eq | lt | le | gt | ge => rfl
    rw [comparison_of_not_approximates ha, selects, if_neg ha]
    simp only [hmatch]

/-- What a comparison filter makes of a row depends on what a backend makes of absent values only if
it asks a row without a value to differ from a value. -/
theorem selects_ofFilter_comparison {op : Comparison} (ht : f.test = op.test)
    (h : ofFilter options column f = .ok p) (absence' : Absence) :
    if op = .ne ∧ f.values.head? ≠ some .null ∧ row column.name = none then
      p.selects absence row cmp
        = if approximates options column then absence.outside else absence.unequal
    else p.selects absence row cmp = p.selects absence' row cmp := by
  have hop : ofComparison options column f op = .ok p := by
    unfold ofFilter at h
    rw [ht] at h
    cases op <;> exact h
  rcases ofComparison_eq_ok hop with
    ⟨rfl, rfl, -⟩ | ⟨rfl, rfl, hnull⟩ | ⟨literal, rfl, hhead, hcoerce⟩
  · rw [if_neg fun hne => nomatch hne.1]
    rfl
  · rw [if_neg fun hne => hne.2.1 hnull]
    rfl
  · simp only [selects_comparison _ row cmp hcoerce]
    split
    · rename_i hne
      obtain ⟨rfl, -, hrow⟩ := hne
      simp [hrow]
    · rename_i hne
      cases hrow : row column.name with
      | none =>
        have hop : op ≠ .ne := fun ho => hne ⟨ho, hhead, hrow⟩
        simp [hop]
      | some v => rfl

end

/-! ## The tests of a filter -/

/-- A test that can be rendered and is about a column, if it is about any. -/
def IsTestOf (column : Column) (leaf : Predicate) : Prop :=
  leaf.IsSoundTest ∧ ∀ column' ∈ leaf.column?, column' = column

/-- The tests that the filters on a column are made of. Where equality is a small range, none of
them asks for equality with a literal. -/
inductive IsFilterTest (options : FilterOptions) (column : Column) : Predicate → Prop
  | constant (b : Bool) : IsFilterTest options column (.constant b)
  | isNull (negated : Bool) : IsFilterTest options column (.isNull column negated)
  | nearby (ha : approximates options column) (x : Binary64) (negated : Bool) :
      IsFilterTest options column (nearby column x negated)
  | inList (ha : ¬ approximates options column) {values : List Literal} (hne : values ≠ [])
      (hcoerce : ∀ literal ∈ values, ∃ value, Literal.coerce? column.type value = some literal)
      (negated : Bool) : IsFilterTest options column (.inList column values negated)
  | compare {op : Comparison} {literal : Literal}
      (hop : approximates options column → op ≠ .eq ∧ op ≠ .ne)
      (hcoerce : ∃ value, Literal.coerce? column.type value = some literal) :
      IsFilterTest options column (.compare column op literal)

section
variable {options : FilterOptions} {column : Column} {values : List Literal} {f : Filter}
  {p : Predicate}

/-- A list of values becomes ranges around numbers or one test of all values. -/
theorem listed_cases (options : FilterOptions) (negated : Bool)
    (hcoerce : ∀ literal ∈ values, ∃ value, Literal.coerce? column.type value = some literal) :
    (approximates options column ∧ ∃ xs : List Binary64, values = xs.map .number
        ∧ listed options column values negated
          = if negated then .all (xs.map fun x => nearby column x negated)
            else .any (xs.map fun x => nearby column x negated))
      ∨ ¬ approximates options column
        ∧ listed options column values negated = .inList column values negated := by
  by_cases ha : approximates options column
  · obtain ⟨xs, rfl⟩ := exists_numbers ha hcoerce
    refine .inl ⟨ha, xs, rfl, ?_⟩
    rw [listed, if_pos ha, nearbyEach_numbers]
  · exact .inr ⟨ha, if_neg ha⟩

/-- A membership is a test of the list, alone or together with one for absence, or only a test for
absence or a constant if nothing but `null` is listed. -/
theorem membership_cases (options : FilterOptions) (column : Column) (withNull negated : Bool)
    (values : List Literal) :
    (values ≠ [] ∧ (membership options column withNull values negated
          = listed options column values negated
        ∨ membership options column withNull values negated
          = .any [listed options column values negated, .isNull column false]
        ∨ membership options column withNull values negated
          = .all [listed options column values negated, .isNull column true]))
      ∨ values = [] ∧ ((∃ negated', membership options column withNull values negated
          = .isNull column negated')
        ∨ ∃ b, membership options column withNull values negated = .constant b) := by
  cases values with
  | nil =>
    refine .inr ⟨rfl, ?_⟩
    cases negated <;> cases withNull
    · exact .inr ⟨false, rfl⟩
    · exact .inl ⟨false, rfl⟩
    · exact .inl ⟨true, rfl⟩
    · exact .inr ⟨true, rfl⟩
  | cons value values =>
    refine .inl ⟨List.cons_ne_nil _ _, ?_⟩
    cases negated <;> cases withNull
    · exact .inl rfl
    · exact .inr (.inl rfl)
    · exact .inr (.inr rfl)
    · exact .inr (.inl rfl)

theorem isFilterTest_listed (negated : Bool) (hne : values ≠ [])
    (hcoerce : ∀ literal ∈ values, ∃ value, Literal.coerce? column.type value = some literal) :
    ∀ leaf ∈ (listed options column values negated).leaves, IsFilterTest options column leaf := by
  rcases listed_cases options negated hcoerce with ⟨ha, xs, -, hlisted⟩ | ⟨ha, hlisted⟩
  · have hnearby : ∀ leaf ∈ (xs.map fun x => nearby column x negated).flatMap leaves,
        IsFilterTest options column leaf := by
      intro leaf hleaf
      obtain ⟨part, hpart, hleaf⟩ := List.mem_flatMap.1 hleaf
      obtain ⟨x, -, rfl⟩ := List.mem_map.1 hpart
      obtain rfl := List.mem_singleton.1 hleaf
      exact .nearby ha x negated
    rw [hlisted]
    cases negated with
    | false => rwa [if_neg Bool.false_ne_true, leaves_any]
    | true => rwa [if_pos rfl, leaves_all]
  · rw [hlisted]
    exact List.forall_mem_singleton.2 (.inList ha hne hcoerce negated)

theorem isFilterTest_membership (withNull negated : Bool)
    (hcoerce : ∀ literal ∈ values, ∃ value, Literal.coerce? column.type value = some literal) :
    ∀ leaf ∈ (membership options column withNull values negated).leaves,
      IsFilterTest options column leaf := by
  rcases membership_cases options column withNull negated values with
    ⟨hne, hform⟩ | ⟨-, ⟨negated', hform⟩ | ⟨b, hform⟩⟩
  · have hlisted : ∀ leaf ∈ (listed options column values negated).leaves,
        IsFilterTest options column leaf := isFilterTest_listed negated hne hcoerce
    have hboth (negated' : Bool) : ∀ leaf ∈ [listed options column values negated,
        isNull column negated'].flatMap leaves, IsFilterTest options column leaf := by
      rw [List.flatMap_cons, List.flatMap_singleton]
      exact List.forall_mem_append.2 ⟨hlisted, List.forall_mem_singleton.2 (.isNull negated')⟩
    rcases hform with hform | hform | hform
    · rwa [hform]
    · rw [hform, leaves_any]
      exact hboth false
    · rw [hform, leaves_all]
      exact hboth true
  · rw [hform]
    exact List.forall_mem_singleton.2 (.isNull negated')
  · rw [hform]
    exact List.forall_mem_singleton.2 (.constant b)

theorem isFilterTest_comparison (op : Comparison) {literal : Literal}
    (hcoerce : ∃ value, Literal.coerce? column.type value = some literal) :
    ∀ leaf ∈ (comparison options column op literal).leaves, IsFilterTest options column leaf := by
  by_cases ha : approximates options column
  · obtain ⟨x, rfl⟩ := exists_number ha hcoerce
    cases op with
    | eq =>
      rw [comparison, if_pos ha]
      exact List.forall_mem_singleton.2 (.nearby ha x false)
    | ne =>
      rw [comparison, if_pos ha]
      exact List.forall_mem_singleton.2 (.nearby ha x true)
    | lt | le | gt | ge => exact List.forall_mem_singleton.2 (.compare (fun _ => by simp) hcoerce)
  · rw [comparison_of_not_approximates ha]
    exact List.forall_mem_singleton.2 (.compare (fun h => absurd h ha) hcoerce)

/-- What a filter becomes: a test for absence, a comparison or a membership. -/
theorem ofFilter_cases (h : ofFilter options column f = .ok p) :
    (∃ negated, p = .isNull column negated)
      ∨ (∃ op literal, p = comparison options column op literal
        ∧ ∃ value, Literal.coerce? column.type value = some literal)
      ∨ ∃ negated values, listedLiterals column f.values = .ok values
        ∧ p = membership options column (f.values.any Json.isNull) values negated := by
  have hmembership {negated : Bool} (h : ofMembership options column f negated = .ok p) :
      ∃ negated values, listedLiterals column f.values = .ok values
        ∧ p = membership options column (f.values.any Json.isNull) values negated :=
    ⟨negated, ofMembership_eq_ok h⟩
  have hcomparison {op : Comparison} (h : ofComparison options column f op = .ok p) :
      (∃ negated, p = .isNull column negated)
        ∨ ∃ op literal, p = comparison options column op literal
          ∧ ∃ value, Literal.coerce? column.type value = some literal := by
    rcases ofComparison_eq_ok h with ⟨-, rfl, -⟩ | ⟨-, rfl, -⟩ | ⟨literal, rfl, -, hvalue⟩
    · exact .inl ⟨false, rfl⟩
    · exact .inl ⟨true, rfl⟩
    · exact .inr ⟨op, literal, rfl, hvalue⟩
  unfold ofFilter at h
  cases ht : f.test <;> rw [ht] at h
  case isNull =>
    cases h
    exact .inl ⟨false, rfl⟩
  case isNotNull =>
    cases h
    exact .inl ⟨true, rfl⟩
  case isIn | notIn => exact .inr (.inr (hmembership h))
  all_goals exact or_assoc.1 (.inl (hcomparison h))

/-- The predicate of a filter is made of the tests for filters on its column. -/
theorem isFilterTest_ofFilter (h : ofFilter options column f = .ok p) :
    ∀ leaf ∈ p.leaves, IsFilterTest options column leaf := by
  rcases ofFilter_cases h with ⟨negated, rfl⟩ | ⟨op, literal, rfl, hcoerce⟩ |
    ⟨negated, values, hvalues, rfl⟩
  · exact List.forall_mem_singleton.2 (.isNull negated)
  · exact isFilterTest_comparison op hcoerce
  · exact isFilterTest_membership _ negated (exists_value_of_listedLiterals hvalues)

theorem IsFilterTest.isTestOf {leaf : Predicate} (h : IsFilterTest options column leaf) :
    IsTestOf column leaf := by
  cases h with
  | constant b => exact ⟨trivial, fun _ hnone => nomatch hnone⟩
  | isNull | nearby => exact ⟨trivial, fun _ hsome => (Option.some.inj hsome).symm⟩
  | inList ha hne hcoerce =>
    refine ⟨⟨hne, fun literal hliteral => ?_⟩, fun _ hsome => (Option.some.inj hsome).symm⟩
    obtain ⟨value, hvalue⟩ := hcoerce literal hliteral
    exact Literal.isFinite_of_coerce? hvalue
  | compare hop hcoerce =>
    obtain ⟨value, hvalue⟩ := hcoerce
    exact ⟨Literal.isFinite_of_coerce? hvalue, fun _ hsome => (Option.some.inj hsome).symm⟩

/-- The predicate of a filter is made of tests that can be rendered and are about its column. -/
theorem isTestOf_ofFilter (h : ofFilter options column f = .ok p) :
    ∀ leaf ∈ p.leaves, IsTestOf column leaf :=
  fun leaf hleaf => (isFilterTest_ofFilter h leaf hleaf).isTestOf

theorem sound_ofFilter (h : ofFilter options column f = .ok p) : p.Sound :=
  fun leaf hleaf => (isTestOf_ofFilter h leaf hleaf).1

theorem eq_of_mem_columns_ofFilter (h : ofFilter options column f = .ok p) :
    ∀ column' ∈ p.columns, column' = column := by
  intro column' hcolumn
  obtain ⟨leaf, hleaf, hmem⟩ := List.mem_filterMap.1 hcolumn
  exact (isTestOf_ofFilter h leaf hleaf).2 column' hmem

end

end Predicate

end Pushdown
