import Pushdown.Proofs.Predicate.Filters

/-!
# The shape of compiled filters

Every list in the predicate of a filter has a member, at every depth (`Predicate.Full`), its
literals are of the type of the column (`Literal.HasType`), and where equality is a small range
nothing in it asks for equality (`Predicate.TestsEquality`). A membership lists what its filter
lists, apart from `null`, one for one and in the same order: `Predicate.listings` reads the listed
values and ranges off the predicate. `Predicate.wellFormed_ofFilter` says all of this.
-/

namespace Pushdown

/-! ## Types of literals -/

namespace Literal

/-- Whether a literal is of the type of a column: labels are texts or truth values. -/
def HasType : ColumnType → Literal → Prop
  | .numeric, .number _ | .datetime, .timestamp _ => True
  | .hierarchy, .text _ | .hierarchy, .bool _ => True
  | _, _ => False

/-- Filter values are coerced to literals of the type they are coerced to. -/
theorem hasType_of_coerce? {type : ColumnType} {value : Json} {literal : Literal}
    (h : coerce? type value = some literal) : literal.HasType type := by
  cases type with
  | numeric =>
    obtain ⟨x, rfl, -⟩ := coerce?_numeric h
    exact trivial
  | datetime =>
    have hinstant {t? : Option Instant} (h : t?.map timestamp = some literal) :
        literal.HasType .datetime := by
      obtain ⟨t, -, rfl⟩ := Option.map_eq_some_iff.1 h
      exact trivial
    cases value <;> (simp only [coerce?] at h; exact hinstant h)
  | hierarchy =>
    cases value with
    | text | bool | int | float => cases h; exact trivial
    | null | list | object => cases h

end Literal

/-- A member of a list, as a predicate lists it. -/
inductive Listed where
  | value (literal : Literal)
  /-- Everything within a closed range. -/
  | range (low high : Literal)
  deriving DecidableEq, Repr, Inhabited

/-- How a literal is listed: by the range around it where equality is a small range, else as is. -/
def Listed.of (options : FilterOptions) (column : Column) : Literal → Listed
  | .number x =>
    if Predicate.approximates options column then
      .range (.number (x.sub equalityMargin)) (.number (x.add equalityMargin))
    else .value (.number x)
  | literal => .value literal

theorem Listed.of_of_not_approximates {options : FilterOptions} {column : Column}
    (ha : ¬ Predicate.approximates options column) (literal : Literal) :
    Listed.of options column literal = .value literal := by
  cases literal with
  | number x => exact if_neg ha
  | text | bool | timestamp => rfl

namespace Predicate

/-! ## Lists with members -/

/-- Every list in a predicate has a member, at every depth. -/
inductive Full : Predicate → Prop
  | compare (column : Column) (op : Comparison) (value : Literal) : Full (.compare column op value)
  | between (column : Column) (low high : Literal) (negated : Bool) :
      Full (.between column low high negated)
  | inList (column : Column) {values : List Literal} (hne : values ≠ []) (negated : Bool) :
      Full (.inList column values negated)
  | isNull (column : Column) (negated : Bool) : Full (.isNull column negated)
  | any {parts : List Predicate} (hne : parts ≠ []) (h : ∀ part ∈ parts, Full part) :
      Full (.any parts)
  | all {parts : List Predicate} (hne : parts ≠ []) (h : ∀ part ∈ parts, Full part) :
      Full (.all parts)
  | constant (b : Bool) : Full (.constant b)

/-- Whether a test asks for equality with literals, or for difference from them. -/
def TestsEquality : Predicate → Prop
  | .compare _ op _ => op = .eq ∨ op = .ne
  | .inList _ _ _ => True
  | .between _ _ _ _ | .isNull _ _ | .any _ | .all _ | .constant _ => False

/-- The values or the range of a test. -/
def ownListings : Predicate → List Listed
  | .inList _ values _ => values.map .value
  | .between _ low high _ => [.range low high]
  | .compare _ _ _ | .isNull _ _ | .any _ | .all _ | .constant _ => []

/-- The values and the ranges that a predicate lists, in their order. -/
def listings (p : Predicate) : List Listed := p.leaves.flatMap ownListings

@[simp] theorem listings_any (parts : List Predicate) :
    (any parts).listings = parts.flatMap listings := by
  rw [listings, leaves_any, List.flatMap_assoc]
  rfl

@[simp] theorem listings_all (parts : List Predicate) :
    (all parts).listings = parts.flatMap listings := by
  rw [listings, leaves_all, List.flatMap_assoc]
  rfl

@[simp] theorem listings_isNull (column : Column) (negated : Bool) :
    (isNull column negated).listings = [] := rfl

section
variable {options : FilterOptions} {column : Column} {values : List Literal} {f : Filter}
  {p : Predicate}

theorem full_listed (negated : Bool) (hne : values ≠ [])
    (hcoerce : ∀ literal ∈ values, ∃ value, Literal.coerce? column.type value = some literal) :
    (listed options column values negated).Full := by
  rcases listed_cases options negated hcoerce with ⟨-, xs, rfl, hlisted⟩ | ⟨-, hlisted⟩
  · have hranges : xs.map (fun x => nearby column x negated) ≠ [] := by simpa using hne
    have hfull : ∀ part ∈ xs.map fun x => nearby column x negated, part.Full :=
      List.forall_mem_map.2 fun x _ => .between _ _ _ _
    rw [hlisted]
    cases negated with
    | false => exact .any hranges hfull
    | true => exact .all hranges hfull
  · rw [hlisted]
    exact .inList column hne negated

theorem full_membership (withNull negated : Bool)
    (hcoerce : ∀ literal ∈ values, ∃ value, Literal.coerce? column.type value = some literal) :
    (membership options column withNull values negated).Full := by
  rcases membership_cases options column withNull negated values with
    ⟨hne, hform⟩ | ⟨-, ⟨negated', hform⟩ | ⟨b, hform⟩⟩
  · have hlisted : (listed options column values negated).Full := full_listed negated hne hcoerce
    have hboth (negated' : Bool) :
        ∀ part ∈ [listed options column values negated, isNull column negated'], part.Full :=
      List.forall_mem_cons.2 ⟨hlisted, List.forall_mem_singleton.2 (.isNull column negated')⟩
    rcases hform with hform | hform | hform
    · rwa [hform]
    · rw [hform]
      exact .any (List.cons_ne_nil _ _) (hboth false)
    · rw [hform]
      exact .all (List.cons_ne_nil _ _) (hboth true)
  · rw [hform]
    exact .isNull column negated'
  · rw [hform]
    exact .constant b

theorem full_comparison (options : FilterOptions) (column : Column) (op : Comparison)
    (literal : Literal) : (comparison options column op literal).Full := by
  unfold comparison
  split
  · split
    · exact .between _ _ _ _
    · exact .compare _ _ _
  · split
    · exact .between _ _ _ _
    · exact .compare _ _ _
  · exact .compare _ _ _

theorem full_ofFilter (h : ofFilter options column f = .ok p) : p.Full := by
  rcases ofFilter_cases h with ⟨negated, rfl⟩ | ⟨op, literal, rfl, -⟩ |
    ⟨negated, values, hvalues, rfl⟩
  · exact .isNull column negated
  · exact full_comparison options column op literal
  · exact full_membership _ negated (exists_value_of_listedLiterals hvalues)

/-! ## What is listed -/

theorem listings_listed (negated : Bool)
    (hcoerce : ∀ literal ∈ values, ∃ value, Literal.coerce? column.type value = some literal) :
    (listed options column values negated).listings = values.map (Listed.of options column) := by
  rcases listed_cases options negated hcoerce with ⟨ha, xs, rfl, hlisted⟩ | ⟨ha, hlisted⟩
  · have hrange (x : Binary64) :
        (nearby column x negated).listings = [Listed.of options column (.number x)] := by
      rw [Listed.of, if_pos ha]
      rfl
    have hranges : (xs.map fun x => nearby column x negated).flatMap listings
        = (xs.map .number).map (Listed.of options column) := by
      rw [List.flatMap_map, List.map_map, List.map_eq_flatMap]
      exact congrArg xs.flatMap (funext hrange)
    rw [hlisted]
    cases negated with
    | false => rw [if_neg Bool.false_ne_true, listings_any, hranges]
    | true => rw [if_pos rfl, listings_all, hranges]
  · have hlistings : (inList column values negated).listings = values.map .value :=
      List.flatMap_singleton _ _
    rw [hlisted, hlistings]
    exact List.map_congr_left fun literal _ => (Listed.of_of_not_approximates ha literal).symm

/-- A membership lists the literals that it is made for, in their order. -/
theorem listings_membership (withNull negated : Bool)
    (hcoerce : ∀ literal ∈ values, ∃ value, Literal.coerce? column.type value = some literal) :
    (membership options column withNull values negated).listings
      = values.map (Listed.of options column) := by
  rcases membership_cases options column withNull negated values with
    ⟨-, hform | hform | hform⟩ | ⟨rfl, ⟨negated', hform⟩ | ⟨b, hform⟩⟩
  · rw [hform, listings_listed negated hcoerce]
  · simp [hform, listings_listed negated hcoerce]
  · simp [hform, listings_listed negated hcoerce]
  · rw [hform]
    rfl
  · rw [hform]
    rfl

/-- A filter lists its values that are not `null`. -/
theorem listings_ofFilter (htest : f.test = .isIn ∨ f.test = .notIn)
    (h : ofFilter options column f = .ok p) :
    List.Forall₂ (fun value listing => ∃ literal, Literal.coerce? column.type value = some literal
        ∧ listing = Listed.of options column literal)
      (f.values.filter fun value => !value.isNull) p.listings := by
  have hmembership : ∃ negated, ofMembership options column f negated = .ok p := by
    unfold ofFilter at h
    rcases htest with ht | ht <;> rw [ht] at h
    · exact ⟨false, h⟩
    · exact ⟨true, h⟩
  obtain ⟨negated, hmembership⟩ := hmembership
  obtain ⟨values, hvalues, rfl⟩ := ofMembership_eq_ok hmembership
  rw [listings_membership _ negated (exists_value_of_listedLiterals hvalues),
    List.forall₂_map_right_iff]
  exact (Except.forall₂_of_mapM hvalues).imp
    fun value literal hcoerce => ⟨literal, Literal.coerce_eq_ok hcoerce, rfl⟩

/-! ## What compiled filters are like -/

theorem IsFilterTest.hasType {leaf : Predicate} (h : IsFilterTest options column leaf) :
    ∀ literal ∈ leaf.operands, literal.HasType column.type := by
  cases h with
  | constant | isNull => exact List.forall_mem_nil _
  | nearby ha x =>
    have hnumeric : column.type = .numeric := by
      rw [approximates, Bool.and_eq_true, decide_eq_true_iff] at ha
      exact ha.2
    rw [hnumeric]
    exact List.forall_mem_cons.2 ⟨trivial, List.forall_mem_singleton.2 trivial⟩
  | inList ha hne hcoerce =>
    intro literal hliteral
    obtain ⟨value, hvalue⟩ := hcoerce literal hliteral
    exact Literal.hasType_of_coerce? hvalue
  | compare hop hcoerce =>
    obtain ⟨value, hvalue⟩ := hcoerce
    exact List.forall_mem_singleton.2 (Literal.hasType_of_coerce? hvalue)

theorem IsFilterTest.not_testsEquality {leaf : Predicate} (h : IsFilterTest options column leaf)
    (ha : approximates options column) : ¬ leaf.TestsEquality := by
  cases h with
  | constant | isNull | nearby => exact not_false
  | inList hnot => exact absurd ha hnot
  | compare hop => exact not_or.2 (hop ha)

/-- What the predicate of a filter is like. -/
structure WellFormed (options : FilterOptions) (column : Column) (f : Filter) (p : Predicate) :
    Prop where
  full : p.Full
  typed : ∀ literal ∈ p.literals, literal.HasType column.type
  /-- Equality with a number is a small range if the options say so. -/
  ranged : options.approximateEquality = true → column.type = .numeric →
    ∀ leaf ∈ p.leaves, ¬ leaf.TestsEquality
  columns : ∀ column' ∈ p.columns, column' = column
  /-- What a membership lists is the values of its filter that are not `null`. -/
  listed : f.test = .isIn ∨ f.test = .notIn →
    List.Forall₂ (fun value listing => ∃ literal, Literal.coerce? column.type value = some literal
        ∧ listing = Listed.of options column literal)
      (f.values.filter fun value => !value.isNull) p.listings

theorem wellFormed_ofFilter (h : ofFilter options column f = .ok p) :
    WellFormed options column f p where
  full := full_ofFilter h
  typed literal hliteral := by
    obtain ⟨leaf, hleaf, hliteral⟩ := List.mem_flatMap.1 hliteral
    exact (isFilterTest_ofFilter h leaf hleaf).hasType literal hliteral
  ranged happroximate htype leaf hleaf := by
    have ha : approximates options column := by simp [approximates, happroximate, htype]
    exact (isFilterTest_ofFilter h leaf hleaf).not_testsEquality ha
  columns := eq_of_mem_columns_ofFilter h
  listed htest := listings_ofFilter htest h

end

end Predicate

end Pushdown
