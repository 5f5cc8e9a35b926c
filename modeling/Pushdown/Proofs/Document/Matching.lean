import Pushdown.Document.Selector
import Pushdown.Proofs.Predicate.Meaning

/-!
# What a query over documents matches

`Document.matches?` is whether a query matches a document, read off the query as it is written. A
test by an operator only matches a value that is there, but `$ne` and `$nin` match what `$eq` and
`$in` do not, a value that is not there included, and `null` stands for such a value.
`Document.matches?_ofPredicate` is that a rendered predicate matches the documents that the
predicate selects, where a document without a value differs from all values, but is not outside of
any range.
-/

namespace Pushdown

namespace Document

section
variable {V : Type} (row : String → Option V) (compare : V → Json → Ordering)

/-- Whether what a field holds is a value of a query; `null` is nothing. -/
def isValue (held : Option V) : Json → Bool
  | .null => held.isNone
  | value => held.any fun v => (compare v value).isEq

/-- Whether what a field holds passes a test. -/
def passes? (held : Option V) : String → Json → Option Bool
  | "$eq", value => some (isValue compare held value)
  | "$ne", value => some (!isValue compare held value)
  | "$lt", limit => some (held.any fun v => (compare v limit).isLT)
  | "$lte", limit => some (held.any fun v => (compare v limit).isLE)
  | "$gt", limit => some (held.any fun v => (compare v limit).isGT)
  | "$gte", limit => some (held.any fun v => (compare v limit).isGE)
  | "$in", .list values => some (values.any (isValue compare held))
  | "$nin", .list values => some (!values.any (isValue compare held))
  | _, _ => none

/-- Whether what a field holds passes several tests. -/
def passesAll? (held : Option V) : Members → Option Bool
  | [] => some true
  | (operator, operand) :: rest => do
    let passes ← passes? compare held operator operand
    let others ← passesAll? held rest
    return passes && others

mutual

/-- Whether a query matches. -/
def matches? : Json → Option Bool
  | .object [] => some true
  | .object [(name, .null)] => some (row name).isNone
  | .object [(name, .object tests)] => passesAll? compare (row name) tests
  | .object [(name, .bool b)] => if name = "$expr" then some b else none
  | .object [(name, .list parts)] =>
    (matchesEach? parts).bind fun found =>
      if name = "$or" then some (found.any id)
      else if name = "$and" then some (found.all id)
      else none
  | _ => none

/-- Whether each of several queries matches. -/
def matchesEach? : List Json → Option (List Bool)
  | [] => some []
  | part :: rest => do
    let found ← matches? part
    let others ← matchesEach? rest
    return found :: others

end

/-! ## Matching what is written -/

theorem matchesEach?_map {α : Type} {write : α → Json} {selects : α → Bool} {parts : List α}
    (h : ∀ part ∈ parts, matches? row compare (write part) = some (selects part)) :
    matchesEach? row compare (parts.map write) = some (parts.map selects) := by
  induction parts with
  | nil => rfl
  | cons part rest ih =>
    rw [List.map_cons, matchesEach?, h part List.mem_cons_self,
      ih fun p hp => h p (List.mem_cons_of_mem _ hp)]
    rfl

namespace Selector

theorem toJsonList_eq (parts : List Selector) : toJsonList parts = parts.map toJson :=
  eq_map_of_cons rfl (fun _ _ => rfl) parts

theorem ofPredicates_eq (parts : List Predicate) : ofPredicates parts = parts.map ofPredicate :=
  eq_map_of_cons rfl (fun _ _ => rfl) parts

end Selector

open Selector

variable {row compare}

section
variable {α : Type} {write : α → Selector} {selects : α → Bool} {parts : List α}

theorem matches?_anyOf
    (h : ∀ part ∈ parts, matches? row compare (write part).toJson = some (selects part)) :
    matches? row compare (Selector.anyOf (parts.map write)).toJson
      = some ((parts.map selects).any id) := by
  have heach := matchesEach?_map row compare h
  simp [toJson, toJsonList_eq, Json.single, matches?, Function.comp_def, heach]

theorem matches?_allOf
    (h : ∀ part ∈ parts, matches? row compare (write part).toJson = some (selects part)) :
    matches? row compare (Selector.allOf (parts.map write)).toJson
      = some ((parts.map selects).all id) := by
  have heach := matchesEach?_map row compare h
  simp [toJson, toJsonList_eq, Json.single, matches?, Function.comp_def, heach]

end

/-- A field is tested by one operator. -/
theorem matches?_field (name : String) (operator : Operator) (operand : Json) :
    matches? row compare (Selector.field name [(operator, operand)]).toJson
      = passes? compare (row name) operator.name operand := by
  have h : Json.ofMembers [(operator.name, operand)] = .object [(operator.name, operand)] := rfl
  cases hp : passes? compare (row name) operator.name operand <;>
    simp [toJson, Json.single, h, matches?, passesAll?, hp]

/-- A field is tested for a closed range. -/
theorem matches?_within (name : String) (low high : Json) :
    matches? row compare (Selector.field name [(.gte, low), (.lte, high)]).toJson
      = some ((row name).any fun v => (compare v low).isGE && (compare v high).isLE) := by
  have h : Json.ofMembers [("$gte", low), ("$lte", high)]
      = .object [("$gte", low), ("$lte", high)] := by
    rw [Json.ofMembers, Json.sortMembers_pair (by decide)]
  cases hr : row name <;>
    simp [toJson, Json.single, Operator.name, h, matches?, passesAll?, passes?, hr]

variable {cmp : V → Literal → Ordering}

/-- A finite literal is not written as `null`. -/
theorem literal_ne_null {value : Literal} (h : value.IsFinite) : literal value ≠ .null := by
  cases value with
  | number x =>
    have hx : x.isFinite = true := h
    change Json.ofNumber x ≠ .null
    rw [Json.ofNumber, if_pos hx]
    split <;> simp
  | text | bool | timestamp => simp [literal, Literal.toJson, Json.single]

/-- A field holds a literal if it holds a value that is equal to it. -/
theorem isValue_literal {value : Literal} (hfinite : value.IsFinite)
    (hvalue : ∀ v, compare v (literal value) = cmp v value) (held : Option V) :
    isValue compare held (literal value) = held.any fun v => (cmp v value).isEq := by
  have h (operand : Json) (hne : operand ≠ .null) :
      isValue compare held operand = held.any fun v => (compare v operand).isEq := by
    cases operand with
    | null => exact absurd rfl hne
    | _ => rfl
  rw [h _ (literal_ne_null hfinite)]
  simp only [hvalue]

/-- A field holds one of several literals if it holds a value that is among them. -/
theorem any_isValue_literal {values : List Literal} (hfinite : ∀ value ∈ values, value.IsFinite)
    (hvalues : ∀ value ∈ values, ∀ v, compare v (literal value) = cmp v value)
    (held : Option V) :
    (values.map literal).any (isValue compare held)
      = held.any fun v => Predicate.isAmong cmp v values := by
  have h : ∀ value ∈ values, isValue compare held (literal value)
      = held.any fun v => (cmp v value).isEq :=
    fun value hvalue => isValue_literal (hfinite value hvalue) (hvalues value hvalue) held
  rw [List.any_map]
  refine (any_congr_of_mem h).trans ?_
  cases held with
  | none => simp
  | some v => rfl

/-- **A rendered predicate matches what the predicate selects.** -/
theorem matches?_ofPredicate {p : Predicate} (hs : p.Sound)
    (hf : Predicate.FaithfulOn cmp compare literal p) :
    matches? row compare (ofPredicate p).toJson = some (p.selects .apart row cmp) := by
  induction p using Predicate.induction with
  | compare column op value =>
    have hvalue := hf.test rfl value (List.mem_singleton_self value)
    have hfinite : value.IsFinite := hs.test rfl
    have heq := isValue_literal hfinite hvalue (row column.name)
    rw [ofPredicate, matches?_field, Predicate.selects]
    cases op with
    | eq => rw [operatorOf, Operator.name, passes?, heq]; cases row column.name <;> rfl
    | ne =>
      rw [operatorOf, Operator.name, passes?, heq]
      cases row column.name with
      | none => rfl
      | some v => cases h : cmp v value <;> simp [Comparison.holds, h]
    | lt => simp only [operatorOf, Operator.name, passes?, hvalue]; cases row column.name <;> rfl
    | le => simp only [operatorOf, Operator.name, passes?, hvalue]; cases row column.name <;> rfl
    | gt => simp only [operatorOf, Operator.name, passes?, hvalue]; cases row column.name <;> rfl
    | ge => simp only [operatorOf, Operator.name, passes?, hvalue]; cases row column.name <;> rfl
  | between column low high negated =>
    have hlow := hf.test rfl low List.mem_cons_self
    have hhigh := hf.test rfl high (List.mem_cons_of_mem low (List.mem_singleton_self high))
    rw [ofPredicate, Predicate.selects]
    cases negated with
    | false =>
      rw [rangeOf, if_neg Bool.false_ne_true, matches?_within]
      simp only [hlow, hhigh]
      cases row column.name <;> simp [Predicate.within]
    | true =>
      have heach : matchesEach? row compare
            [ (Selector.field column.name [(.lt, literal low)]).toJson,
              (Selector.field column.name [(.gt, literal high)]).toJson ]
          = some [ (row column.name).any fun v => (cmp v low).isLT,
              (row column.name).any fun v => (cmp v high).isGT ] := by
        simp only [matchesEach?, matches?_field, Operator.name, passes?, hlow, hhigh]
        rfl
      rw [rangeOf, if_pos rfl, toJson, Json.single, matches?]
      simp only [toJsonList, heach]
      cases row column.name with
      | none => rfl
      | some v => simpa using Predicate.outside_eq cmp v low high
  | inList column values negated =>
    obtain ⟨-, hfinite⟩ : values ≠ [] ∧ ∀ value ∈ values, value.IsFinite :=
      hs.test rfl
    have hvalues : ∀ value ∈ values, ∀ v, compare v (literal value) = cmp v value :=
      hf.test rfl
    have hany := any_isValue_literal hfinite hvalues (row column.name)
    rw [ofPredicate, matches?_field, Predicate.selects]
    cases negated with
    | false =>
      rw [if_neg Bool.false_ne_true, Operator.name, passes?, hany]
      cases row column.name <;> simp
    | true =>
      rw [if_pos rfl, Operator.name, passes?, hany]
      cases row column.name <;> simp [Absence.apart]
  | isNull column negated =>
    rw [ofPredicate, Predicate.selects]
    cases negated with
    | false =>
      rw [if_neg Bool.false_ne_true, Bool.bne_false]
      rfl
    | true =>
      rw [if_pos rfl, matches?_field]
      cases row column.name <;> rfl
  | any parts ih =>
    have hparts : ∀ part ∈ parts, matches? row compare (ofPredicate part).toJson
        = some (part.selects .apart row cmp) :=
      fun part hp => ih part hp (hs.of_any part hp) (hf.of_any part hp)
    rw [ofPredicate, ofPredicates_eq, matches?_anyOf hparts, Predicate.selects_any]
  | all parts ih =>
    have hparts : ∀ part ∈ parts, matches? row compare (ofPredicate part).toJson
        = some (part.selects .apart row cmp) :=
      fun part hp => ih part hp (hs.of_all part hp) (hf.of_all part hp)
    rw [ofPredicate, ofPredicates_eq, matches?_allOf hparts, Predicate.selects_all]
  | constant value =>
    cases value <;> simp [ofPredicate, toJson, Json.single, matches?, Predicate.selects]

end

end Document

end Pushdown
