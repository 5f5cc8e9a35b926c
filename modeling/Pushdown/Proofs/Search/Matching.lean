import Pushdown.Proofs.Predicate.Meaning
import Pushdown.Search.Clause

/-!
# What a search matches

`Search.matches?` is whether the query of a search body matches a document, read off the query as it
is written. A query about a field only matches documents that hold a value in it; `must_not` matches
the documents that its parts do not match, those without a value included; and a query outside the
part of the language that predicates need matches nothing that could be said.
`Search.matches?_ofPredicate` is that a rendered predicate matches the documents that the predicate
selects, where a test that negates another one is its complement.
-/

namespace Pushdown

namespace Search

section
variable {V : Type} (row : String → Option V) (compare : V → Json → Ordering)

/-- How a value in a range compares with one of its bounds. The format is that of the bounds. -/
def bound? : String → Option (Ordering → Bool)
  | "lt" => some Ordering.isLT
  | "lte" => some Ordering.isLE
  | "gt" => some Ordering.isGT
  | "gte" => some Ordering.isGE
  | "format" => some fun _ => true
  | _ => none

/-- Whether a value is within all bounds of a range. -/
def withinBounds? : Members → Option (V → Bool)
  | [] => some fun _ => true
  | (name, limit) :: rest => do
    let holds ← bound? name
    let others ← withinBounds? rest
    return fun v => holds (compare v limit) && others v

/-- The test of a value that a query about a field makes. -/
def fieldTest? : String → Json → Option (V → Bool)
  | "term", value => some fun v => (compare v value).isEq
  | "terms", .list values => some fun v => values.any fun value => (compare v value).isEq
  | "range", .object bounds => withinBounds? compare bounds
  | _, _ => none

mutual

/-- Whether a query matches. -/
def matches? : Json → Option Bool
  | .object [(keyword, .object body)] =>
    if keyword = "bool" then combination? body
    else if keyword = "match_all" then some true
    else if keyword = "match_none" then some false
    else match body with
      | [(field, operand)] =>
        if keyword = "exists" then operand.text?.map fun name => (row name).isSome
        else (fieldTest? compare keyword operand).map fun test => (row field).any test
      | _ => none
  | _ => none

/-- Whether a combination of queries matches. -/
def combination? : Members → Option Bool
  | [(occurrence, .list parts)] =>
    (matchesEach? parts).bind fun found =>
      if occurrence = "filter" then some (found.all id)
      else if occurrence = "must_not" then some (!found.any id)
      else none
  | [(least, .int k), (occurrence, .list parts)] =>
    if least = "minimum_should_match" ∧ k = 1 ∧ occurrence = "should" then
      (matchesEach? parts).map fun found => found.any id
    else none
  | _ => none

/-- Whether each of several queries matches. -/
def matchesEach? : List Json → Option (List Bool)
  | [] => some []
  | part :: rest => do
    let found ← matches? part
    let others ← matchesEach? rest
    return found :: others

end

/-! ## Matching what is written -/

theorem matchesEach?_map {α : Type} {write : α → Json} {selects : α → Bool} {parts : List α}
    (h : ∀ part ∈ parts, matches? row compare (write part) = some (selects part)) :
    matchesEach? row compare (parts.map write) = some (parts.map selects) := by
  induction parts with
  | nil => rfl
  | cons part rest ih =>
    rw [List.map_cons, matchesEach?, h part List.mem_cons_self,
      ih fun p hp => h p (List.mem_cons_of_mem _ hp)]
    rfl

namespace Clause

theorem toJsonList_eq (parts : List Clause) : toJsonList parts = parts.map toJson :=
  eq_map_of_cons rfl (fun _ _ => rfl) parts

theorem ofPredicates_eq (parts : List Predicate) : ofPredicates parts = parts.map ofPredicate :=
  eq_map_of_cons rfl (fun _ _ => rfl) parts

end Clause

open Clause

variable {row compare}

theorem matches?_term (field : String) (value : Json) :
    matches? row compare (Clause.term field value).toJson
      = some ((row field).any fun v => (compare v value).isEq) := by
  simp [toJson, Json.single, matches?, fieldTest?]

theorem matches?_terms (field : String) (values : List Json) :
    matches? row compare (Clause.terms field values).toJson
      = some ((row field).any fun v => values.any fun value => (compare v value).isEq) := by
  simp [toJson, Json.single, matches?, fieldTest?]

theorem matches?_holds (field : String) :
    matches? row compare (Clause.holds field).toJson = some (row field).isSome := by
  simp [toJson, Json.single, matches?, Json.text?]

theorem matches?_negatedIf {c : Clause} {b : Bool} (negated : Bool)
    (h : matches? row compare c.toJson = some b) :
    matches? row compare (negatedIf negated c).toJson = some (b != negated) := by
  cases negated with
  | false => simpa [negatedIf] using h
  | true => simp [negatedIf, toJson, Json.single, matches?, combination?, matchesEach?, h]

section
variable {α : Type} {write : α → Clause} {selects : α → Bool} {parts : List α}

theorem matches?_anyOf
    (h : ∀ part ∈ parts, matches? row compare (write part).toJson = some (selects part)) :
    matches? row compare (Clause.anyOf (parts.map write)).toJson
      = some ((parts.map selects).any id) := by
  have heach := matchesEach?_map row compare h
  have hmembers (found : Json) :
      Json.ofMembers [("should", found), ("minimum_should_match", .int 1)]
      = .object [("minimum_should_match", .int 1), ("should", found)] := by
    rw [Json.ofMembers, Json.sortMembers_pair_swap (by decide)]
  simp [toJson, toJsonList_eq, Json.single, hmembers, matches?, combination?, Function.comp_def,
    heach]

theorem matches?_allOf
    (h : ∀ part ∈ parts, matches? row compare (write part).toJson = some (selects part)) :
    matches? row compare (Clause.allOf (parts.map write)).toJson
      = some ((parts.map selects).all id) := by
  have heach := matchesEach?_map row compare h
  simp [toJson, toJsonList_eq, Json.single, matches?, combination?, Function.comp_def, heach]

end

/-- How a value in a range compares with its one bound. -/
def Bound.holds : Bound → Ordering → Bool
  | .lt => Ordering.isLT
  | .lte => Ordering.isLE
  | .gt => Ordering.isGT
  | .gte => Ordering.isGE

theorem Bound.format_lt_name (bound : Bound) : "format" < bound.name := by
  cases bound <;> decide

theorem withinBounds?_format (value : Json) (bounds : Members) :
    withinBounds? compare (("format", value) :: bounds) = withinBounds? compare bounds := by
  cases h : withinBounds? compare bounds <;> simp [withinBounds?, bound?, h]

theorem withinBounds?_bound {test : V → Bool} {bounds : Members} (bound : Bound) (limit : Json)
    (h : withinBounds? compare bounds = some test) :
    withinBounds? compare ((bound.name, limit) :: bounds)
      = some fun v => bound.holds (compare v limit) && test v := by
  cases bound <;> simp [withinBounds?, bound?, Bound.name, Bound.holds, h]

/-- A range matches the values within its bounds. A format is written before them and does not
matter. -/
theorem matches?_rangeOf {bounds : List (Bound × Json)} {bound : Bound} {limit : Json}
    {others : Members} {test : V → Bool} (column : Column)
    (hsorted : Json.sortMembers (bounds.map fun b => (b.1.name, b.2))
      = (bound.name, limit) :: others)
    (htest : withinBounds? compare ((bound.name, limit) :: others) = some test) :
    matches? row compare (rangeOf column bounds).toJson = some ((row column.name).any test) := by
  by_cases h : column.type = .datetime
  · have hmembers : Json.ofMembers ((bounds.map fun b => (b.1.name, b.2))
          ++ [("format", .text "epoch_millis")])
        = .object (("format", .text "epoch_millis") :: (bound.name, limit) :: others) := by
      rw [Json.ofMembers, Json.sortMembers_concat, hsorted,
        Json.insertMember_of_lt bound.format_lt_name]
    simp [rangeOf, toJson, Json.single, h, hmembers, matches?, fieldTest?, withinBounds?_format,
      htest]
  · simp [rangeOf, toJson, Json.single, h, Json.ofMembers, hsorted, matches?, fieldTest?, htest]

theorem matches?_bound (column : Column) (bound : Bound) (limit : Json) :
    matches? row compare (rangeOf column [(bound, limit)]).toJson
      = some ((row column.name).any fun v => bound.holds (compare v limit)) := by
  have htest : withinBounds? compare [(bound.name, limit)]
      = some fun v => bound.holds (compare v limit) && true :=
    withinBounds?_bound bound limit rfl
  simpa using matches?_rangeOf column rfl htest

theorem matches?_range (column : Column) (low high : Json) :
    matches? row compare (rangeOf column [(.gte, low), (.lte, high)]).toJson
      = some ((row column.name).any fun v => (compare v low).isGE && (compare v high).isLE) := by
  have hsorted : Json.sortMembers ([(Bound.gte, low), (Bound.lte, high)].map
        fun b => (b.1.name, b.2))
      = [(Bound.gte.name, low), (Bound.lte.name, high)] :=
    have hlt : Bound.gte.name < Bound.lte.name := by decide
    Json.sortMembers_pair hlt low high
  have htest : withinBounds? compare [(Bound.gte.name, low), (Bound.lte.name, high)]
      = some fun v => (compare v low).isGE && ((compare v high).isLE && true) :=
    withinBounds?_bound .gte low (withinBounds?_bound .lte high rfl)
  simpa using matches?_rangeOf column hsorted htest

variable {cmp : V → Literal → Ordering} {column : Column} {value : Literal}

theorem row_exactField (h : column.hasKeyword → row (column.name ++ ".keyword") = row column.name) :
    row (exactField column) = row column.name := by
  unfold exactField
  split
  · exact h ‹_›
  · rfl

theorem isGE_and_isLE (o : Ordering) : (o.isGE && o.isLE) = o.isEq := by
  cases o <;> rfl

/-- Equality is the same whether it is a term or a range of one instant. -/
theorem matches?_equals (hrow : row (exactField column) = row column.name)
    (hvalue : ∀ v, compare v value.toJson = cmp v value) :
    matches? row compare (equals column value).toJson
      = some ((row column.name).any fun v => (cmp v value).isEq) := by
  unfold equals
  cases column.type with
  | hierarchy => simp only [matches?_term, hrow, hvalue]
  | datetime => simp only [matches?_range, hvalue, isGE_and_isLE]
  | numeric => simp only [matches?_term, hvalue]

/-- Membership is the same whether it is a list of terms or one range or another. -/
theorem matches?_isAmong {values : List Literal} (hrow : row (exactField column) = row column.name)
    (hvalues : ∀ value ∈ values, ∀ v, compare v value.toJson = cmp v value) :
    matches? row compare (isAmong column values).toJson
      = some ((row column.name).any fun v => Predicate.isAmong cmp v values) := by
  have hterms : matches? row compare
        (Clause.terms (exactField column) (values.map Literal.toJson)).toJson
      = some ((row column.name).any fun v => Predicate.isAmong cmp v values) := by
    rw [matches?_terms, hrow, funext (Predicate.any_isEq_map hvalues)]
  unfold isAmong
  cases column.type with
  | hierarchy => exact hterms
  | numeric => exact hterms
  | datetime =>
    have hinstants : ∀ value ∈ values, matches? row compare
          (rangeOf column [(.gte, value.toJson), (.lte, value.toJson)]).toJson
        = some ((row column.name).any fun v => (cmp v value).isEq) := by
      intro value hvalue
      simp only [matches?_range, hvalues value hvalue, isGE_and_isLE]
    rw [matches?_anyOf hinstants]
    cases row column.name with
    | none => simp
    | some v => simp [Predicate.isAmong]

/-- What a row is that satisfies a test, or the negation of it. -/
theorem any_bne_eq (held : Option V) (test : V → Bool) (negated : Bool) :
    (held.any test != negated) = held.elim (negated && true) fun v => test v != negated := by
  cases held with
  | none => cases negated <;> rfl
  | some v => rfl

/-- **A rendered predicate matches what the predicate selects.** -/
theorem matches?_ofPredicate {p : Predicate}
    (hf : Predicate.FaithfulOn cmp compare Literal.toJson p)
    (hk : Predicate.ExactFieldsAgree row p) :
    matches? row compare (ofPredicate p).toJson = some (p.selects .complement row cmp) := by
  induction p using Predicate.induction with
  | compare column op value =>
    have hvalue := hf.test rfl value (List.mem_singleton_self value)
    have hrow : row (exactField column) = row column.name :=
      row_exactField (hk.test rfl rfl)
    have hequals := matches?_equals hrow hvalue
    have hbound (bound : Bound) :
        matches? row compare (rangeOf column [(bound, value.toJson)]).toJson
          = some ((row column.name).any fun v => bound.holds (cmp v value)) := by
      simp only [matches?_bound, hvalue]
    rw [ofPredicate, Predicate.selects]
    cases op with
    | eq => rw [compares, hequals]; cases row column.name <;> rfl
    | ne =>
      refine (matches?_negatedIf true hequals).trans ?_
      cases row column.name with
      | none => rfl
      | some v => cases h : cmp v value <;> simp [Comparison.holds, h]
    | lt => rw [compares, hbound]; cases row column.name <;> rfl
    | le => rw [compares, hbound]; cases row column.name <;> rfl
    | gt => rw [compares, hbound]; cases row column.name <;> rfl
    | ge => rw [compares, hbound]; cases row column.name <;> rfl
  | between column low high negated =>
    have hlow := hf.test rfl low List.mem_cons_self
    have hhigh := hf.test rfl high (List.mem_cons_of_mem low (List.mem_singleton_self high))
    rw [ofPredicate, matches?_negatedIf negated (matches?_range column _ _), any_bne_eq]
    simp only [hlow, hhigh]
    rfl
  | inList column values negated =>
    have hvalues : ∀ value ∈ values, ∀ v, compare v value.toJson = cmp v value :=
      hf.test rfl
    have hrow : row (exactField column) = row column.name :=
      row_exactField (hk.test rfl rfl)
    rw [ofPredicate, matches?_negatedIf negated (matches?_isAmong hrow hvalues), any_bne_eq]
    rfl
  | isNull column negated =>
    rw [ofPredicate, matches?_negatedIf (!negated) (matches?_holds _), Predicate.selects]
    cases row column.name <;> cases negated <;> rfl
  | any parts ih =>
    have hparts : ∀ part ∈ parts, matches? row compare (ofPredicate part).toJson
        = some (part.selects .complement row cmp) :=
      fun part hp => ih part hp (hf.of_any part hp) (hk.of_any part hp)
    rw [ofPredicate, ofPredicates_eq, matches?_anyOf hparts, Predicate.selects_any]
  | all parts ih =>
    have hparts : ∀ part ∈ parts, matches? row compare (ofPredicate part).toJson
        = some (part.selects .complement row cmp) :=
      fun part hp => ih part hp (hf.of_all part hp) (hk.of_all part hp)
    rw [ofPredicate, ofPredicates_eq, matches?_allOf hparts, Predicate.selects_all]
  | constant value =>
    cases value <;> simp [ofPredicate, toJson, Json.single, matches?, Predicate.selects]

end

end Search

end Pushdown
