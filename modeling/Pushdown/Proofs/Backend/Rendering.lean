import Pushdown.Proofs.Document.Matching
import Pushdown.Proofs.Json.Members
import Pushdown.Proofs.Predicate.Shape
import Pushdown.Proofs.Relational.Conditions
import Pushdown.Proofs.Relational.Lexemes
import Pushdown.Proofs.Search.Matching

/-!
# Renderings without empty lists

No backend is asked about a list without members: a query over documents and a search query have no
empty list in them at any depth (`Json.Filled`), and in a condition no list is closed as soon as it
is opened (`Fragment.Filled`). This is so for every predicate that is `Predicate.Full`, and so for
every filter: `Predicate.ofFilter_wellFormed_filled`.
-/

namespace Pushdown

/-! ## Values without empty lists -/

namespace Json

/-- No list in a value is empty, at any depth. -/
inductive Filled : Json → Prop
  | null : Filled .null
  | bool (b : Bool) : Filled (.bool b)
  | int (k : Int) : Filled (.int k)
  | float (x : Binary64) : Filled (.float x)
  | text (s : String) : Filled (.text s)
  | list {items : List Json} (hne : items ≠ []) (h : ∀ item ∈ items, Filled item) :
      Filled (.list items)
  | object {members : Members} (h : ∀ m ∈ members, Filled m.2) : Filled (.object members)

theorem filled_single (name : String) {j : Json} (h : j.Filled) : (single name j).Filled :=
  .object (List.forall_mem_singleton.2 h)

theorem filled_ofMembers {members : Members} (h : ∀ m ∈ members, m.2.Filled) :
    (ofMembers members).Filled :=
  .object fun m hm => h m (mem_of_mem_sortMembers hm)

/-- What is written for each of some parts is not empty if there are parts. -/
theorem filled_map {α : Type} {parts : List α} {write : α → Json} (hne : parts ≠ [])
    (h : ∀ part ∈ parts, (write part).Filled) : (list (parts.map write)).Filled :=
  .list (by simpa using hne) (List.forall_mem_map.2 h)

end Json

theorem Literal.filled_toJson (literal : Literal) : literal.toJson.Filled := by
  cases literal with
  | number x =>
    rw [Literal.toJson, Json.ofNumber]
    split
    · exact .int _
    · split
      · exact .float _
      · exact .null
  | text s => exact .text s
  | bool b => exact .bool b
  | timestamp t => exact .int _

namespace Document.Selector

theorem filled_literal (literal : Literal) : (Selector.literal literal).Filled := by
  cases literal with
  | timestamp t => exact Json.filled_single "$date" (.text _)
  | number x => exact (Literal.number x).filled_toJson
  | text s => exact (Literal.text s).filled_toJson
  | bool b => exact (Literal.bool b).filled_toJson

theorem filled_field (name : String) {tests : List (Operator × Json)}
    (h : ∀ test ∈ tests, test.2.Filled) : (field name tests).toJson.Filled :=
  Json.filled_single name (Json.filled_ofMembers (List.forall_mem_map.2 h))

theorem filled_anyOf {parts : List Selector} (hne : parts ≠ [])
    (h : ∀ part ∈ parts, part.toJson.Filled) : (anyOf parts).toJson.Filled := by
  rw [toJson, toJsonList_eq]
  exact Json.filled_single "$or" (Json.filled_map hne h)

theorem filled_allOf {parts : List Selector} (hne : parts ≠ [])
    (h : ∀ part ∈ parts, part.toJson.Filled) : (allOf parts).toJson.Filled := by
  rw [toJson, toJsonList_eq]
  exact Json.filled_single "$and" (Json.filled_map hne h)

/-- A query over documents has no empty list in it. -/
theorem filled_ofPredicate {p : Predicate} (h : p.Full) : (ofPredicate p).toJson.Filled := by
  induction h with
  | compare column op value =>
    exact filled_field _ (List.forall_mem_singleton.2 (filled_literal value))
  | between column low high negated =>
    have hone (op : Operator) (literal : Literal) :
        (field column.name [(op, Selector.literal literal)]).toJson.Filled :=
      filled_field _ (List.forall_mem_singleton.2 (filled_literal literal))
    cases negated with
    | false =>
      exact filled_field _ (List.forall_mem_cons.2
        ⟨filled_literal low, List.forall_mem_singleton.2 (filled_literal high)⟩)
    | true =>
      exact filled_anyOf (List.cons_ne_nil _ _) (List.forall_mem_cons.2
        ⟨hone .lt low, List.forall_mem_singleton.2 (hone .gt high)⟩)
  | inList column hne negated =>
    exact filled_field _ (List.forall_mem_singleton.2
      (Json.filled_map hne fun value _ => filled_literal value))
  | isNull column negated =>
    cases negated with
    | false => exact Json.filled_single _ .null
    | true => exact filled_field _ (List.forall_mem_singleton.2 .null)
  | any hne _ ih =>
    rw [ofPredicate, ofPredicates_eq]
    exact filled_anyOf (by simpa using hne) (List.forall_mem_map.2 ih)
  | all hne _ ih =>
    rw [ofPredicate, ofPredicates_eq]
    exact filled_allOf (by simpa using hne) (List.forall_mem_map.2 ih)
  | constant b =>
    cases b with
    | false => exact Json.filled_single _ (.bool false)
    | true => exact .object (List.forall_mem_nil _)

end Document.Selector

namespace Search.Clause

theorem filled_range (field : String) {bounds : List (Bound × Json)} (millis : Bool)
    (h : ∀ bound ∈ bounds, bound.2.Filled) : (range field bounds millis).toJson.Filled := by
  rw [toJson]
  refine Json.filled_single _ (Json.filled_single _ (Json.filled_ofMembers ?_))
  refine List.forall_mem_append.2 ⟨List.forall_mem_map.2 h, ?_⟩
  cases millis with
  | false => exact List.forall_mem_nil _
  | true => exact List.forall_mem_singleton.2 (.text _)

theorem filled_negatedIf (negated : Bool) {c : Clause} (h : c.toJson.Filled) :
    (negatedIf negated c).toJson.Filled := by
  cases negated with
  | false => exact h
  | true =>
    rw [negatedIf, if_pos rfl, toJson]
    exact Json.filled_single _ (Json.filled_single _
      (.list (List.cons_ne_nil _ _) (List.forall_mem_singleton.2 h)))

theorem filled_anyOf {parts : List Clause} (hne : parts ≠ [])
    (h : ∀ part ∈ parts, part.toJson.Filled) : (anyOf parts).toJson.Filled := by
  rw [toJson, toJsonList_eq]
  exact Json.filled_single _ (Json.filled_ofMembers
    (List.forall_mem_cons.2 ⟨Json.filled_map hne h, List.forall_mem_singleton.2 (.int 1)⟩))

theorem filled_allOf {parts : List Clause} (hne : parts ≠ [])
    (h : ∀ part ∈ parts, part.toJson.Filled) : (allOf parts).toJson.Filled := by
  rw [toJson, toJsonList_eq]
  exact Json.filled_single _ (Json.filled_single _ (Json.filled_map hne h))

/-- A range of a column between two literals. -/
theorem filled_between (column : Column) (low high : Literal) :
    (rangeOf column [(.gte, low.toJson), (.lte, high.toJson)]).toJson.Filled :=
  filled_range _ _ (List.forall_mem_cons.2
    ⟨low.filled_toJson, List.forall_mem_singleton.2 high.filled_toJson⟩)

theorem filled_compares (column : Column) (op : Comparison) (value : Literal) :
    (compares column op value).toJson.Filled := by
  have hterm (field : String) : (term field value.toJson).toJson.Filled := by
    rw [toJson]
    exact Json.filled_single _ (Json.filled_single _ value.filled_toJson)
  have hequals : (equals column value).toJson.Filled := by
    unfold equals
    cases column.type with
    | hierarchy => exact hterm _
    | datetime => exact filled_between column value value
    | numeric => exact hterm _
  have hbound (bound : Bound) : (rangeOf column [(bound, value.toJson)]).toJson.Filled :=
    filled_range _ _ (List.forall_mem_singleton.2 value.filled_toJson)
  cases op with
  | eq => exact hequals
  | ne => exact filled_negatedIf true hequals
  | lt | le | gt | ge => exact hbound _

theorem filled_isAmong (column : Column) {values : List Literal} (hne : values ≠ []) :
    (isAmong column values).toJson.Filled := by
  have hterms : (terms (exactField column) (values.map Literal.toJson)).toJson.Filled := by
    rw [toJson]
    exact Json.filled_single _ (Json.filled_single _
      (Json.filled_map hne fun value _ => value.filled_toJson))
  unfold isAmong
  cases column.type with
  | datetime =>
    exact filled_anyOf (by simpa using hne)
      (List.forall_mem_map.2 fun value _ => filled_between column value value)
  | numeric | hierarchy => exact hterms

/-- A search query has no empty list in it. -/
theorem filled_ofPredicate {p : Predicate} (h : p.Full) : (ofPredicate p).toJson.Filled := by
  induction h with
  | compare column op value => exact filled_compares column op value
  | between column low high negated =>
    exact filled_negatedIf negated (filled_between column low high)
  | inList column hne negated => exact filled_negatedIf negated (filled_isAmong column hne)
  | isNull column negated =>
    refine filled_negatedIf (!negated) ?_
    rw [toJson]
    exact Json.filled_single _ (Json.filled_single _ (.text _))
  | any hne _ ih =>
    rw [ofPredicate, ofPredicates_eq]
    exact filled_anyOf (by simpa using hne) (List.forall_mem_map.2 ih)
  | all hne _ ih =>
    rw [ofPredicate, ofPredicates_eq]
    exact filled_allOf (by simpa using hne) (List.forall_mem_map.2 ih)
  | constant b => cases b <;> exact Json.filled_single _ (.object (List.forall_mem_nil _))

end Search.Clause

/-! ## Conditions without empty lists -/

namespace Fragment

/-- The words that open a list of values. -/
def opening (negated : Bool) : Fragment := .words (if negated then " NOT IN (" else " IN (")

/-- Both of them. -/
def openings : List String := [" IN (", " NOT IN ("]

theorem words_ne_opening {w : String} (hw : w ∉ openings) (negated : Bool) :
    .words w ≠ opening negated := by
  intro heq
  obtain rfl := Fragment.words.inj heq
  cases negated <;> exact hw (by decide)

/-- Behind the words that open a list stands something else than what closes it. -/
inductive Filled : Fragments → Prop
  | nil : Filled []
  | cons {f : Fragment} {rest : Fragments} (hf : ∀ negated, f ≠ opening negated) (h : Filled rest) :
      Filled (f :: rest)
  | list (negated : Bool) {first : Fragment} {rest : Fragments} (hfirst : first ≠ .words ")")
      (h : Filled (first :: rest)) : Filled (opening negated :: first :: rest)

theorem Filled.words {w : String} {rest : Fragments} (hw : w ∉ openings)
    (h : Filled rest) : Filled (.words w :: rest) :=
  .cons (words_ne_opening hw) h

theorem Filled.name (s : String) {rest : Fragments} (h : Filled rest) : Filled (.name s :: rest) :=
  .cons (fun _ heq => nomatch heq) h

theorem Filled.append {fragments fragments' : Fragments} (h : Filled fragments)
    (h' : Filled fragments') : Filled (fragments ++ fragments') := by
  induction h with
  | nil => exact h'
  | cons hf _ ih => exact .cons hf ih
  | list negated hfirst _ ih => exact .list negated hfirst ih

theorem filled_separated {between : String} (hbetween : between ∉ openings)
    {parts : List Fragments} (h : ∀ part ∈ parts, Filled part) :
    Filled (separated between parts) := by
  induction parts with
  | nil => exact .nil
  | cons part rest ih =>
    obtain ⟨hpart, hrest⟩ := List.forall_mem_cons.1 h
    cases rest with
    | nil => exact hpart
    | cons => exact hpart.append ((ih hrest).words hbetween)

/-- No list is closed as soon as it is opened. -/
theorem Filled.closes_none {fragments : Fragments} (h : Filled fragments) (negated : Bool) :
    ¬ [opening negated, .words ")"] <:+: fragments := by
  induction h with
  | nil => simp
  | cons hf _ ih =>
    rw [List.infix_cons_iff]
    rintro (hstart | hlater)
    · exact hf negated (List.cons_prefix_cons.1 hstart).1.symm
    · exact ih hlater
  | list negated' hfirst _ ih =>
    rw [List.infix_cons_iff]
    rintro (hstart | hlater)
    · obtain ⟨-, hstart⟩ := List.cons_prefix_cons.1 hstart
      exact hfirst (List.cons_prefix_cons.1 hstart).1.symm
    · exact ih hlater

end Fragment

namespace Dialect

open Fragment (Filled opening openings)

variable (d : Dialect)

/-- A literal is none of the words around a list. -/
theorem literal_ne_words (literal : Literal) {w : String} (hw : w ∈ ")" :: openings) :
    d.literal literal ≠ .words w := by
  intro h
  cases literal with
  | number x =>
    have hother : ∀ w ∈ ")" :: openings,
        w ∉ ["inf", "-inf", "NaN"] ∧ w.toList.all isNumeric = false := by decide
    obtain ⟨hspecial, hnumeric⟩ := hother w hw
    exact numberText_ne hspecial hnumeric (Fragment.words.inj h)
  | text s => cases h
  | bool b =>
    obtain rfl : d.boolText b = w := Fragment.words.inj h
    cases d <;> cases b <;> revert hw <;> decide
  | timestamp t =>
    -- Every dialect quotes an instant, and there is no quote in the words around a list.
    obtain rfl : d.instantText t = w := Fragment.words.inj h
    have henclosed (before between after : String) (hbefore : '\'' ∈ before.toList) :
        '\'' ∈ (before ++ t.stamp between ++ after).toList := by
      rw [String.toList_append, String.toList_append]
      exact List.mem_append_left _ (List.mem_append_left _ hbefore)
    have hquote : '\'' ∈ (d.instantText t).toList := by
      cases d <;> exact henclosed _ _ _ (by decide)
    have hplain : ∀ w ∈ ")" :: openings, '\'' ∉ w.toList := by decide
    exact hplain _ hw hquote

theorem filled_literal (literal : Literal) {rest : Fragments} (h : Filled rest) :
    Filled (d.literal literal :: rest) :=
  .cons (fun negated => d.literal_ne_words literal (by cases negated <;> decide)) h

/-- A list that has a first value. -/
theorem filled_list {values : List Literal} (hne : values ≠ []) (negated : Bool) :
    Filled (opening negated :: Fragment.separated ", " (values.map fun v => [d.literal v])
      ++ [.words ")"]) := by
  have hvalues : Filled (Fragment.separated ", " (values.map fun v => [d.literal v])) :=
    Fragment.filled_separated (by decide)
      (List.forall_mem_map.2 fun v _ => d.filled_literal v .nil)
  obtain ⟨value, values, rfl⟩ := List.exists_cons_of_ne_nil hne
  obtain ⟨rest, hrest⟩ : ∃ rest,
      Fragment.separated ", " ((value :: values).map fun v => [d.literal v])
        = d.literal value :: rest := by
    cases values with
    | nil => exact ⟨_, rfl⟩
    | cons => exact ⟨_, rfl⟩
  rw [hrest] at hvalues ⊢
  exact (Filled.list negated (d.literal_ne_words value (by decide)) hvalues).append
    (Filled.nil.words (by decide))

theorem filled_joined {connective : String} (hconnective : connective ∉ openings)
    (empty : Bool) {parts : List Fragments} (h : ∀ part ∈ parts, Filled part) :
    Filled (joined connective empty parts) := by
  have hclosed : Filled [.words ")"] := Filled.nil.words (by decide)
  cases parts with
  | nil => exact Filled.nil.words (by cases empty <;> decide)
  | cons part rest =>
    cases rest with
    | nil => exact h part List.mem_cons_self
    | cons => exact ((Fragment.filled_separated hconnective h).append hclosed).words (by decide)

/-- In a condition no list is closed as soon as it is opened. -/
theorem filled_condition {p : Predicate} (h : p.Full) : Filled (d.condition p) := by
  have hclosed : Filled [.words ")"] := Filled.nil.words (by decide)
  induction h with
  | compare column op value =>
    have hop : " " ++ op.symbol ++ " " ∉ openings := by cases op <;> decide
    exact ((d.filled_literal value .nil).words hop).name column.name
  | between column low high negated =>
    have hbounds {less between more : String} (hless : less ∉ openings)
        (hbetween : between ∉ openings) (hmore : more ∉ openings) :
        Filled [ .words "(", .name column.name, .words less, d.literal low, .words between,
          .name column.name, .words more, d.literal high, .words ")" ] := by
      have hupper : Filled [.name column.name, .words more, d.literal high, .words ")"] :=
        ((d.filled_literal high hclosed).words hmore).name column.name
      have hlower : Filled (.name column.name :: .words less :: d.literal low :: .words between ::
          [.name column.name, .words more, d.literal high, .words ")"]) :=
        ((d.filled_literal low (hupper.words hbetween)).words hless).name column.name
      exact hlower.words (by decide)
    cases negated with
    | false => exact hbounds (by decide) (by decide) (by decide)
    | true => exact hbounds (by decide) (by decide) (by decide)
  | inList column hne negated => exact (d.filled_list hne negated).name column.name
  | isNull column negated =>
    exact (Filled.nil.words (by cases negated <;> decide)).name column.name
  | any _ _ ih =>
    rw [condition, Condition.conditions_eq]
    exact filled_joined (by decide) false (List.forall_mem_map.2 ih)
  | all _ _ ih =>
    rw [condition, Condition.conditions_eq]
    exact filled_joined (by decide) true (List.forall_mem_map.2 ih)
  | constant b => exact Filled.nil.words (by cases b <;> decide)

end Dialect

namespace Predicate

/-- **Compiled filters are well formed.** In the predicate of a filter on a column every list has a
member, at every depth, so that no condition, no query over documents and no search query has an
empty list in it. Its literals are of the type of the column, no other column occurs in it, and
where equality with a number is a small range nothing in it asks for equality. A membership lists
the values of its filter that are not `null`, or the ranges around them, in their order: as many,
and none is left out. -/
theorem ofFilter_wellFormed_filled {options : FilterOptions} {column : Column} {f : Filter}
    {p : Predicate} (h : ofFilter options column f = .ok p) :
    WellFormed options column f p
      ∧ (f.test = .isIn ∨ f.test = .notIn →
          p.listings.length = (f.values.filter fun value => !value.isNull).length)
      ∧ (∀ (d : Dialect) negated,
          ¬ [Fragment.opening negated, .words ")"] <:+: d.condition p)
      ∧ (Document.Selector.ofPredicate p).toJson.Filled
      ∧ (Search.Clause.ofPredicate p).toJson.Filled := by
  have hformed : WellFormed options column f p := wellFormed_ofFilter h
  refine ⟨hformed, fun htest => (hformed.listed htest).length_eq.symm, fun d negated => ?_, ?_, ?_⟩
  · exact (d.filled_condition hformed.full).closes_none negated
  · exact Document.Selector.filled_ofPredicate hformed.full
  · exact Search.Clause.filled_ofPredicate hformed.full

section

/-- A column of numbers. -/
def amountColumn : Column := ⟨"amount", "amount", .numeric, "double", "orders", false⟩

/-- A filter that lists a number twice, with `null` between, and another number. -/
def otherAmounts : Filter := ⟨"amount", .notIn, [.int 1, .null, .text " 1 ", .int 2]⟩

/-- All three numbers are ruled out, each by its own range. -/
theorem ofFilter_wellFormed_filled_otherAmounts :
    let p : Predicate := .any [.all ([1, 1, 2].map fun k => nearby amountColumn (.ofInt k) true),
      .isNull amountColumn false]
    ofFilter ⟨true⟩ amountColumn otherAmounts = .ok p
      ∧ p.listings.length = 3
      ∧ (Document.Selector.ofPredicate p).toJson.Filled := by
  intro p
  have hvalues : listedLiterals amountColumn otherAmounts.values
      = .ok ([1, 1, 2].map fun k => .number (.ofInt k)) := by decide +kernel
  have hmembership : ofFilter ⟨true⟩ amountColumn otherAmounts
      = (listedLiterals amountColumn otherAmounts.values).map
          (membership ⟨true⟩ amountColumn true · true) := rfl
  have hp : ofFilter ⟨true⟩ amountColumn otherAmounts = .ok p := by
    rw [hmembership, hvalues]
    simp [Except.map, membership, listed, approximates, nearbyEach, amountColumn, p]
  obtain ⟨-, hlength, -, hfilled, -⟩ := ofFilter_wellFormed_filled hp
  exact ⟨hp, hlength (.inr rfl), hfilled⟩

end

end Predicate

end Pushdown
