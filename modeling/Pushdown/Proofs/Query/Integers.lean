import Pushdown.Proofs.Number.Integers
import Pushdown.Proofs.Predicate.Filters
import Pushdown.Proofs.Query.Planning
import Pushdown.Proofs.Relational.Conditions
import Pushdown.Row.Normalize

/-!
# Integers in filters and in results

An integer goes into a statement as a filter value and comes out of a backend as a numeral.
`integers_pass` follows it on both ways. A filter is settled with the integer left open
(`Predicate.TakesIntegers`), so that the `WHERE` clauses for two integers differ in one numeral only
(`Fragment.Encloses`), and a numeral in a result is read as a number again.

Both ways lead through `Binary64`. Up to `Binary64.exactLimit` an integer passes unchanged; one more
than the limit does not (`not_integers_pass_oneMore`).
-/

namespace Pushdown

/-! ## Texts around a part -/

namespace Fragment

variable {ι : Type} {text text' part : ι → Fragments}

/-- Texts that differ in one part only: what stands around it is the same in all of them. -/
def Encloses (text part : ι → Fragments) : Prop :=
  ∃ before after, ∀ i, text i = before ++ part i ++ after

theorem Encloses.trans (h : Encloses text text') (h' : Encloses text' part) :
    Encloses text part := by
  obtain ⟨before, after, h⟩ := h
  obtain ⟨before', after', h'⟩ := h'
  exact ⟨before ++ before', after' ++ after, fun i => by rw [h, h']; simp⟩

theorem separated_cons {between : String} {first : Fragments} {rest : List Fragments}
    (hne : rest ≠ []) :
    separated between (first :: rest) = first ++ .words between :: separated between rest := by
  cases rest with
  | nil => exact absurd rfl hne
  | cons => rfl

/-- A part of a list stands between the ones before it and the ones after it. -/
theorem encloses_separated (part : ι → Fragments) (between : String)
    (parts parts' : List Fragments) :
    Encloses (fun i => separated between (parts ++ part i :: parts')) part := by
  induction parts with
  | nil =>
    cases parts' with
    | nil => exact ⟨[], [], fun i => by simp [separated]⟩
    | cons next rest => exact ⟨[], .words between :: separated between (next :: rest), fun _ => rfl⟩
  | cons first rest ih =>
    obtain ⟨before, after, h⟩ := ih
    refine ⟨first ++ .words between :: before, after, fun i => ?_⟩
    have hrest : separated between (rest ++ part i :: parts') = before ++ part i ++ after := h i
    change separated between (first :: (rest ++ part i :: parts')) = _
    rw [separated_cons (by simp), hrest]
    simp

end Fragment

open Fragment (Encloses)

/-! ## The condition of a filter with one value left open -/

/-- Whether a test looks at the value at a place among those of its filter: a comparison at the
first one only, a test of membership at each. -/
def FilterTest.Reads (test : FilterTest) (place : Nat) : Prop :=
  match test with
  | .isIn | .notIn => True
  | .isNull | .isNotNull => False
  | .eq | .ne | .lt | .le | .gt | .ge => place = 0

namespace Predicate

variable {column : Column}

section
variable (d : Dialect) (column) (values values' : List Literal) (negated : Bool)

/-- The condition of a list of values around one of them. -/
theorem encloses_inList :
    Encloses (fun x => d.condition (.inList column (values ++ x :: values') negated))
      fun x => [d.literal x] := by
  obtain ⟨before, after, h⟩ := Fragment.encloses_separated (fun x => [d.literal x]) ", "
    (values.map fun v => [d.literal v]) (values'.map fun v => [d.literal v])
  refine ⟨.name column.name :: .words (if negated then " NOT IN (" else " IN (") :: before,
    after ++ [.words ")"], fun x => ?_⟩
  have hx : Fragment.separated ", " ((values ++ x :: values').map fun v => [d.literal v])
      = before ++ [d.literal x] ++ after := by
    rw [List.map_append, List.map_cons]
    exact h x
  simp only [Dialect.condition, hx]
  simp

/-- A membership in a list that is not empty. With `null` listed it is an alternative to the list;
without, a negated list leaves out the rows that hold no value. -/
theorem membership_exact {values : List Literal} (hne : values ≠ []) (withNull : Bool) :
    membership .exact column withNull values negated
      = if withNull then .any [.inList column values negated, .isNull column false]
        else if negated then .all [.inList column values negated, .isNull column true]
        else .inList column values negated := by
  cases values with
  | nil => exact absurd rfl hne
  | cons => cases withNull <;> cases negated <;> rfl

/-- The condition of a membership around one of its values. -/
theorem encloses_membership (withNull : Bool) :
    Encloses
      (fun x => d.condition (membership .exact column withNull (values ++ x :: values') negated))
      fun x => [d.literal x] := by
  have hne (x : Literal) : values ++ x :: values' ≠ [] := by simp
  have hmembership (x : Literal) := membership_exact column negated (hne x) withNull
  refine Encloses.trans ?_ (encloses_inList column d values values' negated)
  simp only [hmembership]
  cases withNull with
  | true =>
    exact ⟨[.words "("], .words " OR " :: d.condition (.isNull column false) ++ [.words ")"],
      fun x => by simp [Dialect.condition, Dialect.conditions, Dialect.joined, Fragment.separated]⟩
  | false =>
    cases negated with
    | false => exact ⟨[], [], fun x => by simp⟩
    | true =>
      exact ⟨[.words "("], .words " AND " :: d.condition (.isNull column true) ++ [.words ")"],
        fun x => by
          simp [Dialect.condition, Dialect.conditions, Dialect.joined, Fragment.separated]⟩

end

section
variable {columnId : String} {test : FilterTest} {earlier later : List Json}

theorem coerce_int (hnumeric : column.type = .numeric) {k : Int}
    (hk : k.natAbs ≤ Binary64.nat64Max) :
    Literal.coerce column (.int k) = .ok (.number (.ofInt k)) := by
  have hfinite := Binary64.isFinite_of_isIntegral (Binary64.isIntegral_ofInt hk)
  have hcoerce : Literal.coerce? .numeric (.int k) = some (.number (.ofInt k)) := by
    simp [Literal.coerce?, Json.number?, hfinite]
  rw [Literal.coerce, hnumeric, hcoerce]

/-- The literals of a list of values around an integer. -/
theorem exists_listedLiterals (hnumeric : column.type = .numeric) {k₀ : Int}
    {literals : List Literal}
    (h : listedLiterals column (earlier ++ .int k₀ :: later) = .ok literals) :
    ∃ values values', ∀ k : Int, k.natAbs ≤ Binary64.nat64Max →
      listedLiterals column (earlier ++ .int k :: later)
        = .ok (values ++ .number (.ofInt k) :: values') := by
  have hsplit (k : Int) : listedLiterals column (earlier ++ .int k :: later) = do
      let values ← listedLiterals column earlier
      let x ← Literal.coerce column (.int k)
      let values' ← listedLiterals column later
      return values ++ x :: values' := by
    have hkept : (!(Json.int k).isNull) = true := rfl
    simp [listedLiterals, List.filter_append, hkept, List.mapM_append, List.mapM_cons]
  rw [hsplit] at h
  obtain ⟨values, hvalues, h⟩ := Except.ok_of_bind h
  obtain ⟨x, -, h⟩ := Except.ok_of_bind h
  obtain ⟨values', hvalues', -⟩ := Except.ok_of_bind h
  refine ⟨values, values', fun k hk => ?_⟩
  rw [hsplit, hvalues, coerce_int hnumeric hk, hvalues']
  rfl

/-- Predicates settled with an integer left open, if every 64-bit integer is good and the conditions
differ in the literal of the integer only. -/
def TakesIntegers (settle : Int → Except Failure Predicate) : Prop :=
  ∃ around : Literal → Predicate,
    (∀ k : Int, k.natAbs ≤ Binary64.nat64Max → settle k = .ok (around (.number (.ofInt k))))
    ∧ ∀ d : Dialect, Encloses (fun x => d.condition (around x)) fun x => [d.literal x]

theorem takesIntegers_ofComparison (hnumeric : column.type = .numeric)
    (hfirst : earlier.length = 0) (op : Comparison) :
    TakesIntegers fun k =>
      ofComparison .exact column ⟨columnId, test, earlier ++ .int k :: later⟩ op := by
  obtain rfl := List.length_eq_zero_iff.1 hfirst
  refine ⟨.compare column op, fun k hk => ?_, fun d => ?_⟩
  · change (Literal.coerce column (.int k)).map (comparison .exact column op) = _
    rw [coerce_int hnumeric hk]
    cases op <;> rfl
  · exact ⟨[.name column.name, .words (" " ++ op.symbol ++ " ")], [], fun _ => rfl⟩

theorem takesIntegers_ofMembership (hnumeric : column.type = .numeric) {negated : Bool}
    {k₀ : Int} {p₀ : Predicate}
    (h : ofMembership .exact column ⟨columnId, test, earlier ++ .int k₀ :: later⟩ negated
      = .ok p₀) :
    TakesIntegers fun k =>
      ofMembership .exact column ⟨columnId, test, earlier ++ .int k :: later⟩ negated := by
  obtain ⟨literals, hliterals, -⟩ := ofMembership_eq_ok h
  obtain ⟨values, values', hlisted⟩ := exists_listedLiterals hnumeric hliterals
  have hnull (k : Int) : (earlier ++ .int k :: later).any Json.isNull
      = (earlier ++ later).any Json.isNull := by
    simp [Json.isNull]
  refine ⟨fun x => membership .exact column ((earlier ++ later).any Json.isNull)
    (values ++ x :: values') negated, fun k hk => ?_, fun d => ?_⟩
  · dsimp only
    rw [ofMembership, hlisted k hk, hnull]
    rfl
  · exact encloses_membership column d values values' negated _

/-- Where a filter is good with an integer at a place its test looks at, it is good with every
64-bit integer there. -/
theorem takesIntegers_ofFilter (hnumeric : column.type = .numeric)
    (hreads : test.Reads earlier.length) {k₀ : Int} {p₀ : Predicate}
    (h : ofFilter .exact column ⟨columnId, test, earlier ++ .int k₀ :: later⟩ = .ok p₀) :
    TakesIntegers fun k =>
      ofFilter .exact column ⟨columnId, test, earlier ++ .int k :: later⟩ := by
  cases test with
  | isIn | notIn => exact takesIntegers_ofMembership hnumeric h
  | isNull | isNotNull => exact hreads.elim
  | eq => exact takesIntegers_ofComparison hnumeric hreads .eq
  | ne => exact takesIntegers_ofComparison hnumeric hreads .ne
  | lt => exact takesIntegers_ofComparison hnumeric hreads .lt
  | le => exact takesIntegers_ofComparison hnumeric hreads .le
  | gt => exact takesIntegers_ofComparison hnumeric hreads .gt
  | ge => exact takesIntegers_ofComparison hnumeric hreads .ge

end

end Predicate

/-! ## Integers in results -/

/-- The integer a value is. -/
def Json.integer? : Json → Option Int
  | .int k => some k
  | .float x => if x.isIntegral then some x.truncate else none
  | _ => none

theorem Json.integer?_ofNumber {x : Binary64} (h : x.isIntegral) :
    (ofNumber x).integer? = some x.truncate := by
  rw [ofNumber]
  split
  · rfl
  · rw [if_pos (Binary64.isFinite_of_isIntegral h)]
    exact if_pos h

/-- The numeral of a 64-bit integer becomes the number nearest to the integer. -/
theorem integer?_normalizeNumber {k : Int} (hk : k.natAbs ≤ Binary64.nat64Max) :
    (normalizeNumber (.text (toString k))).integer? = some (Binary64.ofInt k).truncate := by
  have hread : normalizeNumber (.text (toString k)) = .ofNumber (.ofInt k) := by
    rw [normalizeNumber, trim_toString, Binary64.ofText?_toString hk]
  rw [hread, Json.integer?_ofNumber (Binary64.isIntegral_ofInt hk)]

/-- What a backend answers for an output column. The constant that stands for a row is not asked
for. -/
def NativeRow.answer? (row : NativeRow) (output : OutputColumn) (place : Nat) : Option Json :=
  match output.role with
  | .unit => none
  | .rowCount => some (row.rowCount place output)
  | .value | .count => some (row.extract place output)

theorem NativeRow.cell_of_answer? {row : NativeRow} {output : OutputColumn} {place : Nat}
    {value : Json} (h : row.answer? output place = some value) :
    row.cell output place = normalizeValue output.type value := by
  unfold answer? at h
  rw [cell]
  split at h <;> cases h <;> simp [*]

/-! ## Integers pass through -/

/-- The `WHERE` clause around the condition of one of its predicates. -/
theorem Dialect.encloses_where (d : Dialect) (others others' : List Predicate)
    (p : Literal → Predicate) :
    Encloses (fun x => clause " WHERE " " AND " (d.conditions (others ++ p x :: others')))
      fun x => d.condition (p x) := by
  obtain ⟨before, after, h⟩ := Fragment.encloses_separated (fun x => d.condition (p x)) " AND "
    (others.map d.condition) (others'.map d.condition)
  refine ⟨.words " WHERE " :: before, after, fun x => ?_⟩
  have hparts : d.conditions (others ++ p x :: others')
      = others.map d.condition ++ d.condition (p x) :: others'.map d.condition := by
    rw [Condition.conditions_eq, List.map_append, List.map_cons]
  have hx : Fragment.separated " AND "
      (others.map d.condition ++ d.condition (p x) :: others'.map d.condition)
      = before ++ d.condition (p x) ++ after := h x
  have hne : (others.map d.condition ++ d.condition (p x) :: others'.map d.condition).isEmpty
      = false := by
    simp
  dsimp only
  rw [hparts, clause, hne, hx]
  simp

/-- Integers pass through unchanged up to the limit. Where a filter on a numeric column takes one
integer, it takes every 64-bit one, and the `WHERE` clause of the statement is the same text around
one numeral. The numeral of a 64-bit integer in a numeric output becomes an integer. In both
directions this is the number nearest to the integer, which up to the limit is the integer
itself. -/
theorem integers_pass (d : Dialect) :
    (∀ (column : Column) (columnId : String) (test : FilterTest) (earlier later : List Json)
        (k₀ : Int) (p₀ : Predicate) (others others' : List Predicate),
      column.type = .numeric → test.Reads earlier.length →
      Predicate.ofFilter .exact column ⟨columnId, test, earlier ++ .int k₀ :: later⟩ = .ok p₀ →
      ∃ before after, ∀ k : Int, k.natAbs ≤ Binary64.nat64Max →
        ∃ p, Predicate.ofFilter .exact column ⟨columnId, test, earlier ++ .int k :: later⟩ = .ok p
          ∧ Dialect.clause " WHERE " " AND " (d.conditions (others ++ p :: others'))
            = before ++ .words (Dialect.numberText (.ofInt k)) :: after
          ∧ (k.natAbs ≤ Binary64.exactLimit → Dialect.numberText (.ofInt k) = toString k))
    ∧ ∀ (row : NativeRow) (output : OutputColumn) (place : Nat) (k : Int),
      output.type = .numeric → row.answer? output place = some (.text (toString k)) →
      k.natAbs ≤ Binary64.nat64Max →
      (row.cell output place).integer? = some (Binary64.ofInt k).truncate
        ∧ (k.natAbs ≤ Binary64.exactLimit → (Binary64.ofInt k).truncate = k) := by
  constructor
  · intro column columnId test earlier later k₀ p₀ others others' hnumeric hreads hfilter
    obtain ⟨around, hsettles, hencloses⟩ :=
      Predicate.takesIntegers_ofFilter hnumeric hreads hfilter
    obtain ⟨before, after, h⟩ := (d.encloses_where others others' around).trans (hencloses d)
    refine ⟨before, after, fun k hk => ⟨_, hsettles k hk, ?_, Dialect.numberText_ofInt⟩⟩
    simpa [Dialect.literal] using h (.number (.ofInt k))
  · intro row output place k hnumeric hanswer hk
    rw [NativeRow.cell_of_answer? hanswer, hnumeric, normalizeValue]
    exact ⟨integer?_normalizeNumber hk, Binary64.truncate_ofInt⟩

/-- A column of identifiers. -/
def idColumn : Column := ⟨"id", "id", .numeric, "bigint", "orders", false⟩

/-- The output of a column of identifiers. -/
def idOutput : OutputColumn := ⟨"c0", .numeric, .value⟩

/-- A row with one identifier, as a driver returns it. -/
def idRow (k : Int) : NativeRow := .positional [.text (toString k)]

/-- The identifier in `id IN (5, …)` with `null` listed, and an identifier among the results. -/
theorem integers_pass_ids :
    (∃ before after, ∀ k : Int, k.natAbs ≤ Binary64.nat64Max →
      ∃ p, Predicate.ofFilter .exact idColumn ⟨"id", .isIn, [.int 5] ++ .int k :: [.null]⟩ = .ok p
        ∧ Dialect.clause " WHERE " " AND " (Dialect.sqlServer.conditions ([] ++ p :: []))
          = before ++ .words (Dialect.numberText (.ofInt k)) :: after
        ∧ (k.natAbs ≤ Binary64.exactLimit → Dialect.numberText (.ofInt k) = toString k))
    ∧ ((idRow (-9007199254740991)).cell idOutput 0).integer?
        = some (Binary64.ofInt (-9007199254740991)).truncate
    ∧ (Binary64.ofInt (-9007199254740991)).truncate = -9007199254740991 := by
  have hcell := (integers_pass .sqlServer).2 (idRow (-9007199254740991)) idOutput 0
    (-9007199254740991) rfl rfl (by decide)
  exact ⟨(integers_pass .sqlServer).1 idColumn "id" .isIn [.int 5] [.null] 1 _ [] [] rfl trivial
    rfl, hcell.1, hcell.2 (by decide)⟩

/-- One more than the limit is a 64-bit integer that does not pass through: the statement asks for
another identifier, and another one is found in the result. -/
theorem not_integers_pass_oneMore :
    (9007199254740993 : Int) ≤ Binary64.int64Max
    ∧ (∃ p, Predicate.ofFilter .exact idColumn ⟨"id", .eq, [.int 9007199254740993]⟩ = .ok p
      ∧ Dialect.clause " WHERE " " AND " (Dialect.mySql.conditions [p])
        = [.words " WHERE ", .name "id", .words " = ", .words "9007199254740992"])
    ∧ toString (9007199254740993 : Int) ≠ "9007199254740992"
    ∧ ((idRow 9007199254740993).cell idOutput 0).integer? = some 9007199254740992 :=
  ⟨by decide, ⟨_, rfl, by decide +kernel⟩, by decide +kernel, by decide +kernel⟩

end Pushdown
