import Pushdown.Proofs.Predicate.Meaning
import Pushdown.Relational.Statement

/-!
# The truth of conditions

The conditions of a statement have one of three truth values: what is compared with a value that is
not there is neither true nor false. `Condition.truth?` reads the truth value of a condition off its
fragments. It goes from left to right and knows the grammar of conditions, but not the predicate
they were written for: `AND` binds closer than `OR`, parentheses come first, and something malformed
has no truth value. `Condition.truth?_condition` is that a rendered predicate has the truth value of
the predicate, and `Predicate.isHolds_truth` that a row is selected when this value is true.
-/

namespace Pushdown

/-! ## Three truth values -/

/-- A truth value of a condition. -/
inductive Truth where
  | fails
  | unknown
  | holds
  deriving DecidableEq, Repr, Inhabited

namespace Truth

def ofBool (b : Bool) : Truth := if b then .holds else .fails

/-- The truth of a test of a value that may not be there. -/
def ofHeld {V : Type} (held : Option V) (test : V → Bool) : Truth :=
  match held with
  | some v => .ofBool (test v)
  | none => .unknown

def or : Truth → Truth → Truth
  | .holds, _ | _, .holds => .holds
  | .fails, t | t, .fails => t
  | .unknown, .unknown => .unknown

def and : Truth → Truth → Truth
  | .fails, _ | _, .fails => .fails
  | .holds, t | t, .holds => t
  | .unknown, .unknown => .unknown

def not : Truth → Truth
  | .fails => .holds
  | .unknown => .unknown
  | .holds => .fails

/-- The truth of several conditions joined by `OR`. -/
def anyOf (truths : List Truth) : Truth := truths.foldr or .fails

/-- The truth of several conditions joined by `AND`. -/
def allOf (truths : List Truth) : Truth := truths.foldr and .holds

def isHolds (t : Truth) : Bool := t = .holds

variable (t t' t'' : Truth)

@[simp] theorem fails_or : or .fails t = t := by cases t <;> rfl
@[simp] theorem or_fails : t.or .fails = t := by cases t <;> rfl
@[simp] theorem holds_and : and .holds t = t := by cases t <;> rfl
@[simp] theorem and_holds : t.and .holds = t := by cases t <;> rfl

theorem or_assoc : (t.or t').or t'' = t.or (t'.or t'') := by
  cases t <;> cases t' <;> cases t'' <;> rfl

theorem and_assoc : (t.and t').and t'' = t.and (t'.and t'') := by
  cases t <;> cases t' <;> cases t'' <;> rfl

theorem isHolds_or : (t.or t').isHolds = (t.isHolds || t'.isHolds) := by
  cases t <;> cases t' <;> rfl

theorem isHolds_and : (t.and t').isHolds = (t.isHolds && t'.isHolds) := by
  cases t <;> cases t' <;> rfl

theorem isHolds_anyOf (truths : List Truth) :
    (anyOf truths).isHolds = (truths.map isHolds).any id := by
  induction truths with
  | nil => rfl
  | cons t rest ih => exact (isHolds_or t (anyOf rest)).trans (congrArg (t.isHolds || ·) ih)

theorem isHolds_allOf (truths : List Truth) :
    (allOf truths).isHolds = (truths.map isHolds).all id := by
  induction truths with
  | nil => rfl
  | cons t rest ih => exact (isHolds_and t (allOf rest)).trans (congrArg (t.isHolds && ·) ih)

section
variable (b b' : Bool)

@[simp] theorem isHolds_ofBool : (ofBool b).isHolds = b := by cases b <;> rfl

theorem ofBool_or : (ofBool b).or (ofBool b') = ofBool (b || b') := by
  cases b <;> cases b' <;> rfl

theorem ofBool_and : (ofBool b).and (ofBool b') = ofBool (b && b') := by
  cases b <;> cases b' <;> rfl

theorem not_ofBool : (ofBool b).not = ofBool (!b) := by cases b <;> rfl

end

section
variable {V : Type} (held : Option V) (test test' : V → Bool)

theorem isHolds_ofHeld : (ofHeld held test).isHolds = held.elim false test := by
  cases held with
  | none => rfl
  | some v => exact isHolds_ofBool _

theorem ofHeld_or :
    (ofHeld held test).or (ofHeld held test') = ofHeld held fun v => test v || test' v := by
  cases held with
  | none => rfl
  | some v => exact ofBool_or _ _

theorem ofHeld_and :
    (ofHeld held test).and (ofHeld held test') = ofHeld held fun v => test v && test' v := by
  cases held with
  | none => rfl
  | some v => exact ofBool_and _ _

theorem not_ofHeld : (ofHeld held test).not = ofHeld held fun v => !test v := by
  cases held with
  | none => rfl
  | some v => exact not_ofBool _

end

end Truth

namespace Predicate

section
variable {V : Type} (row : String → Option V) (cmp : V → Literal → Ordering)

mutual

/-- The truth of a predicate. -/
def truth : Predicate → Truth
  | .compare column op value => .ofHeld (row column.name) fun v => op.holds (cmp v value)
  | .between column low high negated =>
    .ofHeld (row column.name) fun v => within cmp v low high != negated
  | .inList column values negated =>
    .ofHeld (row column.name) fun v => isAmong cmp v values != negated
  | .isNull column negated => .ofBool ((row column.name).isNone != negated)
  | .any parts => .anyOf (truths parts)
  | .all parts => .allOf (truths parts)
  | .constant value => .ofBool value

/-- The truths of several predicates. -/
def truths : List Predicate → List Truth
  | [] => []
  | p :: rest => truth p :: truths rest

end

theorem truths_eq (parts : List Predicate) : truths row cmp parts = parts.map (truth row cmp) :=
  eq_map_of_cons rfl (fun _ _ => rfl) parts

/-- A predicate selects the rows of which it is true, if nothing is known of absent values. -/
theorem isHolds_truth (p : Predicate) :
    (truth row cmp p).isHolds = selects .unknown row cmp p := by
  induction p using Predicate.induction with
  | compare column op value =>
    rw [truth, selects, Truth.isHolds_ofHeld]
    cases row column.name <;> simp [Absence.unknown]
  | between column low high negated =>
    rw [truth, selects, Truth.isHolds_ofHeld]
    cases row column.name <;> simp [Absence.unknown]
  | inList column values negated =>
    rw [truth, selects, Truth.isHolds_ofHeld]
    cases row column.name <;> simp [Absence.unknown]
  | isNull column negated => rw [truth, selects, Truth.isHolds_ofBool]
  | any parts ih =>
    rw [truth, selects_any, truths_eq, Truth.isHolds_anyOf, List.map_map,
      ← List.map_congr_left ih]
    rfl
  | all parts ih =>
    rw [truth, selects_all, truths_eq, Truth.isHolds_allOf, List.map_map,
      ← List.map_congr_left ih]
    rfl
  | constant value => rw [truth, selects, Truth.isHolds_ofBool]

end

end Predicate

/-! ## Reading a condition -/

namespace Condition

/-- What stands behind a name in a test. -/
inductive Tail where
  | compared (op : Comparison)
  /-- A list opens. -/
  | listed (negated : Bool)
  | null (negated : Bool)
  deriving DecidableEq, Repr, Inhabited

/-- What words behind a name say. -/
def tail? : String → Option Tail
  | " = " => some (.compared .eq)
  | " <> " => some (.compared .ne)
  | " < " => some (.compared .lt)
  | " <= " => some (.compared .le)
  | " > " => some (.compared .gt)
  | " >= " => some (.compared .ge)
  | " IN (" => some (.listed false)
  | " NOT IN (" => some (.listed true)
  | " IS NULL" => some (.null false)
  | " IS NOT NULL" => some (.null true)
  | _ => none

/-- The truth of a test of a constant. -/
def constant? : String → Option Truth
  | "1 = 1" => some .holds
  | "1 = 0" => some .fails
  | _ => none

/-- What is known of a condition in the middle of it, within one pair of parentheses. -/
structure Level where
  /-- The truth of what stands before the last `OR`. -/
  before : Truth
  /-- The truth of what stands behind it. -/
  since : Truth
  deriving DecidableEq, Repr, Inhabited

namespace Level

/-- The level of a condition that begins. -/
def start : Level := ⟨.fails, .holds⟩

/-- The level behind one more operand. -/
def add (level : Level) (t : Truth) : Level := { level with since := level.since.and t }

/-- The truth of the condition if it ends. -/
def truth (level : Level) : Truth := level.before.or level.since

/-- The level behind an `OR`. -/
def alternative (level : Level) : Level := ⟨level.truth, .holds⟩

end Level

section
variable {V : Type} (row : String → Option V) (compare : V → Fragment → Ordering)

mutual

/-- The truth of a condition of which an operand comes next. -/
def operand : Fragments → Level → List Level → Option Truth
  | .words s :: rest, level, outer =>
    if s = "(" then operand rest .start (level :: outer)
    else match constant? s with
      | some t => operator rest (level.add t) outer
      | none => none
  | .name name :: .words s :: rest, level, outer =>
    match tail? s with
    | some (.null negated) =>
      operator rest (level.add (.ofBool ((row name).isNone != negated))) outer
    | some (.listed negated) => member (row name) negated .fails rest level outer
    | some (.compared op) =>
      match rest with
      | literal :: rest =>
        operator rest (level.add (.ofHeld (row name) fun v => op.holds (compare v literal))) outer
      | [] => none
    | none => none
  | _, _, _ => none

/-- The truth of a condition of which a member of a list comes next. -/
def member (held : Option V) (negated : Bool) (found : Truth) :
    Fragments → Level → List Level → Option Truth
  | literal :: .words s :: rest, level, outer =>
    let found := found.or (.ofHeld held fun v => (compare v literal).isEq)
    if s = ", " then member held negated found rest level outer
    else if s = ")" then operator rest (level.add (if negated then found.not else found)) outer
    else none
  | _, _, _ => none

/-- The truth of a condition that goes on behind an operand. -/
def operator : Fragments → Level → List Level → Option Truth
  | [], level, [] => some level.truth
  | .words s :: rest, level, outer =>
    if s = " OR " then operand rest level.alternative outer
    else if s = " AND " then operand rest level outer
    else match s, outer with
      | ")", opened :: outer => operator rest (opened.add level.truth) outer
      | _, _ => none
  | _, _, _ => none

end

/-- The truth of a condition. -/
def truth? (condition : Fragments) : Option Truth := operand row compare condition .start []

end

/-! ## Reading what is written -/

section
variable {V : Type} {row : String → Option V} {compare : V → Fragment → Ordering}
  {cmp : V → Literal → Ordering} {d : Dialect} {p : Predicate} {level opened : Level}
  {outer : List Level} {rest : Fragments} {name : String}

theorem operator_or : operator row compare (.words " OR " :: rest) level outer
    = operand row compare rest level.alternative outer := by
  simp [operator]

theorem operator_and : operator row compare (.words " AND " :: rest) level outer
    = operand row compare rest level outer := by
  simp [operator]

theorem operator_close : operator row compare (.words ")" :: rest) level (opened :: outer)
    = operator row compare rest (opened.add level.truth) outer := by
  simp [operator]

theorem operand_open : operand row compare (.words "(" :: rest) level outer
    = operand row compare rest .start (level :: outer) := by
  simp [operand]

theorem operand_constant (b : Bool) :
    operand row compare (.words (Dialect.constantText b) :: rest) level outer
      = operator row compare rest (level.add (.ofBool b)) outer := by
  cases b <;> simp [operand, Dialect.constantText, constant?, Truth.ofBool]

theorem operand_compare (op : Comparison) (literal : Fragment) :
    operand row compare (.name name :: .words (" " ++ op.symbol ++ " ") :: literal :: rest) level
        outer
      = operator row compare rest
          (level.add (.ofHeld (row name) fun v => op.holds (compare v literal))) outer := by
  cases op <;> simp [operand, Comparison.symbol, tail?]

theorem operand_null (negated : Bool) :
    operand row compare
        (.name name :: .words (if negated then " IS NOT NULL" else " IS NULL") :: rest) level outer
      = operator row compare rest (level.add (.ofBool ((row name).isNone != negated))) outer := by
  cases negated <;> simp [operand, tail?]

theorem operand_list (negated : Bool) :
    operand row compare
        (.name name :: .words (if negated then " NOT IN (" else " IN (") :: rest) level outer
      = member row compare (row name) negated .fails rest level outer := by
  cases negated <;> simp [operand, tail?]

/-- The members of a list are read one by one. -/
theorem member_values {held : Option V} {values : List Literal} (negated : Bool) (found : Truth)
    (hne : values ≠ [])
    (hf : ∀ value ∈ values, ∀ v, compare v (d.literal value) = cmp v value) :
    member row compare held negated found
        (Fragment.separated ", " (values.map fun value => [d.literal value])
          ++ .words ")" :: rest) level outer
      = operator row compare rest
          (level.add
            (if negated then (found.or (.ofHeld held fun v => Predicate.isAmong cmp v values)).not
              else found.or (.ofHeld held fun v => Predicate.isAmong cmp v values))) outer := by
  induction values generalizing found with
  | nil => exact absurd rfl hne
  | cons value values ih =>
    have hvalue (v : V) : compare v (d.literal value) = cmp v value := hf value List.mem_cons_self v
    cases values with
    | nil => simp [Fragment.separated, member, hvalue, Predicate.isAmong]
    | cons value' values =>
      have hrest := ih (found.or (.ofHeld held fun v => (cmp v value).isEq)) (List.cons_ne_nil _ _)
        fun w hw => hf w (List.mem_cons_of_mem _ hw)
      rw [Truth.or_assoc, Truth.ofHeld_or] at hrest
      simpa [Fragment.separated, member, hvalue, Predicate.isAmong] using hrest

theorem conditions_eq (parts : List Predicate) : d.conditions parts = parts.map d.condition :=
  eq_map_of_cons rfl (fun _ _ => rfl) parts

variable (row compare) in
/-- Fragments that are read as an operand of some truth, whatever follows them. -/
def Reads (text : Fragments) (t : Truth) : Prop :=
  ∀ rest level outer, operand row compare (text ++ rest) level outer
    = operator row compare rest (level.add t) outer

section
variable {parts : List Predicate} {truth : Predicate → Truth}

/-- Operands joined by `OR` are read one by one, up to the parenthesis that closes them. -/
theorem operand_alternatives (before : Truth) (hne : parts ≠ [])
    (hread : ∀ part ∈ parts, Reads row compare (d.condition part) (truth part)) :
    operand row compare
        (Fragment.separated " OR " (parts.map d.condition) ++ .words ")" :: rest) ⟨before, .holds⟩
        (opened :: outer)
      = operator row compare rest (opened.add (before.or (.anyOf (parts.map truth)))) outer := by
  induction parts generalizing before with
  | nil => exact absurd rfl hne
  | cons part parts ih =>
    have hpart := hread part List.mem_cons_self
    cases parts with
    | nil =>
      rw [List.map_singleton, Fragment.separated, hpart, operator_close]
      simp [Level.add, Level.truth, Truth.anyOf]
    | cons part' parts =>
      have hlevel : ((⟨before, .holds⟩ : Level).add (truth part)).alternative
          = ⟨before.or (truth part), .holds⟩ := by
        simp [Level.add, Level.truth, Level.alternative]
      have hrest := ih (before.or (truth part)) (List.cons_ne_nil _ _)
        fun p hp => hread p (List.mem_cons_of_mem _ hp)
      rw [Truth.or_assoc] at hrest
      simp only [List.map_cons, Fragment.separated, List.append_assoc, List.cons_append] at hrest ⊢
      rw [hpart, operator_or, hlevel, hrest]
      rfl

/-- Operands joined by `AND` are read one by one, up to the parenthesis that closes them. -/
theorem operand_conjunction (since : Truth) (hne : parts ≠ [])
    (hread : ∀ part ∈ parts, Reads row compare (d.condition part) (truth part)) :
    operand row compare
        (Fragment.separated " AND " (parts.map d.condition) ++ .words ")" :: rest) ⟨.fails, since⟩
        (opened :: outer)
      = operator row compare rest (opened.add (since.and (.allOf (parts.map truth)))) outer := by
  induction parts generalizing since with
  | nil => exact absurd rfl hne
  | cons part parts ih =>
    have hpart := hread part List.mem_cons_self
    cases parts with
    | nil =>
      rw [List.map_singleton, Fragment.separated, hpart, operator_close]
      simp [Level.add, Level.truth, Truth.allOf]
    | cons part' parts =>
      have hrest := ih (since.and (truth part)) (List.cons_ne_nil _ _)
        fun p hp => hread p (List.mem_cons_of_mem _ hp)
      rw [Truth.and_assoc] at hrest
      simp only [List.map_cons, Fragment.separated, List.append_assoc, List.cons_append] at hrest ⊢
      rw [hpart, operator_and, Level.add, hrest]
      rfl

end

/-- Conditions joined by a connective are their only one, or stand in parentheses. -/
theorem joined_cases (connective : String) (b : Bool) (parts : List Predicate) :
    (parts = [] ∧ Dialect.joined connective b (d.conditions parts)
        = [.words (Dialect.constantText b)])
      ∨ (∃ part, parts = [part]
        ∧ Dialect.joined connective b (d.conditions parts) = d.condition part)
      ∨ (parts ≠ [] ∧ Dialect.joined connective b (d.conditions parts)
        = .words "(" :: Fragment.separated connective (parts.map d.condition) ++ [.words ")"]) := by
  match parts with
  | [] => exact .inl ⟨rfl, rfl⟩
  | [part] => exact .inr (.inl ⟨part, rfl, rfl⟩)
  | part :: part' :: parts =>
    refine .inr (.inr ⟨List.cons_ne_nil _ _, ?_⟩)
    rw [conditions_eq]
    rfl

/-- A rendered predicate is read as an operand that has the truth of the predicate. -/
theorem reads_condition (hs : p.Sound) (hf : Predicate.FaithfulOn cmp compare d.literal p) :
    Reads row compare (d.condition p) (p.truth row cmp) := by
  induction p using Predicate.induction with
  | compare column op value =>
    intro rest level outer
    have hvalue := hf.test rfl value (List.mem_singleton_self value)
    simp only [Dialect.condition, List.cons_append, List.nil_append, operand_compare, hvalue]
    rfl
  | between column low high negated =>
    intro rest level outer
    have hlow := hf.test rfl low List.mem_cons_self
    have hhigh := hf.test rfl high (List.mem_cons_of_mem low (List.mem_singleton_self high))
    rw [Predicate.truth]
    cases negated with
    | false =>
      change operand row compare (.words "(" :: .name column.name
        :: .words (" " ++ Comparison.ge.symbol ++ " ") :: d.literal low :: .words " AND "
        :: .name column.name :: .words (" " ++ Comparison.le.symbol ++ " ") :: d.literal high
        :: .words ")" :: rest) level outer = _
      rw [operand_open, operand_compare, operator_and, operand_compare, operator_close]
      simp only [Level.add, Level.start, Level.truth, Truth.holds_and, Truth.fails_or,
        Truth.ofHeld_and, hlow, hhigh, Comparison.holds, Predicate.within, Bool.bne_false]
    | true =>
      change operand row compare (.words "(" :: .name column.name
        :: .words (" " ++ Comparison.lt.symbol ++ " ") :: d.literal low :: .words " OR "
        :: .name column.name :: .words (" " ++ Comparison.gt.symbol ++ " ") :: d.literal high
        :: .words ")" :: rest) level outer = _
      rw [operand_open, operand_compare, operator_or, operand_compare, operator_close]
      simp only [Level.add, Level.start, Level.truth, Level.alternative, Truth.holds_and,
        Truth.fails_or, Truth.ofHeld_or, hlow, hhigh, Comparison.holds,
        Predicate.outside_eq]
  | inList column values negated =>
    intro rest level outer
    obtain ⟨hne, -⟩ : values ≠ [] ∧ ∀ value ∈ values, value.IsFinite :=
      hs.test rfl
    have hvalues : ∀ value ∈ values, ∀ v, compare v (d.literal value) = cmp v value :=
      hf.test rfl
    simp only [Dialect.condition, List.cons_append, List.nil_append, List.append_assoc,
      operand_list, member_values negated .fails hne hvalues, Truth.fails_or, Predicate.truth]
    cases negated with
    | false => simp
    | true => simp [Truth.not_ofHeld]
  | isNull column negated =>
    intro rest level outer
    simp only [Dialect.condition, List.cons_append, List.nil_append, operand_null]
    rfl
  | any parts ih =>
    have hparts : ∀ part ∈ parts, Reads row compare (d.condition part) (part.truth row cmp) :=
      fun part hp => ih part hp (hs.of_any part hp) (hf.of_any part hp)
    intro rest level outer
    rw [Dialect.condition, Predicate.truth, Predicate.truths_eq]
    rcases joined_cases (d := d) " OR " false parts with ⟨rfl, h⟩ | ⟨part, rfl, h⟩ | ⟨hne, h⟩
    · rw [h]
      exact operand_constant false
    · rw [h, hparts part (List.mem_singleton_self _), List.map_singleton]
      simp [Truth.anyOf]
    · rw [h, List.append_assoc, List.singleton_append, List.cons_append, operand_open, Level.start,
        operand_alternatives .fails hne hparts, Truth.fails_or]
  | all parts ih =>
    have hparts : ∀ part ∈ parts, Reads row compare (d.condition part) (part.truth row cmp) :=
      fun part hp => ih part hp (hs.of_all part hp) (hf.of_all part hp)
    intro rest level outer
    rw [Dialect.condition, Predicate.truth, Predicate.truths_eq]
    rcases joined_cases (d := d) " AND " true parts with ⟨rfl, h⟩ | ⟨part, rfl, h⟩ | ⟨hne, h⟩
    · rw [h]
      exact operand_constant true
    · rw [h, hparts part (List.mem_singleton_self _), List.map_singleton]
      simp [Truth.allOf]
    · rw [h, List.append_assoc, List.singleton_append, List.cons_append, operand_open, Level.start,
        operand_conjunction .holds hne hparts, Truth.holds_and]
  | constant value =>
    intro rest level outer
    simp only [Dialect.condition, List.cons_append, List.nil_append, operand_constant]
    rfl

/-- A rendered predicate has the truth of the predicate. -/
theorem truth?_condition (hs : p.Sound) (hf : Predicate.FaithfulOn cmp compare d.literal p) :
    truth? row compare (d.condition p) = some (p.truth row cmp) := by
  have hreads : Reads row compare (d.condition p) (p.truth row cmp) := reads_condition hs hf
  have h := hreads [] .start []
  rw [List.append_nil] at h
  rw [truth?, h, operator]
  simp [Level.add, Level.start, Level.truth]

end

end Condition

end Pushdown
