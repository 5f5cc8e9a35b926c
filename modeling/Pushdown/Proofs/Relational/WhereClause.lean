import Pushdown.Proofs.Relational.Clauses

/-!
# The truth of a `WHERE` clause

`WhereClause.truth?` reads a truth value off the words of a clause by the precedence of SQL: what
stands between `OR`s outside of all parentheses are alternatives, what stands between `AND`s in one
of them are its factors, and a factor is a test, `NOT` before a factor, or a clause in parentheses.
It knows how a dialect quotes names and writes literals, but no predicate; what it cannot make sense
of has no truth value.

`WhereClause.truth?_condition` is that a rendered predicate is a factor that has the truth of the
predicate, wherever it stands: no `AND` or `OR` of it is outside of its own parentheses
(`Dialect.isClosed_condition`).
-/

namespace Pushdown

/-- Every list of a predicate has a member. -/
def Predicate.HasMembers (p : Predicate) : Prop :=
  ∀ column negated, .inList column [] negated ∉ p.leaves

namespace Predicate.HasMembers

variable {parts : List Predicate}

theorem of_any (h : (any parts).HasMembers) : ∀ part ∈ parts, part.HasMembers :=
  fun _ hpart column negated hmem => h column negated (leaves_subset_any hpart hmem)

theorem of_all (h : (all parts).HasMembers) : ∀ part ∈ parts, part.HasMembers :=
  fun _ hpart column negated hmem => h column negated (leaves_subset_all hpart hmem)

theorem ne_nil {column : Column} {values : List Literal} {negated : Bool}
    (h : (inList column values negated).HasMembers) : values ≠ [] := by
  rintro rfl
  exact h column negated (List.mem_singleton_self _)

end Predicate.HasMembers

namespace WhereClause

open Lexeme

/-! ## The grammar -/

def isOr (l : Lexeme) : Bool := l = .word "OR"

def isAnd (l : Lexeme) : Bool := l = .word "AND"

/-- The comparison that a word stands for. -/
def comparison? : String → Option Comparison
  | "=" => some .eq
  | "<>" => some .ne
  | "<" => some .lt
  | "<=" => some .le
  | ">" => some .gt
  | ">=" => some .ge
  | _ => none

/-- The words that stand for no value. -/
def reserved : List String := ["AND", "OR", "NOT", "IS", "NULL", "IN"]

/-- Whether some words are one literal. -/
def isLiteral (d : Dialect) : List Lexeme → Bool
  | [.word w] => !reserved.contains w
  | [.quoted quote _] => quote ≠ d.nameQuote
  | [.word "TIMESTAMP", .quoted .single _] => true
  | [ .word "CONVERT", .mark '(', .word "datetime2", .mark ',', .quoted .single _, .mark ',',
      .word "126", .mark ')' ] => true
  | _ => false

section
variable {V : Type} (d : Dialect) (row : String → Option V)
  (compare : V → List Lexeme → Ordering)

/-- The truth of a value being one of a list: an equality with each member, joined by `OR`. -/
def listed? (held : Option V) (list : List Lexeme) : Option Truth :=
  if (items list).all (isLiteral d) then
    some (.anyOf ((items list).map fun member => .ofHeld held fun v => (compare v member).isEq))
  else none

/-- The truth of what is said of the value of a column. -/
def tested? (held : Option V) : List Lexeme → Option Truth
  | [.word "IS", .word "NULL"] => some (.ofBool held.isNone)
  | [.word "IS", .word "NOT", .word "NULL"] => some (.ofBool held.isSome)
  | .word "IN" :: .mark '(' :: rest => (enclosed? rest).bind (listed? d compare held)
  | .word "NOT" :: .word "IN" :: .mark '(' :: rest =>
    ((enclosed? rest).bind (listed? d compare held)).map .not
  | .word op :: literal =>
    if isLiteral d literal then
      (comparison? op).map fun op => .ofHeld held fun v => op.holds (compare v literal)
    else none
  | _ => none

/-- The truth of one test: of a column, or of two numerals. -/
def test? : List Lexeme → Option Truth
  | .quoted quote name :: rest =>
    if quote = d.nameQuote then tested? d compare (row name) rest else none
  | [.word left, .word op, .word right] => do
    let op ← comparison? op
    let left ← PageWindow.numeral? left
    let right ← PageWindow.numeral? right
    return .ofBool (op.holds (Ord.compare left right))
  | _ => none

/-- The truth of a factor, given that of what stands in parentheses. -/
def factor? (inner : List Lexeme → Option Truth) : List Lexeme → Option Truth
  | .word "NOT" :: rest => (factor? inner rest).map .not
  | .mark '(' :: rest => (enclosed? rest).bind inner
  | ls => test? d row compare ls

/-- The truth of some words with so many parentheses within each other. -/
def truthWithin : Nat → List Lexeme → Option Truth
  | 0, _ => none
  | depth + 1, ls => do
    let alternatives ← (parts isOr ls).mapM fun alternative => do
      let factors ← (parts isAnd alternative).mapM (factor? d row compare (truthWithin depth))
      return Truth.allOf factors
    return Truth.anyOf alternatives

/-- The truth of a clause. -/
def truth? (ls : List Lexeme) : Option Truth := truthWithin d row compare (ls.length + 1) ls

end

example :
    let read (text : String) := (Dialect.mySql.lexemes? text).bind
      (truth? .mySql some fun v literal => if literal = [.quoted .single v] then .eq else .lt)
    read "`a` = 'a' OR `a` = 'a' AND 1 = 0" = some .holds
      ∧ read "NOT `a` = 'b' AND `a` = 'b'" = some .fails := by
  decide +kernel

/-! ## Reading what is written -/

/-- A list whose members are read one by one. -/
theorem mapM_map_eq_some {α β γ : Type} {f : β → Option γ} {g : α → β} {h : α → γ} {l : List α}
    (hread : ∀ a ∈ l, f (g a) = some (h a)) : (l.map g).mapM f = some (l.map h) := by
  induction l with
  | nil => rfl
  | cons a l ih =>
    obtain ⟨ha, hl⟩ := List.forall_mem_cons.1 hread
    rw [List.map_cons, List.mapM_cons, ha, ih hl]
    rfl

section
variable {V : Type} {d : Dialect} {row : String → Option V}
  {compare : V → List Lexeme → Ordering} {cmp : V → Literal → Ordering}

theorem isLiteral_literal (d : Dialect) (value : Literal) :
    isLiteral d (d.lexemesOf (d.literal value)) = true := by
  cases value with
  | number x =>
    have hword : ∀ w ∈ reserved, Dialect.numberText x ≠ w := by
      have hletters : ∀ w ∈ reserved,
          w ∉ ["inf", "-inf", "NaN"] ∧ w.toList.all Dialect.isNumeric = false := by decide
      exact fun w hw => Dialect.numberText_ne (hletters w hw).1 (hletters w hw).2
    rw [Dialect.literal, d.lexemesOf_number]
    simpa [isLiteral] using fun h => hword _ h rfl
  | text s => cases d <;> rfl
  | bool b =>
    rw [Dialect.literal, d.lexemesOf_bool]
    cases d <;> cases b <;> decide
  | timestamp t =>
    rw [Dialect.literal, d.lexemesOf_instant]
    cases d <;> rfl

theorem enclosed?_separated {between : String}
    (hbetween : walk (fun _ => false) 0 (d.lexemesOf (.words between)) = some 0)
    {fss : List Fragments} (h : ∀ fs ∈ fss, d.IsClosed fs) :
    enclosed? ((Fragment.separated between fss).flatMap d.lexemesOf ++ [.mark ')'])
      = some ((Fragment.separated between fss).flatMap d.lexemesOf) :=
  enclosed?_append (Dialect.walk_separated hbetween fun fs hfs => (h fs hfs).mono nofun)

/-- What stands behind the name of a column is said of its value. -/
theorem factor?_column (inner : List Lexeme → Option Truth) (name : String)
    (rest : List Lexeme) :
    factor? d row compare inner (.quoted d.nameQuote name :: rest)
      = tested? d compare (row name) rest := by
  rw [factor?, test?, if_pos rfl]
  · exact nofun
  · exact nofun

theorem tested?_compare (held : Option V) (op : Comparison) {literal : List Lexeme}
    (hliteral : isLiteral d literal = true) :
    tested? d compare held (.word op.symbol :: literal)
      = some (.ofHeld held fun v => op.holds (compare v literal)) := by
  cases op <;> simp [tested?, Comparison.symbol, hliteral, comparison?]

theorem tested?_null (held : Option V) (negated : Bool) :
    tested? d compare held
        (d.lexemesOf (.words (if negated then " IS NOT NULL" else " IS NULL")))
      = some (.ofBool (held.isNone != negated)) := by
  cases negated with
  | false =>
    rw [Dialect.lexemesOf_words (by decide)]
    cases held <;> rfl
  | true =>
    rw [Dialect.lexemesOf_words (by decide)]
    cases held <;> rfl

/-- The words of several fragments are no fewer than those of one. -/
theorem length_le_of_mem {between : String} {fss : List Fragments} {fs : Fragments}
    (h : fs ∈ fss) :
    (fs.flatMap d.lexemesOf).length
      ≤ ((Fragment.separated between fss).flatMap d.lexemesOf).length := by
  fun_induction Fragment.separated between fss with
  | case1 => exact absurd h List.not_mem_nil
  | case2 part =>
    obtain rfl := List.mem_singleton.1 h
    exact Nat.le_refl _
  | case3 part rest _ ih =>
    rw [List.flatMap_append, List.flatMap_cons, List.length_append, List.length_append]
    rcases List.mem_cons.1 h with rfl | hrest
    · omega
    · have := ih hrest
      omega

theorem isClosed_isOr {ls : List Lexeme} (h : Lexeme.IsClosed separates ls) :
    Lexeme.IsClosed isOr ls :=
  h.mono fun l hl => by
    obtain rfl : l = .word "OR" := by simpa [isOr] using hl
    decide

theorem isClosed_isAnd {ls : List Lexeme} (h : Lexeme.IsClosed separates ls) :
    Lexeme.IsClosed isAnd ls :=
  h.mono fun l hl => by
    obtain rfl : l = .word "AND" := by simpa [isAnd] using hl
    decide

section
variable {α : Type} {l : List α} {fragments : α → Fragments} {truth : α → Truth} {depth : Nat}

/-- Closed factors joined by `OR` are alternatives. -/
theorem truthWithin_alternatives (hne : l ≠ []) (hclosed : ∀ a ∈ l, d.IsClosed (fragments a))
    (hread : ∀ a ∈ l, factor? d row compare (truthWithin d row compare depth)
      ((fragments a).flatMap d.lexemesOf) = some (truth a)) :
    truthWithin d row compare (depth + 1)
        ((Fragment.separated " OR " (l.map fragments)).flatMap d.lexemesOf)
      = some (.anyOf (l.map truth)) := by
  have hor : d.lexemesOf (.words " OR ") = [.word "OR"] := Dialect.lexemesOf_words (by decide)
  have hparts := Dialect.parts_separated hor (by decide) (mt List.map_eq_nil_iff.1 hne)
    (List.forall_mem_map.2 fun a ha => isClosed_isOr (hclosed a ha))
  have halternative : ∀ a ∈ l, (do
      let factors ← (parts isAnd ((fragments a).flatMap d.lexemesOf)).mapM
        (factor? d row compare (truthWithin d row compare depth))
      return Truth.allOf factors) = some (truth a) := by
    intro a ha
    rw [(isClosed_isAnd (hclosed a ha)).parts_eq, List.mapM_cons, hread a ha]
    exact congrArg some (Truth.and_holds _)
  rw [truthWithin, hparts, List.map_map, mapM_map_eq_some halternative]
  rfl

/-- Closed factors joined by `AND` are the factors of one alternative. -/
theorem truthWithin_factors (hne : l ≠ []) (hclosed : ∀ a ∈ l, d.IsClosed (fragments a))
    (hread : ∀ a ∈ l, factor? d row compare (truthWithin d row compare depth)
      ((fragments a).flatMap d.lexemesOf) = some (truth a)) :
    truthWithin d row compare (depth + 1)
        ((Fragment.separated " AND " (l.map fragments)).flatMap d.lexemesOf)
      = some (.allOf (l.map truth)) := by
  have hand : d.lexemesOf (.words " AND ") = [.word "AND"] := Dialect.lexemesOf_words (by decide)
  have hone : Lexeme.IsClosed isOr
      ((Fragment.separated " AND " (l.map fragments)).flatMap d.lexemesOf) := by
    refine fun depth => Dialect.walk_separated ?_
      (List.forall_mem_map.2 fun a ha => isClosed_isOr (hclosed a ha))
    rw [hand]
    exact isClosed_singleton (by decide) (by decide) (by decide) depth
  have hparts := Dialect.parts_separated hand (by decide) (mt List.map_eq_nil_iff.1 hne)
    (List.forall_mem_map.2 fun a ha => isClosed_isAnd (hclosed a ha))
  have hfactors : ((l.map fragments).map fun part => part.flatMap d.lexemesOf).mapM
      (factor? d row compare (truthWithin d row compare depth)) = some (l.map truth) := by
    rw [List.map_map]
    exact mapM_map_eq_some hread
  rw [truthWithin, hone.parts_eq, List.mapM_cons, hparts, hfactors]
  exact congrArg some (Truth.or_fails _)

end

/-- A connective, the truth of nothing joined by it, and what it makes of several truths. -/
inductive Connective : String → Bool → (List Truth → Truth) → Prop
  | or : Connective " OR " false .anyOf
  | and : Connective " AND " true .allOf

section
variable {α : Type} {l : List α} {fragments : α → Fragments} {truth : α → Truth}
  {connective : String} {empty : Bool} {join : List Truth → Truth}

/-- Closed factors that are joined in parentheses are one factor. -/
theorem factor?_enclosed (hjoin : Connective connective empty join) (hne : l ≠ [])
    (hclosed : ∀ a ∈ l, d.IsClosed (fragments a)) {depth : Nat}
    (hread : ∀ a ∈ l, ∀ depth, ((fragments a).flatMap d.lexemesOf).length ≤ depth →
      factor? d row compare (truthWithin d row compare depth)
        ((fragments a).flatMap d.lexemesOf) = some (truth a))
    (hdepth : ((.words "(" :: Fragment.separated connective (l.map fragments) ++ [.words ")"]
      : Fragments).flatMap d.lexemesOf).length ≤ depth) :
    factor? d row compare (truthWithin d row compare depth)
        ((.words "(" :: Fragment.separated connective (l.map fragments) ++ [.words ")"]
          : Fragments).flatMap d.lexemesOf)
      = some (join (l.map truth)) := by
  have hopen : d.lexemesOf (.words "(") = [.mark '('] := Dialect.lexemesOf_words (by decide)
  have hwords : (.words "(" :: Fragment.separated connective (l.map fragments) ++ [.words ")"]
        : Fragments).flatMap d.lexemesOf
      = .mark '(' :: ((Fragment.separated connective (l.map fragments)).flatMap d.lexemesOf
        ++ [.mark ')']) := by
    simp [hopen, d.lexemesOf_close]
  rw [hwords] at hdepth ⊢
  rw [List.length_cons, List.length_append] at hdepth
  -- The parentheses are what the depth goes down by.
  obtain ⟨depth, rfl⟩ : ∃ n, depth = n + 1 := ⟨depth - 1, by omega⟩
  have hfactors : ∀ a ∈ l, factor? d row compare (truthWithin d row compare depth)
      ((fragments a).flatMap d.lexemesOf) = some (truth a) := by
    intro a ha
    have hle : ((fragments a).flatMap d.lexemesOf).length
        ≤ ((Fragment.separated connective (l.map fragments)).flatMap d.lexemesOf).length :=
      length_le_of_mem (List.mem_map_of_mem ha)
    exact hread a ha depth (by omega)
  have hconnective : walk (fun _ => false) 0 (d.lexemesOf (.words connective)) = some 0 := by
    cases hjoin <;> rw [Dialect.lexemesOf_words (by decide)] <;> rfl
  rw [factor?, enclosed?_separated hconnective (List.forall_mem_map.2 hclosed), Option.bind_some]
  cases hjoin with
  | or => exact truthWithin_alternatives hne hclosed hfactors
  | and => exact truthWithin_factors hne hclosed hfactors

end

/-- The words of a comparison are a factor. -/
theorem factor?_compare (inner : List Lexeme → Option Truth) (column : Column) (op : Comparison)
    {value : Literal} (hvalue : ∀ v, compare v (d.lexemesOf (d.literal value)) = cmp v value) :
    factor? d row compare inner ((d.condition (.compare column op value)).flatMap d.lexemesOf)
      = some (.ofHeld (row column.name) fun v => op.holds (cmp v value)) := by
  have hop : d.lexemesOf (.words (" " ++ op.symbol ++ " ")) = [.word op.symbol] := by
    cases op <;> exact Dialect.lexemesOf_words (by decide)
  have htested : tested? d compare (row column.name)
        (.word op.symbol :: d.lexemesOf (d.literal value)) = _ :=
    tested?_compare (row column.name) op (isLiteral_literal d value)
  simp only [hvalue] at htested
  rw [Dialect.condition, List.flatMap_cons, List.flatMap_cons, List.flatMap_singleton, hop,
    Dialect.lexemesOf_name, List.singleton_append, List.singleton_append, factor?_column, htested]

/-- Equalities with the members of a list, joined by `OR`. -/
theorem anyOf_ofHeld {held : Option V} {values : List Literal} (hne : values ≠ []) :
    Truth.anyOf (values.map fun value => .ofHeld held fun v => (cmp v value).isEq)
      = .ofHeld held fun v => Predicate.isAmong cmp v values := by
  induction values with
  | nil => exact absurd rfl hne
  | cons value rest ih =>
    rw [List.map_cons, Truth.anyOf, List.foldr_cons]
    cases rest with
    | nil => simp [Predicate.isAmong]
    | cons value' rest =>
      have hrest := ih (List.cons_ne_nil _ _)
      rw [Truth.anyOf] at hrest
      rw [hrest, Truth.ofHeld_or]
      rfl

/-- The members of a list are read one by one. -/
theorem listed?_values {held : Option V} {values : List Literal} (hne : values ≠ [])
    (hf : ∀ value ∈ values, ∀ v, compare v (d.lexemesOf (d.literal value)) = cmp v value) :
    listed? d compare held
        ((Fragment.separated ", " (values.map fun value => [d.literal value])).flatMap d.lexemesOf)
      = some (.ofHeld held fun v => Predicate.isAmong cmp v values) := by
  have hitems := Dialect.items_separated (mt List.map_eq_nil_iff.1 hne)
    (List.forall_mem_map.2 fun value _ => d.isClosed_literal value)
  have hliterals :
      ((values.map fun value => [d.literal value]).map fun part => part.flatMap d.lexemesOf)
        = values.map fun value => d.lexemesOf (d.literal value) := by
    simp
  have hall : (values.map fun value => d.lexemesOf (d.literal value)).all (isLiteral d) = true := by
    simp [isLiteral_literal]
  have htruths : (values.map fun value => d.lexemesOf (d.literal value)).map
      (fun member => Truth.ofHeld held fun v => (compare v member).isEq)
        = values.map fun value => .ofHeld held fun v => (cmp v value).isEq := by
    rw [List.map_map]
    refine List.map_congr_left fun value hvalue => ?_
    exact congrArg (Truth.ofHeld held) (funext fun v => congrArg Ordering.isEq (hf value hvalue v))
  rw [listed?, hitems, hliterals, if_pos hall, htruths, anyOf_ofHeld hne]

theorem factor?_constant (inner : List Lexeme → Option Truth) (b : Bool) :
    factor? d row compare inner
        (([.words (Dialect.constantText b)] : Fragments).flatMap d.lexemesOf)
      = some (.ofBool b) := by
  have hwords : d.lexemesOf (.words (Dialect.constantText b))
      = [.word "1", .word "=", .word (if b then "1" else "0")] := by
    cases b <;> exact Dialect.lexemesOf_words (by decide)
  rw [List.flatMap_singleton, hwords]
  cases b <;> rfl

/-- Predicates joined by a connective are a factor, however many there are. -/
theorem factor?_joined {connective : String} {empty : Bool} {join : List Truth → Truth}
    (hjoin : Connective connective empty join) {parts : List Predicate}
    {truth : Predicate → Truth} {depth : Nat}
    (hread : ∀ part ∈ parts, ∀ depth, ((d.condition part).flatMap d.lexemesOf).length ≤ depth →
      factor? d row compare (truthWithin d row compare depth)
        ((d.condition part).flatMap d.lexemesOf) = some (truth part))
    (hdepth : ((Dialect.joined connective empty (d.conditions parts)).flatMap d.lexemesOf).length
      ≤ depth) :
    factor? d row compare (truthWithin d row compare depth)
        ((Dialect.joined connective empty (d.conditions parts)).flatMap d.lexemesOf)
      = some (join (parts.map truth)) := by
  rcases Condition.joined_cases (d := d) connective empty parts with
    ⟨rfl, h⟩ | ⟨part, rfl, h⟩ | ⟨hne, h⟩
  · rw [h, factor?_constant]
    cases hjoin <;> rfl
  · rw [h] at hdepth ⊢
    rw [hread part (List.mem_singleton_self _) depth hdepth, List.map_singleton]
    cases hjoin with
    | or => exact congrArg some (Truth.or_fails _).symm
    | and => exact congrArg some (Truth.and_holds _).symm
  · rw [h] at hdepth ⊢
    exact factor?_enclosed hjoin hne (fun part _ => d.isClosed_condition part) hread hdepth

/-- A rendered predicate is a factor that has the truth of the predicate. -/
theorem factor?_condition {p : Predicate} (hmembers : p.HasMembers)
    (hf : Predicate.FaithfulOn cmp compare (fun value => d.lexemesOf (d.literal value)) p)
    {depth : Nat} (hdepth : ((d.condition p).flatMap d.lexemesOf).length ≤ depth) :
    factor? d row compare (truthWithin d row compare depth) ((d.condition p).flatMap d.lexemesOf)
      = some (p.truth row cmp) := by
  induction p using Predicate.induction generalizing depth with
  | compare column op value =>
    exact factor?_compare _ column op (hf.test rfl value (List.mem_singleton_self value))
  | between column low high negated =>
    -- A range is two comparisons in parentheses.
    have hread (below above : Comparison) :
        ∀ part ∈ [Predicate.compare column below low, .compare column above high], ∀ depth,
          ((d.condition part).flatMap d.lexemesOf).length ≤ depth →
          factor? d row compare (truthWithin d row compare depth)
            ((d.condition part).flatMap d.lexemesOf) = some (part.truth row cmp) := by
      have hvalues := hf.test rfl
      refine List.forall_mem_cons.2 ⟨fun _ _ => ?_, List.forall_mem_singleton.2 fun _ _ => ?_⟩
      · exact factor?_compare _ column below (hvalues low List.mem_cons_self)
      · exact factor?_compare _ column above
          (hvalues high (List.mem_cons_of_mem _ (List.mem_singleton_self _)))
    have hclosed (part : Predicate) : d.IsClosed (d.condition part) := d.isClosed_condition part
    rw [Predicate.truth]
    cases negated with
    | false =>
      have h := factor?_enclosed .and (List.cons_ne_nil _ _) (fun part _ => hclosed part)
        (hread .ge .le) hdepth
      refine h.trans (congrArg some ?_)
      simp [Truth.allOf, Predicate.truth, Truth.ofHeld_and, Comparison.holds, Predicate.within]
    | true =>
      have h := factor?_enclosed .or (List.cons_ne_nil _ _) (fun part _ => hclosed part)
        (hread .lt .gt) hdepth
      refine h.trans (congrArg some ?_)
      simp only [Truth.anyOf, List.map_cons, List.map_nil, List.foldr_cons, List.foldr_nil,
        Truth.or_fails, Predicate.truth, Truth.ofHeld_or, Comparison.holds, Predicate.outside_eq]
  | inList column values negated =>
    have hclosed : ∀ fs ∈ values.map fun value => [d.literal value], d.IsClosed fs :=
      List.forall_mem_map.2 fun value _ => d.isClosed_literal value
    have hcomma : walk (fun _ => false) 0 (d.lexemesOf (.words ", ")) = some 0 := by
      rw [d.lexemesOf_comma]
      rfl
    have hlist : (enclosed? ((Fragment.separated ", " (values.map fun value =>
          [d.literal value])).flatMap d.lexemesOf ++ [.mark ')'])).bind
          (listed? d compare (row column.name))
        = some (.ofHeld (row column.name) fun v => Predicate.isAmong cmp v values) := by
      rw [enclosed?_separated hcomma hclosed, Option.bind_some,
        listed?_values hmembers.ne_nil (hf.test rfl)]
    have hwords : (d.condition (.inList column values negated)).flatMap d.lexemesOf
        = .quoted d.nameQuote column.name
          :: (d.lexemesOf (.words (if negated then " NOT IN (" else " IN ("))
            ++ ((Fragment.separated ", " (values.map fun value => [d.literal value])).flatMap
              d.lexemesOf ++ [.mark ')'])) := by
      simp [Dialect.condition, d.lexemesOf_close]
    rw [hwords, factor?_column, Predicate.truth]
    cases negated with
    | false =>
      have hin : d.lexemesOf (.words " IN (") = [.word "IN", .mark '('] :=
        Dialect.lexemesOf_words (by decide)
      simpa [hin, tested?] using hlist
    | true =>
      have hin : d.lexemesOf (.words " NOT IN (") = [.word "NOT", .word "IN", .mark '('] :=
        Dialect.lexemesOf_words (by decide)
      simpa [hin, tested?, Truth.not_ofHeld] using congrArg (Option.map Truth.not) hlist
  | isNull column negated =>
    rw [Dialect.condition, List.flatMap_cons, List.flatMap_singleton, Dialect.lexemesOf_name,
      List.singleton_append, factor?_column, tested?_null, Predicate.truth]
  | any parts ih =>
    rw [Dialect.condition] at hdepth ⊢
    rw [Predicate.truth, Predicate.truths_eq]
    exact factor?_joined .or (fun part hp depth =>
      ih part hp (hmembers.of_any part hp) (hf.of_any part hp)) hdepth
  | all parts ih =>
    rw [Dialect.condition] at hdepth ⊢
    rw [Predicate.truth, Predicate.truths_eq]
    exact factor?_joined .and (fun part hp depth =>
      ih part hp (hmembers.of_all part hp) (hf.of_all part hp)) hdepth
  | constant value => exact factor?_constant _ value

/-- The conditions of a statement have the truth of all its predicates. -/
theorem truth?_conditions {predicates : List Predicate} (hne : predicates ≠ [])
    (hmembers : ∀ p ∈ predicates, p.HasMembers)
    (hf : ∀ p ∈ predicates,
      Predicate.FaithfulOn cmp compare (fun value => d.lexemesOf (d.literal value)) p) :
    truth? d row compare
        ((Fragment.separated " AND " (d.conditions predicates)).flatMap d.lexemesOf)
      = some (.allOf (predicates.map (Predicate.truth row cmp))) := by
  rw [truth?, Condition.conditions_eq]
  refine truthWithin_factors hne (fun p _ => d.isClosed_condition p) fun p hp => ?_
  exact factor?_condition (hmembers p hp) (hf p hp) (length_le_of_mem (List.mem_map_of_mem hp))

variable (d row) in
/-- What stands behind `WHERE` in a compiled statement has the truth of the conjunction of the
predicates: of no alternatives none holds, of no conjuncts all do, and outside a range is below or
above it. -/
theorem means_conjunction (plan : Plan) (hne : plan.predicates ≠ [])
    (hmembers : ∀ p ∈ plan.predicates, p.HasMembers)
    (hf : ∀ p ∈ plan.predicates,
      Predicate.FaithfulOn cmp compare (fun value => d.lexemesOf (d.literal value)) p) :
    (∃ text ordinals clauses condition, (d.compile plan).native = .statement text ordinals
      ∧ Clauses.read? d text = some clauses ∧ clauses.condition = some condition
      ∧ truth? d row compare condition
        = some (.allOf (plan.predicates.map (Predicate.truth row cmp))))
    ∧ Predicate.truth row cmp (.any []) = .fails ∧ Predicate.truth row cmp (.all []) = .holds
    ∧ ∀ column low high, Predicate.truth row cmp (.between column low high true)
      = .ofHeld (row column.name) fun v => (cmp v low).isLT || (cmp v high).isGT := by
  refine ⟨⟨_, _, _, _, rfl, Clauses.read?_statement d plan, ?_, truth?_conditions hne hmembers hf⟩,
    rfl, rfl, fun column low high => ?_⟩
  · have hconditions : (d.conditions plan.predicates).isEmpty = false := by
      rw [Condition.conditions_eq, List.isEmpty_map]
      exact List.isEmpty_eq_false_iff.2 hne
    exact if_neg (by simp [hconditions])
  · rw [Predicate.truth]
    simp only [Predicate.outside_eq]

end

/-- Texts compared with text literals. -/
def compareTexts (v : String) : Literal → Ordering
  | .text s => compareOfLessAndEq v s
  | _ => .lt

/-- Values that are texts, compared with what stands between the quotes of a literal. -/
theorem means_conjunction_of_texts :
    let column : Column := ⟨"name", "name", .hierarchy, "text", "people", false⟩
    let plan : Plan := ⟨"people", "people", [.unit],
      [ .any [.compare column .eq (.text "ann"), .all [.isNull column false, .any []]],
        .between column (.text "b") (.text "c") true, .inList column [.text "ann"] false ], false⟩
    let compare (v : String) : List Lexeme → Ordering
      | [.quoted _ s] => compareOfLessAndEq v s
      | _ => .lt
    ∃ text ordinals clauses condition,
      (Dialect.mySql.compile plan).native = .statement text ordinals
      ∧ Clauses.read? .mySql text = some clauses ∧ clauses.condition = some condition
      ∧ truth? .mySql (fun _ => some "ann") compare condition = some .holds := by
  intro column plan compare
  have hmembers : ∀ p ∈ plan.predicates, p.HasMembers := by
    simp [plan, Predicate.HasMembers, Predicate.leaves, Predicate.leavesOf]
  have hfaithful : ∀ p ∈ plan.predicates, Predicate.FaithfulOn compareTexts compare
      (fun value => Dialect.mySql.lexemesOf (Dialect.mySql.literal value)) p := by
    have htext (s : String) (v : String) :
        compare v (Dialect.mySql.lexemesOf (Dialect.mySql.literal (.text s)))
          = compareTexts v (.text s) := rfl
    simp [plan, Predicate.FaithfulOn, Predicate.literals, Predicate.leaves, Predicate.leavesOf,
      Predicate.operands, htext]
  obtain ⟨⟨text, ordinals, clauses, condition, hnative, hclauses, hcondition, htruth⟩, -⟩ :=
    means_conjunction .mySql (fun _ => some "ann") plan (List.cons_ne_nil _ _) hmembers hfaithful
  refine ⟨text, ordinals, clauses, condition, hnative, hclauses, hcondition, htruth.trans ?_⟩
  decide

end WhereClause

end Pushdown
