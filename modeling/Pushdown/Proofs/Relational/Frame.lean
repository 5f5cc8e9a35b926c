import Mathlib.Data.List.Basic
import Pushdown.Backend.Compiler
import Pushdown.Proofs.Relational.Legible

/-!
# The frame of a statement

The tokens of a statement are a frame and what fills it. The frame is the tokens that the dialect
writes of itself, with a hole for each name and each text; it follows from the form of the plan,
which is the plan without the letters of its names and texts. What fills the holes, in order, is
`Plan.quoted`: the columns and the aliases of the select list, the parts of the name of the dataset,
the columns and the texts of the predicates, and the columns of the grouping.
`Dialect.fills_frame` is that nothing else can happen: whatever stands in the names and texts of a
plan, its statements are split into the frame of its form, filled with exactly these.
-/

namespace Pushdown

/-! ## Holes -/

/-- A place in a frame. -/
inductive Slot where
  | token (t : Token)
  /-- A quoted token, whatever it quotes. -/
  | hole (quote : Quote)
  deriving DecidableEq, Repr, Inhabited

namespace Slot

/-- The tokens of a frame when its holes quote some texts, one each. -/
def fill? : List Slot → List String → Option (List Token)
  | [], [] => some []
  | .token t :: slots, ss => (fill? slots ss).map (t :: ·)
  | .hole quote :: slots, s :: ss => (fill? slots ss).map (.quoted quote s :: ·)
  | _, _ => none

theorem fill?_token (tokens : List Token) (slots : List Slot) (ss : List String) :
    fill? (tokens.map .token ++ slots) ss = (fill? slots ss).map (tokens ++ ·) := by
  induction tokens with
  | nil => simp
  | cons t tokens ih =>
    rw [List.map_cons, List.cons_append, fill?, ih, Option.map_map]
    rfl

end Slot

namespace Fragment

/-- What a fragment quotes. -/
def content : Fragment → List String
  | .words _ => []
  | .name s | .text s => [s]

/-- The fragment with nothing between its quotes. -/
def form : Fragment → Fragment
  | .words w => .words w
  | .name _ => .name ""
  | .text _ => .text ""

section
variable (s : String)

@[simp] theorem content_words : (words s).content = [] := rfl

@[simp] theorem content_name : (name s).content = [s] := rfl

@[simp] theorem content_text : (text s).content = [s] := rfl

@[simp] theorem form_words : (words s).form = .words s := rfl

@[simp] theorem form_name : (name s).form = .name "" := rfl

@[simp] theorem form_text : (text s).form = .text "" := rfl

end

@[simp] theorem content_separated (between : String) (parts : List Fragments) :
    (separated between parts).flatMap content = parts.flatMap (·.flatMap content) := by
  fun_induction separated between parts with
  | case1 => rfl
  | case2 part => simp
  | case3 part rest _ ih => simp [ih]

@[simp] theorem form_separated (between : String) (parts : List Fragments) :
    (separated between parts).map form = separated between (parts.map (·.map form)) := by
  fun_induction separated between parts with
  | case1 => rfl
  | case2 part => rfl
  | case3 part rest hrest ih =>
    cases rest with
    | nil => exact absurd rfl hrest
    | cons part' rest => simpa [separated] using ih

end Fragment

namespace Dialect

/-- The places of a fragment in a frame. -/
def slotsOf (d : Dialect) : Fragment → List Slot
  | .words w => (d.tokensOf (.words w)).map .token
  | .name _ => [.hole d.nameQuote]
  | .text _ => [.hole d.textQuote]

theorem slotsOf_form (d : Dialect) (f : Fragment) : d.slotsOf f.form = d.slotsOf f := by
  cases f <;> rfl

theorem flatMap_slotsOf_form (d : Dialect) (fs : Fragments) :
    (fs.map Fragment.form).flatMap d.slotsOf = fs.flatMap d.slotsOf := by
  rw [List.flatMap_map]
  exact List.flatMap_congr fun f _ => d.slotsOf_form f

/-- The tokens of fragments are their places, filled with what they quote. -/
theorem fill?_slotsOf (d : Dialect) (fs : Fragments) :
    Slot.fill? (fs.flatMap d.slotsOf) (fs.flatMap Fragment.content)
      = some (fs.flatMap d.tokensOf) := by
  induction fs with
  | nil => simp [Slot.fill?]
  | cons f fs ih =>
    rw [List.flatMap_cons, List.flatMap_cons, List.flatMap_cons]
    cases f with
    | words w =>
      rw [slotsOf, Fragment.content_words, List.nil_append, Slot.fill?_token, ih, Option.map_some]
    | name s | text s =>
      simp [slotsOf, tokensOf, Slot.fill?, ih]

end Dialect

/-! ## What a plan quotes -/

/-- The texts of a literal. -/
def Literal.quoted : Literal → List String
  | .text s => [s]
  | .number _ | .bool _ | .timestamp _ => []

namespace Predicate

mutual

/-- The columns and texts of a predicate, from left to right. A range names its column twice. -/
def quoted : Predicate → List String
  | .compare column _ value => column.name :: value.quoted
  | .between column low high _ => column.name :: low.quoted ++ column.name :: high.quoted
  | .inList column values _ => column.name :: values.flatMap Literal.quoted
  | .isNull column _ => [column.name]
  | .any parts | .all parts => quotedIn parts
  | .constant _ => []

/-- The columns and texts of some predicates. -/
def quotedIn : List Predicate → List String
  | [] => []
  | p :: rest => p.quoted ++ quotedIn rest

end

end Predicate

/-- How often the expression of a column names it: the start of a second is found by three steps
where the dialect counts from midnight. -/
def Dialect.mentions (d : Dialect) (type : ColumnType) (level : Option DateLevel) : Nat :=
  if d = .sqlServer ∧ type = .datetime ∧ level = some .second then 3 else 1

/-- The columns of a projection. -/
def Projection.quoted (d : Dialect) : Projection → List String
  | .column c level => List.replicate (d.mentions c.type level) c.name
  | .aggregate c _ => [c.name]
  | .rowCount | .unit => []

/-- The names and texts of a plan in the order of its statement. -/
def Plan.quoted (d : Dialect) (plan : Plan) : List String :=
  plan.placed.flatMap (fun placed => placed.1.quoted d ++ [placeName placed.2])
    ++ Text.split '.' plan.datasetName
    ++ plan.predicates.flatMap Predicate.quoted
    ++ if plan.pushdown then (plan.projections.filter Projection.isColumn).flatMap
        (Projection.quoted d)
      else []

/-! ## The form of a plan -/

/-- A column of the type, without names. -/
def Column.form (column : Column) : Column :=
  ⟨"", "", column.type, "", "", false⟩

/-- A literal with its text left out. -/
def Literal.form : Literal → Literal
  | .text _ => .text ""
  | value => value

namespace Predicate

mutual

/-- A predicate without names and texts. -/
def form : Predicate → Predicate
  | .compare column op value => .compare column.form op value.form
  | .between column low high negated => .between column.form low.form high.form negated
  | .inList column values negated => .inList column.form (values.map Literal.form) negated
  | .isNull column negated => .isNull column.form negated
  | .any parts => .any (formIn parts)
  | .all parts => .all (formIn parts)
  | .constant value => .constant value

/-- Predicates without names and texts. -/
def formIn : List Predicate → List Predicate
  | [] => []
  | p :: rest => p.form :: formIn rest

end

end Predicate

/-- A projection without names. -/
def Projection.form : Projection → Projection
  | .column c level => .column c.form level
  | .aggregate c aggregation => .aggregate c.form aggregation
  | .rowCount => .rowCount
  | .unit => .unit

/-- Two plans that differ only in what stands in their names and texts. -/
structure Plan.SameForm (plan plan' : Plan) : Prop where
  parts : (Text.split '.' plan.datasetName).length = (Text.split '.' plan'.datasetName).length
  projections : plan.projections.map Projection.form = plan'.projections.map Projection.form
  predicates : plan.predicates.map Predicate.form = plan'.predicates.map Predicate.form
  pushdown : plan.pushdown = plan'.pushdown

namespace Dialect

/-! ## Every part follows the form -/

section
variable (d : Dialect)

@[simp] theorem content_literal (value : Literal) : (d.literal value).content = value.quoted := by
  cases value <;> rfl

@[simp] theorem form_literal (value : Literal) :
    (d.literal value).form = d.literal value.form := by
  cases value <;> rfl

theorem content_joined (connective : String) (empty : Bool) (parts : List Fragments) :
    (joined connective empty parts).flatMap Fragment.content
      = parts.flatMap (·.flatMap Fragment.content) := by
  match parts with
  | [] => rfl
  | [part] => simp [joined]
  | part :: part' :: rest => simp [joined]

theorem form_joined (connective : String) (empty : Bool) (parts : List Fragments) :
    (joined connective empty parts).map Fragment.form
      = joined connective empty (parts.map (·.map Fragment.form)) := by
  match parts with
  | [] => rfl
  | [part] => rfl
  | part :: part' :: rest => simp [joined]

theorem quotedIn_eq (ps : List Predicate) :
    Predicate.quotedIn ps = ps.flatMap Predicate.quoted := by
  induction ps with
  | nil => rfl
  | cons p ps ih => rw [Predicate.quotedIn, ih, List.flatMap_cons]

theorem formIn_eq (ps : List Predicate) : Predicate.formIn ps = ps.map Predicate.form :=
  eq_map_of_cons rfl (fun _ _ => rfl) ps

theorem content_condition (p : Predicate) :
    (d.condition p).flatMap Fragment.content = p.quoted := by
  induction p using Predicate.induction with
  | compare column op value => simp [condition, Predicate.quoted]
  | between column low high negated => cases negated <;> simp [condition, Predicate.quoted]
  | inList column values negated => simp [condition, Predicate.quoted, List.flatMap_map]
  | isNull column negated => rfl
  | any parts ih | all parts ih =>
    rw [condition, Condition.conditions_eq, content_joined, List.flatMap_map, Predicate.quoted,
      quotedIn_eq]
    exact List.flatMap_congr ih
  | constant value => rfl

theorem form_condition (p : Predicate) :
    (d.condition p).map Fragment.form = d.condition p.form := by
  induction p using Predicate.induction with
  | compare column op value => simp [condition, Predicate.form, Column.form]
  | between column low high negated =>
    cases negated <;> simp [condition, Predicate.form, Column.form]
  | inList column values negated =>
    simp [condition, Predicate.form, Column.form, Function.comp_def]
  | isNull column negated => rfl
  | any parts ih | all parts ih =>
    rw [condition, Condition.conditions_eq, form_joined, List.map_map, Predicate.form, formIn_eq,
      condition, Condition.conditions_eq, List.map_map]
    exact congrArg _ (List.map_congr_left ih)
  | constant value => rfl

theorem content_truncation (s : String) (level : DateLevel) :
    (d.term [.name s] (d.truncation level)).flatMap Fragment.content
      = List.replicate (d.mentions .datetime (some level)) s := by
  cases d <;> cases level <;> rfl

theorem form_truncation (s : String) (level : DateLevel) :
    (d.term [.name s] (d.truncation level)).map Fragment.form
      = d.term [.name ""] (d.truncation level) := by
  cases d <;> cases level <;> rfl

theorem content_expression (projection : Projection) :
    (d.expression projection).flatMap Fragment.content = projection.quoted d := by
  cases projection with
  | column column level =>
    cases level with
    | none => simp [expression, columnExpression, Projection.quoted, mentions]
    | some level =>
      simp only [expression, columnExpression, Projection.quoted]
      split
      · next htype => rw [content_truncation, htype]
      · next htype => simp [mentions, htype]
  | aggregate column aggregation => cases aggregation <;> rfl
  | rowCount | unit => rfl

theorem form_expression (projection : Projection) :
    (d.expression projection).map Fragment.form = d.expression projection.form := by
  cases projection with
  | column column level =>
    cases level with
    | none => rfl
    | some level =>
      simp only [expression, columnExpression, Projection.form, Column.form]
      split
      · exact d.form_truncation column.name level
      · rfl
  | aggregate column aggregation => cases aggregation <;> rfl
  | rowCount | unit => rfl

end

/-! ## The statement follows the form -/

theorem content_clause (keyword between : String) (parts : List Fragments) :
    (clause keyword between parts).flatMap Fragment.content
      = parts.flatMap (·.flatMap Fragment.content) := by
  cases parts <;> simp [clause]

theorem form_clause (keyword between : String) (parts : List Fragments) :
    (clause keyword between parts).map Fragment.form
      = clause keyword between (parts.map (·.map Fragment.form)) := by
  cases parts <;> simp [clause]

section
variable (d : Dialect)

theorem content_selectItem (placed : Projection × Nat) :
    (d.selectItem placed).flatMap Fragment.content
      = placed.1.quoted d ++ [placeName placed.2] := by
  simp [selectItem, content_expression]

theorem content_tableName (dataset : String) :
    (tableName dataset).flatMap Fragment.content = Text.split '.' dataset := by
  simp [tableName, List.flatMap_map]

/-- A statement quotes the names and texts of its plan. -/
theorem content_statement (plan : Plan) :
    (d.statement plan).flatMap Fragment.content = plan.quoted d := by
  have hgroups : (if plan.pushdown then d.columnExpressions plan else []).flatMap
        (·.flatMap Fragment.content)
      = if plan.pushdown then
          (plan.projections.filter Projection.isColumn).flatMap (Projection.quoted d)
        else [] := by
    split
    · simp only [columnExpressions, List.flatMap_map, content_expression]
    · rfl
  simp only [statement, Plan.quoted, List.flatMap_append, List.flatMap_cons, content_clause,
    Fragment.content_separated, Fragment.content_words, List.nil_append, List.flatMap_map,
    content_selectItem, content_tableName, Condition.conditions_eq, content_condition, hgroups]

end

/-! ## Plans of one form -/

theorem isColumn_form (projection : Projection) :
    projection.form.isColumn = projection.isColumn := by
  cases projection <;> rfl

theorem form_tableName (dataset : String) :
    (tableName dataset).map Fragment.form
      = Fragment.separated "." (List.replicate (Text.split '.' dataset).length [.name ""]) := by
  have hblank : (Text.split '.' dataset).map (fun _ => [Fragment.name ""])
      = List.replicate (Text.split '.' dataset).length [.name ""] := List.map_const'
  rw [tableName, Fragment.form_separated, List.map_map, ← hblank]
  rfl

section
variable {plan plan' : Plan} (h : plan.SameForm plan')
include h

theorem form_selectItems (d : Dialect) :
    (plan.placed.map d.selectItem).map (·.map Fragment.form)
      = (plan'.placed.map d.selectItem).map (·.map Fragment.form) := by
  have hitem (plan : Plan) : (plan.placed.map d.selectItem).map (·.map Fragment.form)
      = (plan.projections.map Projection.form).zipIdx.map
          fun placed => d.expression placed.1 ++ [.words " AS ", .name ""] := by
    rw [List.zipIdx_map, List.map_map, List.map_map]
    refine List.map_congr_left fun placed _ => ?_
    simp [selectItem, form_expression]
  rw [hitem, hitem, h.projections]

theorem form_columnExpressions (d : Dialect) :
    (d.columnExpressions plan).map (·.map Fragment.form)
      = (d.columnExpressions plan').map (·.map Fragment.form) := by
  have hcolumn : Projection.isColumn ∘ Projection.form = Projection.isColumn :=
    funext isColumn_form
  have hgroup (plan : Plan) : (d.columnExpressions plan).map (·.map Fragment.form)
      = ((plan.projections.map Projection.form).filter Projection.isColumn).map d.expression := by
    rw [columnExpressions, List.map_map, List.filter_map, List.map_map, hcolumn]
    exact List.map_congr_left fun projection _ => d.form_expression projection
  rw [hgroup, hgroup, h.projections]

theorem form_conditions (d : Dialect) :
    (d.conditions plan.predicates).map (·.map Fragment.form)
      = (d.conditions plan'.predicates).map (·.map Fragment.form) := by
  have hcondition (ps : List Predicate) : (d.conditions ps).map (·.map Fragment.form)
      = (ps.map Predicate.form).map d.condition := by
    rw [Condition.conditions_eq, List.map_map, List.map_map]
    exact List.map_congr_left fun p _ => d.form_condition p
  rw [hcondition, hcondition, h.predicates]

/-- The statements of plans of one form differ only in what they quote. -/
theorem form_statement (d : Dialect) :
    (d.statement plan).map Fragment.form = (d.statement plan').map Fragment.form := by
  have hgroups : (if plan.pushdown then d.columnExpressions plan else []).map (·.map Fragment.form)
      = (if plan'.pushdown then d.columnExpressions plan' else []).map (·.map Fragment.form) := by
    rw [h.pushdown]
    split
    · exact form_columnExpressions h d
    · rfl
  simp only [statement, List.map_append, List.map_cons, Fragment.form_words,
    Fragment.form_separated, form_clause, form_tableName, form_selectItems h, form_conditions h,
    hgroups, h.parts]

/-- They are ordered by the same ordinals. -/
theorem columnOrdinals_eq : columnOrdinals plan = columnOrdinals plan' := by
  have hordinals (plan : Plan) : columnOrdinals plan
      = ((plan.projections.map Projection.form).zipIdx.filter fun placed => placed.1.isColumn).map
          fun placed => placed.2 + 1 := by
    rw [List.zipIdx_map, List.filter_map, List.map_map]
    simp only [columnOrdinals, Plan.placed, Function.comp_def, Prod.map_fst, Prod.map_snd,
      isColumn_form, id_eq]
  rw [hordinals, hordinals, h.projections]

theorem shape_eq : plan.shape = plan'.shape := by
  have hcount (plan : Plan) : plan.projections.countP Projection.isColumn
      = (plan.projections.map Projection.form).countP Projection.isColumn := by
    rw [List.countP_map]
    exact congrArg (List.countP · _) (funext isColumn_form).symm
  rw [Plan.shape, Plan.shape, Plan.groupCount, Plan.groupCount, hcount, hcount, h.projections,
    h.pushdown]

end

/-! ## What a backend is asked -/

/-- The native query of a plan, or the one for a page of it. -/
def queryAt (d : Dialect) (plan : Plan) : Option (Option Continuation × Nat) → NativeQuery
  | none => (d.kind.compile plan).native
  | some (continuation, batchSize) => d.kind.pageQuery (d.kind.compile plan) continuation batchSize

/-- The number of rows before the page after a continuation. -/
def rowsBefore : Option Continuation → Nat
  | some (.offset rows) => rows
  | _ => 0

theorem statementPage_offset (d : Dialect) (continuation : Option Continuation) (batchSize : Nat)
    (text : String) (orderBy : List Nat) :
    BackendKind.statementPage d .offset continuation batchSize text orderBy
      = .statement (d.paginate text orderBy batchSize (rowsBefore continuation)) orderBy := rfl

/-- What follows the statement in it. -/
def pageTail (d : Dialect) (plan : Plan) : Option (Option Continuation × Nat) → Fragments
  | none => []
  | some (continuation, batchSize) =>
    if plan.shape = .aggregate then []
    else [.words (d.pageClause (columnOrdinals plan) batchSize (rowsBefore continuation))]

theorem content_pageTail (d : Dialect) (plan : Plan)
    (page : Option (Option Continuation × Nat)) :
    (d.pageTail plan page).flatMap Fragment.content = [] := by
  cases page with
  | none => rfl
  | some asked =>
    rw [pageTail]
    split <;> rfl

theorem queryAt_eq (d : Dialect) (plan : Plan) (page : Option (Option Continuation × Nat)) :
    d.queryAt plan page
      = .statement (d.render (d.statement plan ++ d.pageTail plan page)) (columnOrdinals plan) := by
  have hcompile : d.kind.compile plan = d.compile plan := by cases d <;> rfl
  cases page with
  | none => rw [queryAt, pageTail, hcompile, List.append_nil, compile]
  | some asked =>
    obtain ⟨continuation, batchSize⟩ := asked
    have hpage : d.kind.pageQuery (d.compile plan) continuation batchSize
        = BackendKind.statementPage d (d.compile plan).strategy continuation batchSize
            (d.render (d.statement plan)) (columnOrdinals plan) := by
      cases d <;> rfl
    rw [queryAt, hcompile, hpage]
    by_cases hshape : plan.shape = .aggregate
    · simp [compile, BackendKind.statementPage, pageTail, hshape]
    · simp [compile, statementPage_offset, pageTail, hshape, paginate, renderFragment]

theorem legible_queryAt (d : Dialect) (plan : Plan) (page : Option (Option Continuation × Nat)) :
    d.Legible (d.statement plan ++ d.pageTail plan page) := by
  have hstatement := d.legible_statement plan
  cases page with
  | none => rwa [pageTail, List.append_nil]
  | some asked =>
    simp only [pageTail]
    split
    · rwa [List.append_nil]
    · exact d.legible_page plan _ _ _

/-- Whatever stands in the names and texts of a plan, its statement and the ones for its pages are
split into one frame of tokens that the dialect writes of itself, filled with the names and texts
in their order. -/
theorem fills_frame (d : Dialect) (plan : Plan) (page : Option (Option Continuation × Nat)) :
    ∃ (frame : List Slot) (orderBy : List Nat),
      (∀ token, .token token ∈ frame → d.IsFixed token) ∧
      ∀ plan' : Plan, plan'.SameForm plan → ∃ text tokens,
        d.queryAt plan' page = .statement text orderBy ∧ d.tokens? text = some tokens
          ∧ Slot.fill? frame (plan'.quoted d) = some tokens := by
  refine ⟨(d.statement plan ++ d.pageTail plan page).flatMap d.slotsOf, columnOrdinals plan,
    fun token htoken => ?_, fun plan' h => ?_⟩
  · obtain ⟨f, hf, hslot⟩ := List.mem_flatMap.1 htoken
    cases f with
    | words w =>
      obtain ⟨token', hmem, heq⟩ := List.mem_map.1 hslot
      cases heq
      exact (d.legible_queryAt plan page).fixed w hf token hmem
    | name s | text s => exact nomatch List.mem_singleton.1 hslot
  · have htail : d.pageTail plan' page = d.pageTail plan page := by
      cases page with
      | none => rfl
      | some asked => rw [pageTail, pageTail, shape_eq h, columnOrdinals_eq h]
    have hframe : (d.statement plan' ++ d.pageTail plan' page).flatMap d.slotsOf
        = (d.statement plan ++ d.pageTail plan page).flatMap d.slotsOf := by
      rw [htail, List.flatMap_append, List.flatMap_append, ← flatMap_slotsOf_form,
        form_statement h, flatMap_slotsOf_form]
    have hcontent : (d.statement plan' ++ d.pageTail plan' page).flatMap Fragment.content
        = plan'.quoted d := by
      rw [List.flatMap_append, content_statement, content_pageTail, List.append_nil]
    refine ⟨_, _, ?_, (d.legible_queryAt plan' page).reads.split?, ?_⟩
    · rw [queryAt_eq, columnOrdinals_eq h]
    · rw [← hframe, ← hcontent, fill?_slotsOf]

end Dialect

end Pushdown
