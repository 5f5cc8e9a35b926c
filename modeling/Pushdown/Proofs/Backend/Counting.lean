import Mathlib.Algebra.Ring.Int.Defs
import Mathlib.Data.Finset.Option
import Mathlib.Data.Finset.Dedup
import Pushdown.Proofs.Document.Groups
import Pushdown.Proofs.Relational.Clauses

/-!
# Counts of a group

A document may miss a field or hold `null` there; a table does not tell the two apart
(`Held.value?`). `Document.answer?` evaluates a pipeline for one group of documents as it is
written: an expression for each document, what an accumulator collects over all of them, and what a
later stage makes of that. `Clauses.answer?` counts the rows of a group as an item of a select list
says.

`Plan.counts_agree` compares the two for a plan that pushes grouping down. The number of values and
the number of documents are the same. The number of distinct values is not: a set that is collected
holds `null` as an item, which `Accumulator.distinct` does not leave out as `Accumulator.count`
does, so it has one item too many if a document of the group holds `null`
(`Plan.not_counts_agree_null`).
-/

namespace Pushdown

/-- What a document holds where a reference points. -/
inductive Held (V : Type) where
  | missing
  | null
  | value (v : V)
  deriving DecidableEq

namespace Held

variable {V : Type}

/-- The value that is held. -/
def value? : Held V → Option V
  | .value v => some v
  | .missing | .null => none

/-- What is put into a set that is collected: `null` is, and what is missing is not. -/
def item? : Held V → Option (Option V)
  | .value v => some (some v)
  | .null => some none
  | .missing => none

/-- The number of documents that hold a value. -/
def count (rows : List (String → Held V)) (name : String) : Nat :=
  rows.countP fun row => (row name).value?.isSome

variable [DecidableEq V]

/-- The number of distinct values that documents hold. -/
def distinctCount (rows : List (String → Held V)) (name : String) : Nat :=
  (rows.filterMap fun row => (row name).value?).toFinset.card

/-- A set that is collected has an item for each value, and one for `null`. -/
theorem card_items (held : List (Held V)) :
    (held.filterMap item?).toFinset.card
      = (held.filterMap value?).toFinset.card + if .null ∈ held then 1 else 0 := by
  have hvalue (v : V) : some (some v) ∈ held.map item? ↔ some v ∈ held.map value? := by
    simp only [List.mem_map]
    refine exists_congr fun h => and_congr_right fun _ => ?_
    cases h <;> simp [item?, value?]
  have hnull : some none ∈ held.map (item? (V := V)) ↔ .null ∈ held := by
    simp only [List.mem_map]
    constructor
    · rintro ⟨_ | _ | v, hmem, hitem⟩
      · cases hitem
      · exact hmem
      · cases hitem
    · intro h
      exact ⟨.null, h, rfl⟩
  by_cases h : .null ∈ held
  · have hset : (held.filterMap item?).toFinset
        = Finset.insertNone (held.filterMap value?).toFinset := by
      ext (_ | v)
      · simpa using hnull.2 h
      · simpa using hvalue v
    rw [hset, Finset.card_insertNone, if_pos h]
  · have hset : (held.filterMap item?).toFinset
        = (held.filterMap value?).toFinset.map Function.Embedding.some := by
      ext (_ | v)
      · simpa using mt hnull.1 h
      · simpa using hvalue v
    rw [hset, Finset.card_map, if_neg h, Nat.add_zero]

end Held

namespace Document

variable {V : Type}

/-! ## Expressions -/

/-- What an expression yields for a document. -/
inductive Yield (V : Type) where
  | held (held : Held V)
  | bool (b : Bool)
  | int (k : Int)

namespace Yield

/-- Whether it is missing or `null`. -/
def isAbsent : Yield V → Bool
  | .held .missing | .held .null => true
  | _ => false

/-- Whether it is `null`. What is missing differs from `null`. -/
def isNull : Yield V → Bool
  | .held .null => true
  | _ => false

/-- What a sum adds. Only numbers are added, and the values of documents are not read as such. -/
def addend? : Yield V → Option Int
  | .int k => some k
  | .held (.value _) => none
  | .held .missing | .held .null | .bool _ => some 0

/-- What a document holds. -/
def held? : Yield V → Option (Held V)
  | .held given => some given
  | .bool _ | .int _ => none

end Yield

/-- What an operator yields. -/
def operate? : String → List (Yield V) → Option (Yield V)
  | "$ifNull", [given, other] => some (if given.isAbsent then other else given)
  | "$ne", [given, .held .null] => some (.bool !given.isNull)
  | "$cond", [.bool b, yes, no] => some (if b then yes else no)
  | _, _ => none

/-- The name that stands behind the dollar sign of a reference. -/
def referenced? (s : String) : Option String :=
  match s.toList with
  | '$' :: name => some (String.ofList name)
  | _ => none

mutual

/-- What an expression yields for a document, given what the document holds by name. -/
def yield? (row : String → Held V) : Json → Option (Yield V)
  | .null => some (.held .null)
  | .int k => some (.int k)
  | .text s => (referenced? s).map fun name => .held (row name)
  | .object [(operator, .list operands)] => (yieldEach? row operands).bind (operate? operator)
  | _ => none

/-- What each of several expressions yields. -/
def yieldEach? (row : String → Held V) : List Json → Option (List (Yield V))
  | [] => some []
  | expression :: rest => do
    let found ← yield? row expression
    let others ← yieldEach? row rest
    return found :: others

end

theorem referenced?_dollar (name : String) : referenced? ("$" ++ name) = some name := by
  have hchars : ("$" ++ name).toList = '$' :: name.toList := by
    rw [String.toList_append]
    rfl
  rw [referenced?, hchars]
  exact congrArg some String.ofList_toList

theorem yield?_reference (row : String → Held V) (name : String) :
    yield? row (reference name) = some (.held (row name)) := by
  rw [reference, yield?, referenced?_dollar, Option.map_some]

/-! ## Stages -/

/-- What is collected over the documents of a group. -/
inductive Collected (V : Type) where
  | number (k : Int)
  | set (items : Finset (Option V))
  deriving DecidableEq

/-- The number of items of a set. -/
def Collected.size? : Collected V → Option (Collected V)
  | .set items => some (.number items.card)
  | .number _ => none

/-- What a projection makes of the field of a group. -/
def finish? (fields : String → Option (Collected V)) (name : String) : Json → Option (Collected V)
  | .int 1 => fields name
  | .object [("$size", .text s)] =>
    ((referenced? s).bind fields).bind Collected.size?
  | _ => none

/-- What becomes of the field of a group in the last stage. -/
theorem finish?_toJson (fields : String → Option (Collected V)) (name : String) (finish : Finish) :
    finish? fields name (finish.toJson name)
      = (fields name).bind fun collected =>
          match finish with
          | .keep => some collected
          | .size => collected.size? := by
  cases finish with
  | keep => exact (Option.bind_fun_some _).symm
  | size =>
    rw [Finish.toJson, reference, Json.single, finish?, referenced?_dollar, Option.bind_some]

variable [DecidableEq V]

/-- What an accumulator collects. -/
def collect? (rows : List (String → Held V)) : Json → Option (Collected V)
  | .object [("$sum", expression)] =>
    (rows.mapM fun row => (yield? row expression).bind Yield.addend?).map fun addends =>
      .number addends.sum
  | .object [("$addToSet", expression)] =>
    (rows.mapM fun row => (yield? row expression).bind Yield.held?).map fun held =>
      .set (held.filterMap Held.item?).toFinset
  | _ => none

/-- The fields of a group after a stage: a group stage collects them, and a projection finishes
them. -/
def answersAfter (rows : List (String → Held V)) (fields : String → Option (Collected V))
    (stage : Json) : String → Option (Collected V) :=
  match (stage.get? "$group").bind Json.members?, (stage.get? "$project").bind Json.members? with
  | some group, _ => fun name => (Json.lookup name group).bind (collect? rows)
  | none, some projection => fun name => (Json.lookup name projection).bind (finish? fields name)
  | none, none => fields

/-- What a pipeline answers under a name for a group of documents. -/
def answer? (rows : List (String → Held V)) (pipeline : List Json) :
    String → Option (Collected V) :=
  pipeline.foldl (answersAfter rows) fun _ => none

/-! ## What the accumulators collect -/

/-- Of expressions that all yield something, each yields its own. -/
theorem mapM_eq_some {α β : Type} {read : α → Option β} {write : α → β}
    (h : ∀ a, read a = some (write a)) (l : List α) : l.mapM read = some (l.map write) := by
  rw [funext h]
  exact List.mapM_pure

variable (rows : List (String → Held V)) (name : String)

/-- A count adds one for each document that holds a value. -/
theorem collect?_count :
    collect? rows (Accumulator.count name).toJson = some (.number (Held.count rows name)) := by
  have hadds (row : String → Held V) : (yield? row (.single "$cond" (.list
      [ .single "$ne" (.list [.single "$ifNull" (.list [reference name, .null]), .null]),
        .int 1, .int 0 ]))).bind Yield.addend?
      = some (if (row name).value?.isSome then 1 else 0) := by
    simp only [Json.single, yield?, yieldEach?, yield?_reference]
    cases row name <;> rfl
  have hsum : (rows.map fun row => if (row name).value?.isSome then (1 : Int) else 0).sum
      = Held.count rows name := by
    rw [Held.count]
    induction rows with
    | nil => rfl
    | cons row rest ih =>
      rw [List.map_cons, List.sum_cons, ih, List.countP_cons]
      split <;> omega
  rw [Accumulator.toJson, Json.single, collect?, mapM_eq_some hadds, Option.map_some, hsum]

/-- A row count adds one for each document. -/
theorem collect?_documents :
    collect? rows Accumulator.documents.toJson = some (.number rows.length) := by
  have hadds (row : String → Held V) : (yield? row (.int 1)).bind Yield.addend? = some 1 := rfl
  rw [Accumulator.toJson, Json.single, collect?, mapM_eq_some hadds, Option.map_some]
  simp

/-- A set has what the documents hold, each once, without what is missing. -/
theorem collect?_distinct :
    collect? rows (Accumulator.distinct name).toJson
      = some (.set ((rows.map fun row => row name).filterMap Held.item?).toFinset) := by
  have hheld (row : String → Held V) :
      (yield? row (reference name)).bind Yield.held? = some (row name) := by
    rw [yield?_reference]
    rfl
  rw [Accumulator.toJson, Json.single, collect?, mapM_eq_some hheld, Option.map_some]

/-! ## What a pipeline answers -/

variable {rows name} {plan : Plan} {accumulator : Accumulator}

theorem lookup_groupAsked (h : (name, accumulator) ∈ accumulators plan) :
    Json.lookup name (groupAsked (pipelineOf plan)) = some accumulator.toJson := by
  rw [← lookup_accumulatorsAsked h, accumulatorsAsked,
    Json.lookup_eraseMember_of_ne (ne_id_of_mem_accumulators h)]

/-- The last stage finishes each accumulator in its own way. -/
theorem lookup_finishes (h : (name, accumulator) ∈ accumulators plan) :
    Json.lookup name (Json.sortMembers (("_id", .int 1)
        :: ((accumulators plan).map finishOf).map fun f => (f.1, f.2.toJson f.1)))
      = some ((finishOf (name, accumulator)).2.toJson name) := by
  have hfinishes : ((accumulators plan).map finishOf).map (fun f => (f.1, f.2.toJson f.1))
      = (accumulators plan).map fun a => (a.1, (finishOf a).2.toJson a.1) := List.map_map
  rw [hfinishes]
  exact Json.lookup_sortMembers_of_mem
    (nodup_id_accumulators plan (.int 1) fun a => (finishOf a).2.toJson a.1)
    (List.mem_cons_of_mem _ (List.mem_map.2 ⟨_, h, rfl⟩))

/-- What the pipeline of a plan answers for an accumulator is what it collects, or the number of
items of the set it collects. -/
theorem answer?_pipelineOf (h : (name, accumulator) ∈ accumulators plan) :
    answer? rows (pipelineOf plan) name
      = (collect? rows accumulator.toJson).bind fun collected =>
          if accumulator.isDistinct then collected.size? else some collected := by
  have hgroup (fields : String → Option (Collected V)) : answersAfter rows fields
      (Stage.group (groupKeys plan) (accumulators plan)).toJson name
        = collect? rows accumulator.toJson := by
    have hstage : answersAfter rows fields
        (Stage.group (groupKeys plan) (accumulators plan)).toJson name
          = (Json.lookup name (groupAsked (pipelineOf plan))).bind (collect? rows) := by
      rw [groupAsked_pipelineOf]
      rfl
    rw [hstage, lookup_groupAsked h, Option.bind_some]
  have hproject (fields : String → Option (Collected V)) : answersAfter rows fields
      (Stage.project ((accumulators plan).map finishOf)).toJson name
        = (fields name).bind fun collected =>
            if accumulator.isDistinct then collected.size? else some collected := by
    have hstage : answersAfter rows fields
        (Stage.project ((accumulators plan).map finishOf)).toJson name
          = (Json.lookup name (Json.sortMembers (("_id", .int 1)
              :: ((accumulators plan).map finishOf).map fun f => (f.1, f.2.toJson f.1)))).bind
                (finish? fields name) := rfl
    rw [hstage, lookup_finishes h, Option.bind_some, finish?_toJson, finishOf]
    cases accumulator.isDistinct <;> rfl
  have hselect (selector : Selector) :
      (if selector.isEverything then [] else [Stage.matching selector]).foldl
        (fun fields stage => answersAfter rows fields stage.toJson) (fun _ => none)
          = fun _ => none := by
    split <;> rfl
  have hfold : answer? rows (pipelineOf plan) = (stages plan).foldl
      (fun fields stage => answersAfter rows fields stage.toJson) fun _ => none := List.foldl_map
  rw [hfold, stages, List.foldl_append, List.foldl_append, hselect]
  split
  · exact (hproject _).trans (by rw [List.foldl_cons, List.foldl_nil, hgroup])
  · next hnone =>
    have hdistinct : accumulator.isDistinct = false := by
      by_contra hdistinct
      exact hnone (List.any_eq_true.2 ⟨_, h, by simpa using hdistinct⟩)
    rw [List.foldl_nil, List.foldl_cons, List.foldl_nil, hgroup, hdistinct]
    exact (Option.bind_fun_some _).symm

end Document

/-! ## Select lists -/

namespace Clauses

variable {V : Type} [DecidableEq V]

/-- The count that an expression over the rows of a group asks for. A count of a column leaves out
rows without a value there. -/
def counted? (d : Dialect) (rows : List (String → Option V)) : List Lexeme → Option Nat
  | [.word "COUNT", .mark '(', .word "*", .mark ')'] => some rows.length
  | [.word "COUNT", .mark '(', .quoted quote name, .mark ')'] =>
    if quote = d.nameQuote then some (rows.countP fun row => (row name).isSome) else none
  | [.word "COUNT", .mark '(', .word "DISTINCT", .quoted quote name, .mark ')'] =>
    if quote = d.nameQuote then some (rows.filterMap fun row => row name).toFinset.card else none
  | _ => none

/-- The count that a statement answers under an alias for the rows of a group. -/
def answer? (d : Dialect) (rows : List (String → Option V)) (text label : String) : Option Nat := do
  let clauses ← read? d text
  let item ← clauses.items.find? fun item => item.2 = label
  counted? d rows item.1

/-- The item of a select list under the alias of a place is that of its projection. -/
theorem answer?_statement (d : Dialect) (rows : List (String → Option V)) {plan : Plan}
    {projection : Projection} {place : Nat} (h : (projection, place) ∈ plan.placed) :
    answer? d rows (d.render (d.statement plan)) (placeName place)
      = counted? d rows ((d.expression projection).flatMap d.lexemesOf) := by
  have hitem : (ofPlan d plan).items.find? (fun item => item.2 = placeName place)
      = some ((d.expression projection).flatMap d.lexemesOf, placeName place) := by
    have hmem : ((d.expression projection).flatMap d.lexemesOf, placeName place)
        ∈ (ofPlan d plan).items := List.mem_map.2 ⟨_, h, rfl⟩
    cases hfound : (ofPlan d plan).items.find? fun item => item.2 = placeName place with
    | none => exact absurd (decide_eq_true rfl) (List.find?_eq_none.1 hfound _ hmem)
    | some item =>
      obtain ⟨⟨projection', place'⟩, hplaced, rfl⟩ :=
        List.mem_map.1 (List.mem_of_find?_eq_some hfound)
      have hplace : place' = place := placeName_inj.1 (by simpa using List.find?_some hfound)
      cases Plan.eq_of_mem_placed h (hplace ▸ hplaced)
      rw [hplace]
  rw [answer?, read?_statement]
  simp [hitem]

/-- The expressions of counts ask for what they are named after. -/
theorem counted?_expression (d : Dialect) (rows : List (String → Option V)) (column : Column) :
    counted? d rows ((d.expression (.aggregate column .count)).flatMap d.lexemesOf)
        = some (rows.countP fun row => (row column.name).isSome)
      ∧ counted? d rows ((d.expression (.aggregate column .distinctCount)).flatMap d.lexemesOf)
        = some (rows.filterMap fun row => row column.name).toFinset.card
      ∧ counted? d rows ((d.expression .rowCount).flatMap d.lexemesOf) = some rows.length := by
  have hcount : d.lexemesOf (.words "COUNT(") = [.word "COUNT", .mark '('] :=
    Dialect.lexemesOf_words (by decide)
  have hdistinct : d.lexemesOf (.words "COUNT(DISTINCT ")
      = [.word "COUNT", .mark '(', .word "DISTINCT"] := Dialect.lexemesOf_words (by decide)
  have hrows : d.lexemesOf (.words "COUNT(*)")
      = [.word "COUNT", .mark '(', .word "*", .mark ')'] := Dialect.lexemesOf_words (by decide)
  refine ⟨?_, ?_, ?_⟩
  · change counted? d rows
      ([.words "COUNT(", .name column.name, .words ")"].flatMap d.lexemesOf) = _
    simp [hcount, Dialect.lexemesOf_close, counted?]
  · rw [Dialect.expression, Dialect.aggregateExpression, Dialect.countDistinct]
    simp [hdistinct, Dialect.lexemesOf_close, counted?]
  · rw [Dialect.expression, List.flatMap_singleton, hrows, counted?]

end Clauses

/-! ## Counts of both -/

namespace Plan

variable {V : Type} {plan : Plan}

/-- The row of a table that holds what a document holds. -/
def tableRow (row : String → Held V) : String → Option V := fun name => (row name).value?

/-- The pipeline and the statement that a plan becomes when grouping is pushed down. -/
theorem native_of_pushdown (hpushdown : plan.pushdown = true) (d : Dialect) :
    (Document.compile plan).native
        = .aggregate plan.datasetName (Document.pipelineOf plan) none
      ∧ (d.compile plan).native
        = .statement (d.render (d.statement plan)) (Dialect.columnOrdinals plan) := by
  have hshape : plan.shape ≠ .rows := by
    rw [shape, hpushdown]
    split
    · contradiction
    · split <;> rintro ⟨⟩
  refine ⟨?_, rfl⟩
  unfold Document.compile
  split
  · contradiction
  · rfl
  · rfl

variable [DecidableEq V]

/-- **Counts of documents and counts of rows.** A plan that pushes grouping down is compiled to a
pipeline and, for each dialect, to a statement. For a group of documents, each of which may miss a
field or hold `null` or a value there, and for the rows of a table that hold the same values, both
answer the number of values to a count and the number of documents to a row count. To a count of
distinct values the statement answers their number, and so does the pipeline unless a document
holds `null`, which it counts as one more. -/
theorem counts_agree (hpushdown : plan.pushdown = true) (d : Dialect)
    (rows : List (String → Held V)) :
    ∃ pipeline text ordinals,
      (Document.compile plan).native = .aggregate plan.datasetName pipeline none
      ∧ (d.compile plan).native = .statement text ordinals
      ∧ (∀ column place, (.aggregate column .count, place) ∈ plan.placed →
          Document.answer? rows pipeline (placeName place)
              = some (.number (Held.count rows column.name))
            ∧ Clauses.answer? d (rows.map tableRow) text (placeName place)
              = some (Held.count rows column.name))
      ∧ (∀ column place, (.aggregate column .distinctCount, place) ∈ plan.placed →
          Document.answer? rows pipeline (placeName place)
              = some (.number (Held.distinctCount rows column.name
                  + if ∃ row ∈ rows, row column.name = .null then 1 else 0))
            ∧ Clauses.answer? d (rows.map tableRow) text (placeName place)
              = some (Held.distinctCount rows column.name))
      ∧ ∀ place, (.rowCount, place) ∈ plan.placed →
          Document.answer? rows pipeline (placeName place) = some (.number rows.length)
            ∧ Clauses.answer? d (rows.map tableRow) text (placeName place) = some rows.length := by
  obtain ⟨hpipeline, hstatement⟩ := native_of_pushdown hpushdown d
  refine ⟨_, _, _, hpipeline, hstatement, fun column place h => ?_, fun column place h => ?_,
    fun place h => ?_⟩
  · have haccumulator : (placeName place, Document.Accumulator.count column.name)
        ∈ Document.accumulators plan := List.mem_filterMap.2 ⟨_, h, rfl⟩
    rw [Document.answer?_pipelineOf haccumulator, Document.collect?_count,
      Clauses.answer?_statement d _ h, (Clauses.counted?_expression d _ column).1, List.countP_map]
    exact ⟨rfl, rfl⟩
  · have haccumulator : (placeName place, Document.Accumulator.distinct column.name)
        ∈ Document.accumulators plan := List.mem_filterMap.2 ⟨_, h, rfl⟩
    have hnull : .null ∈ rows.map (fun row => row column.name)
        ↔ ∃ row ∈ rows, row column.name = .null := List.mem_map
    rw [Document.answer?_pipelineOf haccumulator, Document.collect?_distinct,
      Clauses.answer?_statement d _ h, (Clauses.counted?_expression d _ column).2.1]
    refine ⟨?_, by rw [List.filterMap_map]; rfl⟩
    have hcard : (((rows.map fun row => row column.name).filterMap Held.item?).toFinset.card : Int)
        = Held.distinctCount rows column.name
          + if ∃ row ∈ rows, row column.name = .null then 1 else 0 := by
      rw [Held.card_items, List.filterMap_map, if_congr hnull rfl rfl]
      split <;> rfl
    exact congrArg (fun k => some (Document.Collected.number k)) hcard
  · have haccumulator : (placeName place, Document.Accumulator.documents)
        ∈ Document.accumulators plan := List.mem_filterMap.2 ⟨_, h, rfl⟩
    rw [Document.answer?_pipelineOf haccumulator, Document.collect?_documents,
      Clauses.answer?_statement d _ h, (Clauses.counted?_expression d _ default).2.2,
      List.length_map]
    exact ⟨rfl, rfl⟩

section

/-- The plan for the number of customers, of known customers and of orders. -/
def customersPlan : Plan :=
  ⟨"orders", "orders",
    [ .aggregate ⟨"email", "email", .hierarchy, "string", "orders", false⟩ .distinctCount,
      .aggregate ⟨"email", "email", .hierarchy, "string", "orders", false⟩ .count, .rowCount ],
    [], true⟩

/-- An order of a customer, if the customer is known. -/
def orderOf (customer : Held Nat) : String → Held Nat := fun _ => customer

/-- Orders of two customers, and one of nobody. -/
def customerOrders : List (String → Held Nat) :=
  [orderOf (.value 1), orderOf .missing, orderOf (.value 2), orderOf (.value 1)]

/-- A missing customer counts as an order only, for both. -/
theorem counts_agree_customerOrders :
    customersPlan.pushdown = true
      ∧ ∃ pipeline text ordinals,
        (Document.compile customersPlan).native = .aggregate "orders" pipeline none
        ∧ (Dialect.compile .postgres customersPlan).native = .statement text ordinals
        ∧ ["c0", "c1", "c2"].map (Document.answer? customerOrders pipeline)
          = [some (.number 2), some (.number 3), some (.number 4)]
        ∧ ["c0", "c1", "c2"].map (Clauses.answer? .postgres (customerOrders.map tableRow) text)
          = [some 2, some 3, some 4] := by
  have hpushdown : customersPlan.pushdown = true := rfl
  obtain ⟨pipeline, text, ordinals, hpipeline, htext, hcount, hdistinct, hrows⟩ :=
    counts_agree hpushdown .postgres customerOrders
  obtain ⟨hset, hvalues⟩ :=
    hdistinct ⟨"email", "email", .hierarchy, "string", "orders", false⟩ 0 (by decide)
  obtain ⟨hsum, hnumber⟩ :=
    hcount ⟨"email", "email", .hierarchy, "string", "orders", false⟩ 1 (by decide)
  obtain ⟨hdocuments, hall⟩ := hrows 2 (by decide)
  have hnames : ["c0", "c1", "c2"] = [placeName 0, placeName 1, placeName 2] := by decide
  have htwo : Held.distinctCount customerOrders "email" = 2 := by decide
  have hthree : Held.count customerOrders "email" = 3 := by decide
  have hnull : ¬∃ row ∈ customerOrders, row "email" = .null := by decide
  refine ⟨rfl, pipeline, text, ordinals, hpipeline, htext, ?_, ?_⟩
  · rw [hnames, List.map_cons, List.map_cons, List.map_singleton, hset, hsum, hdocuments, htwo,
      hthree, if_neg hnull]
    rfl
  · rw [hnames, List.map_cons, List.map_cons, List.map_singleton, hvalues, hnumber, hall, htwo,
      hthree]
    rfl

/-- An order with `null` for a customer counts as one more customer in the set, and as none in the
statement. -/
theorem not_counts_agree_null :
    customersPlan.pushdown = true
      ∧ ∃ pipeline text ordinals,
        (Document.compile customersPlan).native = .aggregate "orders" pipeline none
        ∧ (Dialect.compile .postgres customersPlan).native = .statement text ordinals
        ∧ Held.distinctCount [orderOf .null] "email" = 0
        ∧ Document.answer? [orderOf .null] pipeline "c0" = some (.number 1)
        ∧ Clauses.answer? .postgres ([orderOf .null].map tableRow) text "c0" = some 0 := by
  have hpushdown : customersPlan.pushdown = true := rfl
  have hplaced : (.aggregate ⟨"email", "email", .hierarchy, "string", "orders", false⟩
      .distinctCount, 0) ∈ customersPlan.placed := List.mem_cons_self
  obtain ⟨hpipeline, htext⟩ := native_of_pushdown hpushdown .postgres
  refine ⟨rfl, _, _, _, hpipeline, htext, rfl, by decide +kernel, ?_⟩
  exact (Clauses.answer?_statement .postgres _ hplaced).trans
    (Clauses.counted?_expression .postgres _ _).2.1

end

end Plan

end Pushdown
