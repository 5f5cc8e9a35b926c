import Mathlib.Data.List.Forall2
import Pushdown.Document.Flatten
import Pushdown.Document.Pipeline
import Pushdown.Proofs.Json.Members
import Pushdown.Proofs.Query.Answers

/-!
# What a pipeline for groups is answered with

A pipeline that pushes grouping down has a group stage, which says the keys of a group and what is
collected over its documents, each under a name of its own (`Document.keysAsked`,
`Document.accumulatorsAsked`), and it may have a stage after it that keeps some fields and not
others. None is lost there (`Document.fieldsOf_pipelineOf`). A document that the pipeline results in
(`Document.WritesGroup`) holds a group: an object of keys as its id, and beside it a value for every
accumulator.

`Document.normalize_groups` is what becomes of the documents of a batch: a row for each of them,
with a cell for every projection, read from what the group answers under the name of that
projection. Reading takes an object with a `value` member for a metric, and hands out that member
(`metricValue`). This is meant for the answers of a search; a group key of documents may be such an
object too, and then the cell is not the key: `Document.not_rowOf_priced`.
-/

namespace Pushdown

/-- A value is read as it is just if it has no `value` member. -/
theorem metricValue_eq_self_iff {value : Json} :
    metricValue value = value ↔ value.get? "value" = none := by
  rw [metricValue]
  cases hmember : value.get? "value" with
  | none => simp
  | some inner =>
    simp only [Option.getD_some, reduceCtorEq, iff_false]
    rintro rfl
    cases inner with
    | object members =>
      have hmem := List.sizeOf_lt_of_mem (Json.mem_of_lookup hmember)
      simp only [Prod.mk.sizeOf_spec, Json.object.sizeOf_spec] at hmem
      omega
    | null | bool | int | float | text | list => cases hmember

namespace Document

/-! ## Questions -/

/-- The members of the group stage of a pipeline. -/
def groupAsked (pipeline : List Json) : Members :=
  ((pipeline.findSome? fun stage => stage.get? "$group").bind Json.members?).getD []

/-- The keys that a pipeline groups by, by name. -/
def keysAsked (pipeline : List Json) : Members :=
  ((Json.lookup "_id" (groupAsked pipeline)).bind Json.members?).getD []

/-- What a pipeline collects over the documents of a group, by name. -/
def accumulatorsAsked (pipeline : List Json) : Members :=
  Json.eraseMember "_id" (groupAsked pipeline)

/-- Whether a projection keeps a field. It keeps the id unless it says otherwise, and no other field
that it does not name. -/
def keepsField (projection : Members) (name : String) : Bool :=
  match Json.lookup name projection with
  | some (.int 0) | some (.bool false) => false
  | some _ => true
  | none => name = "_id"

/-- The fields of documents after a stage: a group stage makes new ones, and a projection keeps
some. -/
def fieldsAfter (fields : List String) (stage : Json) : List String :=
  match (stage.get? "$group").bind Json.members?, (stage.get? "$project").bind Json.members? with
  | some group, _ => group.map Prod.fst
  | none, some projection => fields.filter (keepsField projection)
  | none, none => fields

/-- The fields of the documents that a pipeline results in. -/
def fieldsOf (pipeline : List Json) : List String :=
  pipeline.foldl fieldsAfter []

/-- A pipeline asks for what a projection needs, under the name of its place. -/
def AskedFor (pipeline : List Json) : Projection × Nat → Prop
  | (.column column none, place) =>
    Json.lookup (placeName place) (keysAsked pipeline) = some (GroupKey.field column.name).toJson
  | (.column column (some level), place) =>
    Json.lookup (placeName place) (keysAsked pipeline)
      = some (GroupKey.period column.name level).toJson
  | (.aggregate column aggregation, place) =>
    Json.lookup (placeName place) (accumulatorsAsked pipeline)
      = some (accumulatorOf column aggregation).toJson
  | (.rowCount, place) =>
    Json.lookup (placeName place) (accumulatorsAsked pipeline) = some Accumulator.documents.toJson
  | (.unit, _) => True

/-! ## Answers -/

/-- A group: its keys and what was collected over its documents, by name. -/
structure Group where
  key : String → Json
  collected : String → Json

/-- What a group answers to a projection. -/
def Group.answer (group : Group) : Projection × Nat → Json
  | (.column .., place) => group.key (placeName place)
  | (.aggregate .., place) | (.rowCount, place) => group.collected (placeName place)
  | (.unit, _) => .int 1

/-- The id of a group: an object with a value for each key and nothing else, or `null` when there
are no keys. -/
def WritesKeys (pipeline : List Json) (group : Group) (id : Json) : Prop :=
  if keysAsked pipeline = [] then id = .null
  else ∃ keys, id = .object keys
    ∧ (∀ name ∈ (keysAsked pipeline).map Prod.fst, Json.lookup name keys = some (group.key name))
    ∧ ∀ name ∈ keys.map Prod.fst, name ∈ (keysAsked pipeline).map Prod.fst

/-- A document that a pipeline results in holds a group: its id, and a value under each name of an
accumulator that is left in the end. -/
structure WritesGroup (pipeline : List Json) (group : Group) (document : Json) : Prop where
  keys : ∃ id, document.get? "_id" = some id ∧ WritesKeys pipeline group id
  collected : ∀ name ∈ (accumulatorsAsked pipeline).map Prod.fst, name ∈ fieldsOf pipeline →
    document.get? name = some (group.collected name)

variable {plan : Plan} {pipeline : List Json} {group : Group} {document : Json}

/-! ## Every projection is asked for -/

/-- The pipeline of a plan, as it is written. -/
abbrev pipelineOf (plan : Plan) : List Json :=
  (stages plan).map Stage.toJson

/-- A group key of a plan is that of a column, under the name of its place. -/
theorem exists_placed_of_mem_groupKeys {k : String × GroupKey} (h : k ∈ groupKeys plan) :
    ∃ projection place, (projection, place) ∈ plan.placed ∧ projection.isColumn = true
      ∧ k.1 = placeName place := by
  obtain ⟨⟨projection, place⟩, hplaced, hk⟩ := List.mem_filterMap.1 h
  refine ⟨projection, place, hplaced, ?_⟩
  cases projection with
  | column column level => cases level <;> cases hk <;> exact ⟨rfl, rfl⟩
  | aggregate | rowCount | unit => cases hk

/-- An accumulator of a plan is not that of a column, and has the name of its place. -/
theorem exists_placed_of_mem_accumulators {a : String × Accumulator}
    (h : a ∈ accumulators plan) :
    ∃ projection place, (projection, place) ∈ plan.placed ∧ projection.isColumn = false
      ∧ a.1 = placeName place := by
  obtain ⟨⟨projection, place⟩, hplaced, ha⟩ := List.mem_filterMap.1 h
  refine ⟨projection, place, hplaced, ?_⟩
  cases projection <;> cases ha <;> exact ⟨rfl, rfl⟩

/-- No accumulator of a plan has the name of the id. -/
theorem ne_id_of_mem_accumulators {a : String × Accumulator} (h : a ∈ accumulators plan) :
    a.1 ≠ "_id" := by
  obtain ⟨projection, place, -, -, hname⟩ := exists_placed_of_mem_accumulators h
  rw [hname]
  exact placeName_ne place (by decide)

/-- Members for the id and the accumulators of a plan have distinct names. -/
theorem nodup_id_accumulators (plan : Plan) (id : Json) (value : String × Accumulator → Json) :
    ((("_id", id) :: (accumulators plan).map fun a => (a.1, value a)).map Prod.fst).Nodup := by
  rw [List.map_cons, List.map_map]
  refine List.nodup_cons.2 ⟨fun hmem => ?_, Plan.nodup_names fun placed a ha => ?_⟩
  · obtain ⟨a, ha, hid⟩ := List.mem_map.1 hmem
    exact ne_id_of_mem_accumulators ha hid
  · obtain ⟨projection, place⟩ := placed
    cases projection <;> cases ha <;> rfl

/-- The group stage of a plan is the one with its keys and accumulators. -/
theorem groupAsked_pipelineOf (plan : Plan) :
    groupAsked (pipelineOf plan)
      = Json.sortMembers (("_id", keysJson (groupKeys plan))
          :: (accumulators plan).map fun a => (a.1, a.2.toJson)) := by
  have hmatching (selector : Selector) : (Stage.matching selector).toJson.get? "$group" = none :=
    rfl
  have hgroup (keys : List (String × GroupKey)) (accumulators : List (String × Accumulator)) :
      (Stage.group keys accumulators).toJson.get? "$group" = some (.ofMembers
        (("_id", keysJson keys) :: accumulators.map fun a => (a.1, a.2.toJson))) := rfl
  rw [groupAsked, pipelineOf, stages]
  split <;> simp [hmatching, hgroup, Json.ofMembers, Json.members?]

/-- The keys that a plan groups by. -/
theorem keysAsked_pipelineOf (plan : Plan) :
    keysAsked (pipelineOf plan)
      = Json.sortMembers ((groupKeys plan).map fun k => (k.1, k.2.toJson)) := by
  rw [keysAsked, groupAsked_pipelineOf, Json.lookup_sortMembers_of_mem
    (nodup_id_accumulators plan _ _) List.mem_cons_self, Option.bind_some, keysJson]
  split
  · next hempty =>
    rw [List.isEmpty_iff.1 hempty]
    rfl
  · rfl

/-- An accumulator of a plan is found under its name. -/
theorem lookup_accumulatorsAsked {name : String} {accumulator : Accumulator}
    (h : (name, accumulator) ∈ accumulators plan) :
    Json.lookup name (accumulatorsAsked (pipelineOf plan))
      = some accumulator.toJson := by
  have hmem : (name, accumulator.toJson) ∈ ("_id", keysJson (groupKeys plan))
      :: (accumulators plan).map fun a => (a.1, a.2.toJson) :=
    List.mem_cons_of_mem _ (List.mem_map.2 ⟨_, h, rfl⟩)
  rw [accumulatorsAsked, Json.lookup_eraseMember_of_ne (ne_id_of_mem_accumulators h),
    groupAsked_pipelineOf]
  exact Json.lookup_sortMembers_of_mem (nodup_id_accumulators plan _ _) hmem

/-- A group key of a plan is found under its name. -/
theorem lookup_keysAsked {name : String} {key : GroupKey} (h : (name, key) ∈ groupKeys plan) :
    Json.lookup name (keysAsked (pipelineOf plan)) = some key.toJson := by
  have hnames : (((groupKeys plan).map fun k => (k.1, k.2.toJson)).map Prod.fst).Nodup := by
    rw [List.map_map]
    refine Plan.nodup_names fun placed k hk => ?_
    obtain ⟨projection, place⟩ := placed
    cases projection with
    | column column level => cases level <;> cases hk <;> rfl
    | aggregate | rowCount | unit => cases hk
  rw [keysAsked_pipelineOf]
  exact Json.lookup_sortMembers_of_mem hnames (List.mem_map.2 ⟨_, h, rfl⟩)

/-- The pipeline of a plan asks for every projection. -/
theorem askedFor_pipelineOf (plan : Plan) :
    ∀ placed ∈ plan.placed, AskedFor (pipelineOf plan) placed := by
  rintro ⟨projection, place⟩ hplaced
  cases projection with
  | column column level =>
    cases level <;> exact lookup_keysAsked (List.mem_filterMap.2 ⟨_, hplaced, rfl⟩)
  | aggregate column aggregation =>
    exact lookup_accumulatorsAsked (List.mem_filterMap.2 ⟨_, hplaced, rfl⟩)
  | rowCount => exact lookup_accumulatorsAsked (List.mem_filterMap.2 ⟨_, hplaced, rfl⟩)
  | unit => trivial

/-! ## Every accumulator is left in the end -/

/-- A field that a projection finishes in some way is kept. -/
theorem keepsField_of_finish {projection : Members} {name : String} (finish : Finish)
    (h : Json.lookup name projection = some (finish.toJson name)) :
    keepsField projection name = true := by
  rw [keepsField, h]
  cases finish <;> rfl

/-- The last stage of a plan keeps the id and all accumulators. -/
theorem keepsField_finishes {name : String}
    (h : name ∈ (groupAsked (pipelineOf plan)).map Prod.fst) :
    keepsField (Json.sortMembers (("_id", .int 1)
      :: ((accumulators plan).map finishOf).map fun f => (f.1, f.2.toJson f.1))) name = true := by
  have hfinishes : ((accumulators plan).map finishOf).map (fun f => (f.1, f.2.toJson f.1))
      = (accumulators plan).map fun a => (a.1, (finishOf a).2.toJson a.1) := List.map_map
  have hnames := nodup_id_accumulators plan (.int 1) fun a => (finishOf a).2.toJson a.1
  obtain ⟨⟨_, value⟩, hmem, rfl⟩ := List.mem_map.1 h
  rw [groupAsked_pipelineOf] at hmem
  rw [hfinishes]
  rcases List.mem_cons.1 (Json.mem_of_mem_sortMembers hmem) with hid | hmem
  · cases hid
    exact keepsField_of_finish .keep (Json.lookup_sortMembers_of_mem hnames List.mem_cons_self)
  · obtain ⟨a, ha, heq⟩ := List.mem_map.1 hmem
    cases heq
    exact keepsField_of_finish (finishOf a).2 (Json.lookup_sortMembers_of_mem hnames
      (List.mem_cons_of_mem _ (List.mem_map.2 ⟨a, ha, rfl⟩)))

/-- The documents that the pipeline of a plan results in have the fields of its group stage: the
last stage drops none. -/
theorem fieldsOf_pipelineOf (plan : Plan) :
    fieldsOf (pipelineOf plan) = (groupAsked (pipelineOf plan)).map Prod.fst := by
  have hmatching (fields : List String) (selector : Selector) :
      fieldsAfter fields (Stage.matching selector).toJson = fields := rfl
  have hgroup (fields : List String) : fieldsAfter fields
      (Stage.group (groupKeys plan) (accumulators plan)).toJson
        = (groupAsked (pipelineOf plan)).map Prod.fst := by
    rw [groupAsked_pipelineOf]
    rfl
  have hproject : fieldsAfter ((groupAsked (pipelineOf plan)).map Prod.fst)
      (Stage.project ((accumulators plan).map finishOf)).toJson
        = (groupAsked (pipelineOf plan)).map Prod.fst :=
    List.filter_eq_self.2 fun name hname => keepsField_finishes hname
  rw [fieldsOf]
  conv_lhs => rw [pipelineOf, stages]
  split <;> split <;> simp [hmatching, hgroup, hproject]

/-- No accumulator of a plan is dropped by a later stage. -/
theorem mem_fieldsOf_of_mem_accumulatorsAsked {name : String}
    (h : name ∈ (accumulatorsAsked (pipelineOf plan)).map Prod.fst) :
    name ∈ fieldsOf (pipelineOf plan) := by
  obtain ⟨m, hm, rfl⟩ := List.mem_map.1 h
  rw [fieldsOf_pipelineOf]
  exact List.mem_map.2 ⟨m, (List.mem_filter.1 hm).1, rfl⟩

/-! ## Every answer is found -/

/-- No accumulator of a plan has the name of a group key. -/
theorem not_mem_keysAsked {a : String × Accumulator} (h : a ∈ accumulators plan) :
    a.1 ∉ (keysAsked (pipelineOf plan)).map Prod.fst := by
  rw [keysAsked_pipelineOf]
  intro hmem
  obtain ⟨⟨_, value⟩, hmem, hname⟩ := List.mem_map.1 hmem
  obtain ⟨k, hk, heq⟩ := List.mem_map.1 (Json.mem_of_mem_sortMembers hmem)
  cases heq
  obtain ⟨projection, place, hplaced, hcolumn, hkey⟩ := exists_placed_of_mem_groupKeys hk
  obtain ⟨projection', place', hplaced', hcolumn', ha⟩ := exists_placed_of_mem_accumulators h
  have hplaces : place' = place := placeName_inj.1 (ha.symm.trans (hname.symm.trans hkey))
  cases Plan.eq_of_mem_placed hplaced (hplaces ▸ hplaced')
  exact absurd hcolumn (by rw [hcolumn']; exact Bool.false_ne_true)

/-- The keys of a group are found in its id, and nothing else is. -/
theorem lookup_id {id : Json} (h : WritesKeys pipeline group id) (name : String) :
    Json.lookup name (id.members?.getD [])
      = if name ∈ (keysAsked pipeline).map Prod.fst then some (group.key name) else none := by
  rw [WritesKeys] at h
  split at h
  · next hnone =>
    rw [h, hnone]
    rfl
  · obtain ⟨keys, rfl, hkeys, hothers⟩ := h
    split
    · next hname => exact hkeys name hname
    · next hname => exact Json.lookup_eq_none_iff.2 fun hmem => hname (hothers name hmem)

/-- The row of a document has the group's value under the name of each key and each accumulator. -/
theorem rowOf_of_writesGroup {shape : Shape} (hshape : shape ≠ .rows) {fields : Members}
    (h : WritesGroup (pipelineOf plan) group (.object fields)) :
    ∃ keys values, rowOf shape fields = .bucket keys values none
      ∧ (∀ k ∈ groupKeys plan, Json.lookup k.1 keys = some (group.key k.1))
      ∧ ∀ a ∈ accumulators plan, Json.lookup a.1 keys = none
        ∧ Json.lookup a.1 values = some (group.collected a.1) := by
  obtain ⟨⟨id, hid, hkeys⟩, hcollected⟩ := h
  rw [Json.get?] at hid
  refine ⟨id.members?.getD [], Json.eraseMember "_id" fields, ?_, fun k hk => ?_,
    fun a ha => ⟨?_, ?_⟩⟩
  · cases shape with
    | rows => exact absurd rfl hshape
    | grouped | aggregate => rw [rowOf, hid, Option.bind_some]
  · have hmem := Json.mem_of_lookup (lookup_keysAsked hk)
    rw [lookup_id hkeys, if_pos (List.mem_map.2 ⟨_, hmem, rfl⟩)]
  · rw [lookup_id hkeys, if_neg (not_mem_keysAsked ha)]
  · have hasked : a.1 ∈ (accumulatorsAsked (pipelineOf plan)).map Prod.fst :=
      List.mem_map.2 ⟨_, Json.mem_of_lookup (lookup_accumulatorsAsked ha), rfl⟩
    rw [Json.lookup_eraseMember_of_ne (ne_id_of_mem_accumulators ha)]
    exact hcollected _ hasked (mem_fieldsOf_of_mem_accumulatorsAsked hasked)

/-- The row of a document is the one asked for, but for a value with a `value` member, which is read
as that member. -/
theorem normalize_rowOf {shape : Shape} (hshape : shape ≠ .rows) {fields : Members}
    (h : WritesGroup (pipelineOf plan) group (.object fields)) :
    normalize (plan.outputs .places) (rowOf shape fields)
      = plan.rowOf fun placed => metricValue (group.answer placed) := by
  obtain ⟨keys, values, hrow, hkeys, hcollected⟩ := rowOf_of_writesGroup hshape h
  have hanswer : ∀ placed ∈ plan.placed, placed.1 ≠ .unit →
      (Json.lookup (placeName placed.2) keys).or (Json.lookup (placeName placed.2) values)
        = some (group.answer placed) := by
    rintro ⟨projection, place⟩ hplaced hunit
    cases projection with
    | column column level =>
      have hkey : Json.lookup (placeName place) keys = some (group.key (placeName place)) := by
        cases level <;> exact hkeys _ (List.mem_filterMap.2 ⟨_, hplaced, rfl⟩)
      rw [hkey, Option.some_or, Group.answer]
    | aggregate column aggregation =>
      obtain ⟨hnone, hvalue⟩ := hcollected _ (List.mem_filterMap.2 ⟨_, hplaced, rfl⟩)
      rw [hnone, hvalue, Option.none_or, Group.answer]
    | rowCount =>
      obtain ⟨hnone, hvalue⟩ := hcollected _ (List.mem_filterMap.2 ⟨_, hplaced, rfl⟩)
      rw [hnone, hvalue, Option.none_or, Group.answer]
    | unit => exact absurd rfl hunit
  rw [hrow]
  refine Plan.normalize_eq_rowOf fun placed hplaced => ?_
  have hread (hunit : placed.1 ≠ .unit) :
      normalizeValue (Plan.output .places plan.pushdown placed).type
          ((NativeRow.bucket keys values none).extract placed.2
            (Plan.output .places plan.pushdown placed))
        = normalizeValue placed.1.resultType (metricValue (group.answer placed)) := by
    rw [Plan.type_output, NativeRow.extract, Plan.key_output, hanswer placed hplaced hunit]
  obtain ⟨projection, place⟩ := placed
  cases projection with
  | column | rowCount => exact hread nofun
  | aggregate column aggregation => cases aggregation <;> exact hread nofun
  | unit => rfl

/-- **The documents of a pipeline for groups are rows of its projections.** The compiled pipeline of
a plan that pushes grouping down asks for every group key and every accumulator of the plan under
the name of its place, and no stage drops an accumulator. From documents that hold some groups, a
page is read whose rows are as many, in the same order, with a cell for every projection: what the
group answers under the projection's own name, as a value of its type. For an answer with a `value`
member that member is taken for it; so the rows are the ones the plan asks for if there is no such
answer. -/
theorem normalize_groups (hpushdown : plan.pushdown = true) :
    ∃ pipeline, (compile plan).native = .aggregate plan.datasetName pipeline none
      ∧ (∀ placed ∈ plan.placed, AskedFor pipeline placed)
      ∧ (∀ name ∈ (accumulatorsAsked pipeline).map Prod.fst, name ∈ fieldsOf pipeline)
      ∧ ∀ groups documents, List.Forall₂ (WritesGroup pipeline) groups documents → ∀ cursorId,
        (pageOfBatch (compile plan).shape documents cursorId).rows.map
              (normalize (compile plan).outputs)
            = groups.map (fun group => plan.rowOf fun placed => metricValue (group.answer placed))
          ∧ ((∀ group ∈ groups, ∀ placed ∈ plan.placed,
                (group.answer placed).get? "value" = none) →
              (pageOfBatch (compile plan).shape documents cursorId).rows.map
                  (normalize (compile plan).outputs)
                = groups.map fun group => plan.rowOf group.answer) := by
  have hshape : plan.shape ≠ .rows := by
    rw [Plan.shape, hpushdown]
    split
    · contradiction
    · split <;> exact nofun
  have hcompile : (compile plan).native = .aggregate plan.datasetName (pipelineOf plan) none
      ∧ (compile plan).shape = plan.shape ∧ (compile plan).outputs = plan.outputs .places := by
    unfold compile
    split
    · contradiction
    · exact ⟨rfl, rfl, rfl⟩
    · exact ⟨rfl, rfl, rfl⟩
  obtain ⟨hnative, hshape', houtputs⟩ := hcompile
  refine ⟨pipelineOf plan, hnative, askedFor_pipelineOf plan,
    fun name => mem_fieldsOf_of_mem_accumulatorsAsked, fun groups documents hwrites cursorId => ?_⟩
  have hrows : (pageOfBatch (compile plan).shape documents cursorId).rows.map
        (normalize (compile plan).outputs)
      = groups.map fun group => plan.rowOf fun placed => metricValue (group.answer placed) := by
    rw [hshape', houtputs, pageOfBatch, List.map_map]
    induction hwrites with
    | nil => rfl
    | @cons group document groups documents hwrites _ ih =>
      cases document with
      | object fields => exact congrArg₂ List.cons (normalize_rowOf hshape hwrites) ih
      | null | bool | int | float | text | list =>
        obtain ⟨id, hid, -⟩ := hwrites.keys
        cases hid
  refine ⟨hrows, fun hplain => hrows.trans (List.map_congr_left fun group hgroup => ?_)⟩
  refine List.map_congr_left fun placed hplaced => ?_
  exact congrArg (normalizeValue _) (metricValue_eq_self_iff.2 (hplain group hgroup placed hplaced))

section

/-- The plan for the number of customers and the number of orders at each price. -/
def pricesPlan : Plan :=
  ⟨"orders", "orders",
    [ .aggregate ⟨"customer", "customer", .hierarchy, "string", "orders", false⟩ .distinctCount,
      .column ⟨"price", "price", .hierarchy, "object", "orders", false⟩ none, .rowCount ],
    [], true⟩

/-- The orders at one price. -/
def priced (price : Json) (customers count : Int) : Group :=
  ⟨fun _ => price, fun name => .int (if name = "c0" then customers else count)⟩

/-- The document of the orders at one price. -/
def pricedDocument (price : Json) (customers count : Int) : Json :=
  .object [("_id", .single "c1" price), ("c0", .int customers), ("c2", .int count)]

theorem writesGroup_priced (price : Json) (customers count : Int) :
    WritesGroup (pipelineOf pricesPlan) (priced price customers count)
      (pricedDocument price customers count) := by
  have hkeys : keysAsked (pipelineOf pricesPlan) = [("c1", reference "price")] := by
    decide +kernel
  have hcollected : (accumulatorsAsked (pipelineOf pricesPlan)).map Prod.fst = ["c0", "c2"] := by
    decide +kernel
  refine ⟨⟨.single "c1" price, rfl, ?_⟩, fun name hname _ => ?_⟩
  · simp [WritesKeys, hkeys, Json.single, Json.lookup, priced]
  · rw [hcollected] at hname
    simp only [List.mem_cons, List.not_mem_nil, or_false] at hname
    rcases hname with rfl | rfl <;> rfl

/-- A sub-document that is a group key comes out as it is, and so does a missing one. The customers
are counted by a stage of their own. -/
theorem normalize_groups_priced :
    pricesPlan.pushdown = true
      ∧ (pageOfBatch (compile pricesPlan).shape
            [ pricedDocument (.single "currency" (.text "EUR")) 2 3, pricedDocument .null 1 1 ]
            0).rows.map (normalize (compile pricesPlan).outputs)
        = [ [.int 2, .single "currency" (.text "EUR"), .int 3], [.int 1, .null, .int 1] ] := by
  have hpushdown : pricesPlan.pushdown = true := rfl
  obtain ⟨pipeline, hnative, -, -, hrows⟩ := normalize_groups hpushdown
  cases hnative
  have hwrites := List.Forall₂.cons (writesGroup_priced (.single "currency" (.text "EUR")) 2 3)
    (List.Forall₂.cons (writesGroup_priced .null 1 1) .nil)
  refine ⟨rfl, ((hrows _ _ hwrites 0).2 ?_).trans (by decide +kernel)⟩
  simp [pricesPlan, Plan.placed, priced, Group.answer, Json.get?, Json.single, Json.lookup]

/-- A sub-document with a `value` member is a group key like any other, but the cell that is read
for it holds that member alone. -/
theorem not_rowOf_priced :
    pricesPlan.pushdown = true
      ∧ (compile pricesPlan).native = .aggregate "orders" (pipelineOf pricesPlan) none
      ∧ ∃ group document, WritesGroup (pipelineOf pricesPlan) group document
        ∧ pricesPlan.rowOf group.answer
          = [.int 1, .object [("unit", .text "EUR"), ("value", .int 5)], .int 1]
        ∧ (pageOfBatch (compile pricesPlan).shape [document] 0).rows.map
            (normalize (compile pricesPlan).outputs) = [[.int 1, .int 5, .int 1]] :=
  ⟨rfl, rfl, priced (.object [("unit", .text "EUR"), ("value", .int 5)]) 1 1, _,
    writesGroup_priced _ _ _, by decide +kernel, by decide +kernel⟩

end

end Document

end Pushdown
