import Pushdown.Backend.Compiler
import Pushdown.Proofs.Document.Groups
import Pushdown.Proofs.Query.Planning
import Pushdown.Proofs.Relational.Clauses
import Pushdown.Proofs.Relational.Frame
import Pushdown.Proofs.Search.Answers

/-!
# What a query groups by

A request that pushes grouping down has a group key for each column that it names without an
aggregation (`RequestedColumn.isKey`). A plan has them as `Plan.keys`, in the order of the request,
each with the place it was requested at and the period it is truncated to.

Every compiler builds the grouping of its query in a loop of its own. `BackendKind.Groups` and
`BackendKind.GroupsNothing` are read off the query alone: the clauses of a statement, the body of a
search, the stages of a pipeline. `BackendKind.groups_keys` is that for every kind of backend they
agree with the keys of the request, and with the group count, the shape and the strategy that the
compiled query carries.
-/

namespace Pushdown

/-! ## Keys -/

/-- Whether a requested column is a group key when grouping is pushed down. -/
def RequestedColumn.isKey (requested : RequestedColumn) : Bool :=
  !requested.isWildcard && requested.aggregation.isNone

/-- A group key. -/
structure KeyColumn where
  column : Column
  /-- The period the column is truncated to. -/
  level : Option DateLevel
  /-- The place among the requested columns. -/
  place : Nat
  deriving DecidableEq, Repr, Inhabited

namespace KeyColumn

/-- The name of the key in a query. -/
def name (key : KeyColumn) : String := placeName key.place

/-- The key that a requested column asks for. Only instants are truncated. -/
structure IsRequested (dataset : Dataset) (requested : RequestedColumn × Nat)
    (key : KeyColumn) : Prop where
  column : dataset.resolve requested.1.columnId = .ok key.column
  level : key.level = if key.column.type = .datetime then requested.1.level else none
  place : key.place = requested.2

/-- The words of the key in a statement. -/
def words (d : Dialect) (key : KeyColumn) : List Lexeme :=
  (d.columnExpression key.column key.level).flatMap d.lexemesOf

/-- The key in a pipeline. -/
def groupKey (key : KeyColumn) : Document.GroupKey :=
  match key.level with
  | none => .field key.column.name
  | some level => .period key.column.name level

end KeyColumn

/-- The key at a place of a plan. -/
def Projection.key? : Projection × Nat → Option KeyColumn
  | (.column c level, place) => some ⟨c, level, place⟩
  | _ => none

/-- The group keys of a plan. -/
def Plan.keys (plan : Plan) : List KeyColumn :=
  plan.placed.filterMap Projection.key?

namespace Plan

variable {options : FilterOptions} {schema : Schema} {request : Request} {plan : Plan}

/-- With pushdown a requested column becomes a key as it is requested, or something to count or to
reduce. -/
theorem project_pushdown {dataset : Dataset} {requested : RequestedColumn}
    {projection : Projection} (h : project true dataset requested = .ok projection) :
    (requested.isKey = true ∧ ∃ column level, projection = .column column level
        ∧ dataset.resolve requested.columnId = .ok column
        ∧ level = if column.type = .datetime then requested.level else none)
      ∨ (requested.isKey = false ∧ (projection = .rowCount
        ∨ ∃ column aggregation, projection = .aggregate column aggregation)) := by
  unfold project at h
  split at h
  · next hwildcard =>
    refine .inr ⟨by simp [RequestedColumn.isKey, hwildcard], .inl ?_⟩
    unfold projectRows at h
    split at h <;> cases h <;> rfl
  · next hwildcard =>
    obtain ⟨column, hcolumn, h⟩ := Except.ok_of_bind h
    unfold projectColumn at h
    split at h
    · next _ aggregation _ haggregation =>
      refine .inr ⟨by simp [RequestedColumn.isKey, haggregation], .inr ?_⟩
      split at h <;> cases h
      exact ⟨column, aggregation, rfl⟩
    · next pushdown aggregation hnone =>
      have haggregation : requested.aggregation = none := by
        cases hsome : requested.aggregation with
        | none => rfl
        | some aggregation => exact (hnone aggregation rfl hsome).elim
      cases h
      refine .inl ⟨by simp [RequestedColumn.isKey, hwildcard, haggregation], column, _, rfl,
        hcolumn, ?_⟩
      simp

/-- The keys of a plan are the ones that are requested, in order. -/
theorem keys_requested {dataset : Dataset} {columns : List RequestedColumn}
    {projections : List Projection}
    (h : List.Forall₂ (fun requested projection =>
      project true dataset requested = .ok projection) columns projections) (n : Nat) :
    List.Forall₂ (KeyColumn.IsRequested dataset)
      ((columns.zipIdx n).filter fun requested => requested.1.isKey)
      ((projections.zipIdx n).filterMap Projection.key?) := by
  induction h generalizing n with
  | nil => exact .nil
  | @cons requested projection columns projections hproject _ ih =>
    rw [List.zipIdx_cons, List.zipIdx_cons]
    rcases project_pushdown hproject with
      ⟨hkey, column, level, rfl, hcolumn, hlevel⟩ | ⟨hkey, hother⟩
    · have hkey : (requested, n).1.isKey = true := hkey
      rw [List.filter_cons, if_pos hkey]
      exact .cons ⟨hcolumn, hlevel, rfl⟩ (ih (n + 1))
    · have hnone : Projection.key? (projection, n) = none := by
        rcases hother with rfl | ⟨column, aggregation, rfl⟩ <;> rfl
      rw [List.filter_cons_of_neg (by simp [hkey]), List.filterMap_cons, hnone]
      exact ih (n + 1)

/-- With pushdown no column becomes the constant of a row. -/
theorem ne_unit_of_project {dataset : Dataset} {columns : List RequestedColumn}
    {projections : List Projection}
    (h : List.Forall₂ (fun requested projection =>
      project true dataset requested = .ok projection) columns projections) :
    ∀ projection ∈ projections, projection ≠ .unit := by
  intro projection hmem
  obtain ⟨requested, -, hproject⟩ := exists_mem_of_forall₂ h hmem
  rcases project_pushdown hproject with
    ⟨-, column, level, rfl, -⟩ | ⟨-, rfl | ⟨column, aggregation, rfl⟩⟩ <;> exact nofun

/-- There are as many keys as columns named without an aggregation. -/
theorem length_filter_isKey (columns : List RequestedColumn) (n : Nat) :
    ((columns.zipIdx n).filter fun requested => requested.1.isKey).length
      = columns.countP RequestedColumn.isKey := by
  induction columns generalizing n with
  | nil => rfl
  | cons requested columns ih =>
    rw [List.zipIdx_cons, List.filter_cons, List.countP_cons]
    split
    · rw [List.length_cons, ih]
    · rw [ih, Nat.add_zero]

/-- What is taken from the keys one by one is taken from the places of a plan. -/
theorem map_keys {α : Type} {f : KeyColumn → α} {each : Projection × Nat → Option α}
    (heach : ∀ projection place, each (projection, place)
      = (Projection.key? (projection, place)).map f) :
    plan.keys.map f = plan.placed.filterMap each := by
  rw [keys, List.map_filterMap]
  exact congrArg (List.filterMap · plan.placed) (funext fun placed => (heach _ _).symm)

/-- There are as many keys as projections that are columns. -/
theorem length_keys (plan : Plan) :
    plan.keys.length = plan.projections.countP Projection.isColumn := by
  have hlength (projections : List Projection) (n : Nat) :
      ((projections.zipIdx n).filterMap Projection.key?).length
        = projections.countP Projection.isColumn := by
    induction projections generalizing n with
    | nil => rfl
    | cons projection projections ih =>
      rw [List.zipIdx_cons, List.countP_cons]
      cases projection with
      | column => exact congrArg (· + 1) (ih (n + 1))
      | aggregate | rowCount | unit => exact ih (n + 1)
  exact hlength plan.projections 0

theorem groupCount_eq_length_keys (hpushdown : plan.pushdown = true) :
    plan.groupCount = plan.keys.length := by
  rw [groupCount, if_pos hpushdown, length_keys]

/-- A plan with pushdown has one row in its result just if it has no keys. -/
theorem shape_eq_aggregate_iff (hpushdown : plan.pushdown = true) :
    plan.shape = .aggregate ↔ plan.keys = [] := by
  rw [shape, if_neg (by simp [hpushdown]), groupCount_eq_length_keys hpushdown,
    ← List.length_eq_zero_iff]
  split
  · next hnil => exact iff_of_true rfl hnil
  · next hne => exact iff_of_false (by decide) hne

/-- The keys of a plan have distinct names. -/
theorem nodup_keyNames (plan : Plan) : (plan.keys.map KeyColumn.name).Nodup := by
  let named? (placed : Projection × Nat) : Option (String × KeyColumn) :=
    (Projection.key? placed).map fun key => (key.name, key)
  have hnames : ((plan.placed.filterMap named?).map Prod.fst).Nodup := by
    refine nodup_names fun placed entry hentry => ?_
    obtain ⟨projection, place⟩ := placed
    cases projection <;> cases hentry
    rfl
  rwa [← List.map_filterMap, List.map_map] at hnames

/-- A key of a plan is a projection at its place. -/
theorem mem_keys {key : KeyColumn} :
    key ∈ plan.keys ↔ (.column key.column key.level, key.place) ∈ plan.placed := by
  rw [keys, List.mem_filterMap]
  constructor
  · rintro ⟨⟨projection, place⟩, hmem, hkey⟩
    cases projection <;> cases hkey
    exact hmem
  · exact fun hmem => ⟨_, hmem, rfl⟩

end Plan

/-! ## Statements -/

namespace Dialect

variable {plan : Plan}

theorem columnOrdinals_eq_map_keys (plan : Plan) :
    columnOrdinals plan = plan.keys.map fun key => key.place + 1 := by
  rw [columnOrdinals, Plan.keys]
  induction plan.placed with
  | nil => rfl
  | cons placed rest ih =>
    obtain ⟨projection, place⟩ := placed
    cases projection with
    | column => exact congrArg ((place + 1) :: ·) ih
    | aggregate | rowCount | unit => exact ih

theorem groupExpressions_eq_map_keys (d : Dialect) (hpushdown : plan.pushdown = true) :
    d.groupExpressions plan
      = plan.keys.map fun key => d.columnExpression key.column key.level := by
  have hplaced : plan.projections = plan.placed.map Prod.fst := (List.zipIdx_map_fst 0 _).symm
  rw [groupExpressions, if_pos hpushdown, columnExpressions, Plan.keys, hplaced]
  induction plan.placed with
  | nil => rfl
  | cons placed rest ih =>
    obtain ⟨projection, place⟩ := placed
    cases projection with
    | column column level => exact congrArg (d.columnExpression column level :: ·) ih
    | aggregate | rowCount | unit => exact ih

end Dialect

/-- Words that call a function which makes one value of several rows. -/
def Lexeme.IsAggregate (ls : List Lexeme) : Prop :=
  ∃ function ∈ ["SUM", "MIN", "MAX", "COUNT"], ∃ rest arguments,
    ls = .word function :: .mark '(' :: rest ∧ Lexeme.enclosed? rest = some arguments

namespace Clauses

variable {plan : Plan}

/-- The clauses of a statement group by some keys. -/
structure Groups (d : Dialect) (clauses : Clauses) (keys : List KeyColumn) : Prop where
  groupBy : clauses.groupBy = keys.map (·.words d)
  /-- Each key is an item of the select list, at its place and under its name. -/
  items : ∀ key ∈ keys, clauses.items[key.place]? = some (key.words d, key.name)
  /-- Every other item makes one value of the rows of a group. -/
  others : ∀ place item, clauses.items[place]? = some item → place ∉ keys.map (·.place) →
    Lexeme.IsAggregate item.1

/-- What is no column is an aggregate, unless it is the constant of a row. -/
theorem isAggregate_expression (d : Dialect) {projection : Projection}
    (hcolumn : projection.isColumn = false) (hunit : projection ≠ .unit) :
    Lexeme.IsAggregate ((d.expression projection).flatMap d.lexemesOf) := by
  have hcall {function opening : String} {more : List Lexeme} (column : Column)
      (hfunction : function ∈ ["SUM", "MIN", "MAX", "COUNT"])
      (hopening : d.lexemesOf (.words opening) = .word function :: .mark '(' :: more)
      (hmore : more = [] ∨ more = [.word "DISTINCT"]) :
      Lexeme.IsAggregate ((.words opening :: [.name column.name] ++ [.words ")"]
        : Fragments).flatMap d.lexemesOf) := by
    have hwalk : Lexeme.walk (fun _ => false) 0 (more ++ [.quoted d.nameQuote column.name])
        = some 0 := by
      rcases hmore with rfl | rfl <;> rfl
    refine ⟨function, hfunction, _, _, ?_, Lexeme.enclosed?_append hwalk⟩
    simp [hopening, d.lexemesOf_close]
  cases projection with
  | column => cases hcolumn
  | unit => exact absurd rfl hunit
  | aggregate column aggregation =>
    cases aggregation with
    | sum | min | max | count =>
      exact hcall column (by decide) (Dialect.lexemesOf_words (by decide)) (.inl rfl)
    | distinctCount =>
      exact hcall column (by decide) (Dialect.lexemesOf_words (by decide)) (.inr rfl)
  | rowCount =>
    have hwords : d.lexemesOf (.words "COUNT(*)")
        = .word "COUNT" :: .mark '(' :: ([.word "*"] ++ [.mark ')']) :=
      Dialect.lexemesOf_words (by decide)
    rw [Dialect.expression, List.flatMap_singleton, hwords]
    exact ⟨"COUNT", by decide, _, _, rfl, Lexeme.enclosed?_append rfl⟩

theorem groups_ofPlan (d : Dialect) (hpushdown : plan.pushdown = true)
    (hunits : ∀ projection ∈ plan.projections, projection ≠ .unit) :
    (ofPlan d plan).Groups d plan.keys := by
  have hitems (place : Nat) : (ofPlan d plan).items[place]?
      = plan.projections[place]?.map fun projection =>
          ((d.expression projection).flatMap d.lexemesOf, placeName place) := by
    simp only [ofPlan, Plan.placed, List.getElem?_map, List.getElem?_zipIdx, Option.map_map,
      Nat.zero_add]
    rfl
  refine ⟨?_, fun key hkey => ?_, fun place item hitem hplace => ?_⟩
  · rw [ofPlan, d.groupExpressions_eq_map_keys hpushdown, List.map_map]
    rfl
  · have hat : plan.projections[key.place]? = some (.column key.column key.level) :=
      List.mk_mem_zipIdx_iff_getElem?.1 (Plan.mem_keys.1 hkey)
    rw [hitems, hat]
    rfl
  · rw [hitems] at hitem
    obtain ⟨projection, hat, rfl⟩ := Option.map_eq_some_iff.1 hitem
    refine isAggregate_expression d ?_ (hunits projection (List.mem_of_getElem? hat))
    cases projection with
    | column column level =>
      have hkey : (⟨column, level, place⟩ : KeyColumn) ∈ plan.keys :=
        Plan.mem_keys.2 (List.mk_mem_zipIdx_iff_getElem?.2 hat)
      exact absurd (List.mem_map.2 ⟨_, hkey, rfl⟩) hplace
    | aggregate | rowCount | unit => rfl

end Clauses

/-! ## Searches -/

namespace Search

variable {plan : Plan}

/-- The sources of the composite aggregation of a body are some keys, in order. -/
def Groups (body : Json) (keys : List KeyColumn) : Prop :=
  (body.at? (compositePath "sources")).bind Json.items?
    = some (keys.map fun key => .single key.name (groupSource key.column key.level))

theorem groupSources_eq_map_keys (plan : Plan) :
    groupSources plan
      = plan.keys.map fun key => .single key.name (groupSource key.column key.level) :=
  (Plan.map_keys fun projection place => by cases projection <;> rfl).symm

theorem groups_groupsBody (plan : Plan) (query : Json) :
    Groups (groupsBody plan query) plan.keys := by
  have hsources : (groupsBody plan query).at? (compositePath "sources")
      = some (.list (groupSources plan)) :=
    at?_composite_groupsBody plan query "sources"
  rw [Groups, hsources, groupSources_eq_map_keys]
  rfl

/-- A page is of the same groups. -/
theorem Groups.pageOf {body : Json} {keys : List KeyColumn} (h : Groups body keys)
    (continuation : Option Continuation) (batchSize : Nat) :
    Groups (pageOf .composite continuation batchSize body) keys := by
  have hset {name : String} (hname : "sources" ≠ name) (body value : Json) :
      (body.set (compositePath name) value).at? (compositePath "sources")
        = body.at? (compositePath "sources") :=
    at?_set_compositePath hname (by decide) body value
  unfold Groups Search.pageOf
  simp only
  split
  · rwa [hset (by decide), hset (by decide)]
  · rwa [hset (by decide)]

/-- No aggregation of a body makes buckets out of sources. -/
def GroupsNothing (body : Json) : Prop :=
  ∀ name, body.at? ["aggs", name, "composite"] = none

theorem groupsNothing_of_step {body : Json}
    (h : ∀ aggs, body.step? "aggs" = some aggs → ∀ name aggregation,
      aggs.step? name = some aggregation → aggregation.step? "composite" = none) :
    GroupsNothing body := by
  intro name
  simp only [Json.at?]
  cases haggs : body.step? "aggs" with
  | none => rfl
  | some aggs =>
    rw [Option.bind_some]
    cases haggregation : aggs.step? name with
    | none => rfl
    | some aggregation => rw [Option.bind_some, h aggs haggs name aggregation haggregation]; rfl

theorem groupsNothing_rowsBody (plan : Plan) (query : Json) :
    GroupsNothing (rowsBody plan query) := by
  refine groupsNothing_of_step fun aggs haggs => ?_
  rw [rowsBody, Json.ofMembers, Json.step?, Json.lookup_sortMembers] at haggs
  simp [Json.lookup] at haggs

theorem groupsNothing_totalsBody (plan : Plan) (query : Json) :
    GroupsNothing (totalsBody plan query) := by
  refine groupsNothing_of_step fun aggs haggs name aggregation haggregation => ?_
  rw [totalsBody, Json.ofMembers, Json.step?, Json.lookup_sortMembers, metricsMember] at haggs
  split at haggs
  · simp [Json.lookup] at haggs
  · obtain rfl : Json.ofMembers (metrics plan) = aggs := by simpa [Json.lookup] using haggs
    rw [Json.ofMembers, Json.step?] at haggregation
    obtain ⟨placed, -, hmetric⟩ :=
      List.mem_filterMap.1 (Json.mem_of_lookup_sortMembers haggregation)
    obtain ⟨projection, place⟩ := placed
    cases projection with
    | aggregate column aggregation => cases hmetric; cases aggregation <;> rfl
    | column | rowCount | unit => cases hmetric

theorem get?_totalsBody (plan : Plan) (query : Json) :
    (totalsBody plan query).get? "size" = some (.int 0)
      ∧ (totalsBody plan query).get? "track_total_hits" = some (.bool true) := by
  simp only [totalsBody, Json.ofMembers, Json.get?, Json.lookup_sortMembers, metricsMember]
  split <;> simp [Json.lookup]

end Search

/-! ## Pipelines -/

namespace Document

variable {plan : Plan}

/-- The members of the one group stage of a pipeline. -/
def IsGroupStage (pipeline : List Json) (members : Members) : Prop :=
  pipeline.filterMap (Json.get? "$group") = [.object members]

/-- The id of the one group stage of a pipeline is the object of some keys. -/
def Groups (pipeline : List Json) (keys : List KeyColumn) : Prop :=
  ∃ members ids, IsGroupStage pipeline members ∧ Json.lookup "_id" members = some (.object ids)
    ∧ ids.Perm (keys.map fun key => (key.name, key.groupKey.toJson))

/-- The one group stage of a pipeline makes one group of everything. -/
def GroupsNothing (pipeline : List Json) : Prop :=
  ∃ members, IsGroupStage pipeline members ∧ Json.lookup "_id" members = some .null

theorem groupKeys_eq_map_keys (plan : Plan) :
    groupKeys plan = plan.keys.map fun key => (key.name, key.groupKey) :=
  (Plan.map_keys fun projection place => by
    cases projection with
    | column column level => cases level <;> rfl
    | aggregate | rowCount | unit => rfl).symm

theorem isGroupStage_pipelineOf (plan : Plan) :
    ∃ members, IsGroupStage (pipelineOf plan) members
      ∧ Json.lookup "_id" members = some (keysJson (groupKeys plan)) := by
  have hmatching (selector : Selector) : (Stage.matching selector).toJson.get? "$group" = none :=
    rfl
  have hproject (finishes : List (String × Finish)) :
      (Stage.project finishes).toJson.get? "$group" = none := rfl
  have hgroup (keys : List (String × GroupKey)) (accumulators : List (String × Accumulator)) :
      (Stage.group keys accumulators).toJson.get? "$group" = some (.ofMembers
        (("_id", keysJson keys) :: accumulators.map fun a => (a.1, a.2.toJson))) := rfl
  refine ⟨_, ?_, Json.lookup_sortMembers_of_mem
    (nodup_id_accumulators plan _ fun a => a.2.toJson) List.mem_cons_self⟩
  rw [IsGroupStage, pipelineOf, stages]
  split <;> split <;> simp [hmatching, hgroup, hproject, Json.ofMembers]

/-- The group stage of a plan with keys has them as its id. -/
theorem groups_pipelineOf (hkeys : plan.keys ≠ []) : Groups (pipelineOf plan) plan.keys := by
  obtain ⟨members, hstage, hid⟩ := isGroupStage_pipelineOf plan
  have hne : (groupKeys plan).isEmpty = false := by
    rw [groupKeys_eq_map_keys, List.isEmpty_map]
    exact List.isEmpty_eq_false_iff.2 hkeys
  have hentries : (groupKeys plan).map (fun k => (k.1, k.2.toJson))
      = plan.keys.map fun key => (key.name, key.groupKey.toJson) := by
    rw [groupKeys_eq_map_keys, List.map_map]
    rfl
  rw [keysJson, hne, hentries] at hid
  refine ⟨members, _, hstage, hid, Json.perm_sortMembers ?_⟩
  rw [List.map_map]
  exact Plan.nodup_keyNames plan

/-- The group stage of a plan without keys makes one group. -/
theorem groupsNothing_pipelineOf (hkeys : plan.keys = []) : GroupsNothing (pipelineOf plan) := by
  obtain ⟨members, hstage, hid⟩ := isGroupStage_pipelineOf plan
  refine ⟨members, hstage, ?_⟩
  rw [hid, groupKeys_eq_map_keys, hkeys]
  rfl

end Document

/-! ## Compiled queries -/

namespace BackendKind

/-- A query groups by some keys, and so does every page of it. -/
def Groups (kind : BackendKind) (compiled : CompiledQuery) (keys : List KeyColumn) : Prop :=
  match compiled.native with
  | .statement text orderBy => orderBy = keys.map (·.place + 1)
    ∧ ∃ d clauses, kind.dialect? = some d ∧ Clauses.read? d text = some clauses
      ∧ clauses.Groups d keys
      ∧ ∀ continuation batchSize, ∃ page window,
          kind.pageQuery compiled continuation batchSize = .statement page orderBy
          ∧ PageWindow.read? d text page = some window ∧ window.orderBy = orderBy
  | .search index body mode => kind = .elasticsearch ∧ mode = .composite ∧ Search.Groups body keys
    ∧ ∀ continuation batchSize, ∃ page,
        kind.pageQuery compiled continuation batchSize = .search index page mode
        ∧ Search.Groups page keys
  | .aggregate collection pipeline _ => kind = .mongodb ∧ Document.Groups pipeline keys
    ∧ ∀ continuation batchSize,
        kind.pageQuery compiled continuation batchSize
          = .aggregate collection pipeline (some batchSize)
  | .find .. => False

/-- A query makes no groups. -/
def GroupsNothing (kind : BackendKind) (native : NativeQuery) : Prop :=
  match native with
  | .statement text _ => ∃ d clauses, kind.dialect? = some d
    ∧ Clauses.read? d text = some clauses ∧ clauses.groupBy = []
  | .search _ body mode => kind = .elasticsearch ∧ mode ≠ .composite ∧ Search.GroupsNothing body
  | .aggregate _ pipeline _ => kind = .mongodb ∧ Document.GroupsNothing pipeline
  | .find .. => kind = .mongodb

/-- A query asks for one row over everything, and needs no page clause for it. -/
def AsksTotals (kind : BackendKind) (compiled : CompiledQuery) : Prop :=
  match compiled.native with
  | .statement text orderBy => orderBy = []
    ∧ ∀ continuation batchSize,
        kind.pageQuery compiled continuation batchSize = .statement text []
  | .search index body mode => mode = .totals ∧ body.get? "size" = some (.int 0)
    ∧ body.get? "track_total_hits" = some (.bool true)
    ∧ ∀ continuation batchSize,
        kind.pageQuery compiled continuation batchSize = .search index body .totals
  | .aggregate .. => True
  | .find .. => False

variable {options : FilterOptions} {schema : Schema} {request : Request} {plan : Plan}

/-- A compiled query has the shape and the group count of its plan. -/
theorem counts_compile (kind : BackendKind) (plan : Plan) :
    (kind.compile plan).shape = plan.shape
      ∧ (kind.compile plan).groupCount = plan.groupCount := by
  cases kind with
  | mysql | postgres | sqlserver => exact ⟨rfl, rfl⟩
  | elasticsearch =>
    simp only [compile, Search.compile]
    split <;> exact ⟨rfl, rfl⟩
  | mongodb =>
    simp only [compile, Document.compile]
    split <;> exact ⟨rfl, rfl⟩

/-- A statement for groups is grouped by the keys of its plan. -/
theorem groups_compile_dialect (d : Dialect) (hpushdown : plan.pushdown = true)
    (hunits : ∀ projection ∈ plan.projections, projection ≠ .unit) (hkeys : plan.keys ≠ []) :
    d.kind.Groups (d.compile plan) plan.keys := by
  have hshape : plan.shape ≠ .aggregate := (Plan.shape_eq_aggregate_iff hpushdown).not.2 hkeys
  have hdialect : d.kind.dialect? = some d := by cases d <;> rfl
  refine ⟨Dialect.columnOrdinals_eq_map_keys plan, d, _, hdialect, Clauses.read?_statement d plan,
    Clauses.groups_ofPlan d hpushdown hunits, fun continuation batchSize => ?_⟩
  rw [Dialect.pageQuery_compile hshape, Dialect.statementPage_offset]
  exact ⟨_, _, rfl, PageWindow.read?_paginate d _ ⟨_, _, _⟩, rfl⟩

theorem groups_compile (kind : BackendKind) (hpushdown : plan.pushdown = true)
    (hunits : ∀ projection ∈ plan.projections, projection ≠ .unit) (hkeys : plan.keys ≠ []) :
    kind.Groups (kind.compile plan) plan.keys := by
  have hshape : plan.shape = .grouped := by
    rw [Plan.shape, if_neg (by simp [hpushdown]), Plan.groupCount_eq_length_keys hpushdown]
    exact if_neg (by simpa using hkeys)
  cases kind with
  | mysql => exact groups_compile_dialect .mySql hpushdown hunits hkeys
  | postgres => exact groups_compile_dialect .postgres hpushdown hunits hkeys
  | sqlserver => exact groups_compile_dialect .sqlServer hpushdown hunits hkeys
  | elasticsearch =>
    have hgroups := Search.groups_groupsBody plan
      (Search.Clause.ofConjunction plan.predicates).toJson
    simp only [Groups, compile, Search.compile, hshape]
    exact ⟨trivial, trivial, hgroups, fun continuation batchSize => ⟨_, rfl, hgroups.pageOf _ _⟩⟩
  | mongodb =>
    simp only [Groups, compile, Document.compile, hshape]
    exact ⟨trivial, Document.groups_pipelineOf hkeys, fun continuation batchSize => rfl⟩

theorem groupsNothing_compile_dialect (d : Dialect)
    (hnone : plan.pushdown = true → plan.keys = []) :
    d.kind.GroupsNothing (d.compile plan).native := by
  have hdialect : d.kind.dialect? = some d := by cases d <;> rfl
  refine ⟨d, _, hdialect, Clauses.read?_statement d plan, ?_⟩
  cases hpushdown : plan.pushdown with
  | false => simp [Clauses.ofPlan, Dialect.groupExpressions, hpushdown]
  | true =>
    rw [Clauses.ofPlan, d.groupExpressions_eq_map_keys hpushdown, hnone hpushdown]
    rfl

/-- Without a group key a query makes no groups. -/
theorem groupsNothing_compile (kind : BackendKind)
    (hnone : plan.pushdown = true → plan.keys = []) :
    kind.GroupsNothing (kind.compile plan).native := by
  cases kind with
  | mysql => exact groupsNothing_compile_dialect .mySql hnone
  | postgres => exact groupsNothing_compile_dialect .postgres hnone
  | sqlserver => exact groupsNothing_compile_dialect .sqlServer hnone
  | elasticsearch =>
    cases hpushdown : plan.pushdown with
    | false =>
      have hshape : plan.shape = .rows := if_pos (by simp [hpushdown])
      simp only [GroupsNothing, compile, Search.compile, hshape]
      exact ⟨trivial, by decide, Search.groupsNothing_rowsBody plan _⟩
    | true =>
      have hshape := (Plan.shape_eq_aggregate_iff hpushdown).2 (hnone hpushdown)
      simp only [GroupsNothing, compile, Search.compile, hshape]
      exact ⟨trivial, by decide, Search.groupsNothing_totalsBody plan _⟩
  | mongodb =>
    cases hpushdown : plan.pushdown with
    | false =>
      have hshape : plan.shape = .rows := if_pos (by simp [hpushdown])
      simp only [GroupsNothing, compile, Document.compile, hshape]
    | true =>
      have hshape := (Plan.shape_eq_aggregate_iff hpushdown).2 (hnone hpushdown)
      simp only [GroupsNothing, compile, Document.compile, hshape]
      exact ⟨trivial, Document.groupsNothing_pipelineOf (hnone hpushdown)⟩

/-- A query for a single row needs no page clause. -/
theorem asksTotals_compile (kind : BackendKind) (hpushdown : plan.pushdown = true)
    (hkeys : plan.keys = []) :
    kind.AsksTotals (kind.compile plan) ∧ (kind.compile plan).strategy = .singleShot := by
  have hshape : plan.shape = .aggregate := (Plan.shape_eq_aggregate_iff hpushdown).2 hkeys
  have hordinals : Dialect.columnOrdinals plan = [] := by
    rw [Dialect.columnOrdinals_eq_map_keys, hkeys]
    rfl
  cases kind with
  | mysql | postgres | sqlserver =>
    refine ⟨⟨hordinals, fun continuation batchSize => ?_⟩, if_pos hshape⟩
    simp [pageQuery, compile, statementPage, Dialect.compile, hordinals, hshape]
  | elasticsearch =>
    have hmembers := Search.get?_totalsBody plan
      (Search.Clause.ofConjunction plan.predicates).toJson
    simp only [AsksTotals, compile, Search.compile, hshape]
    exact ⟨⟨trivial, hmembers.1, hmembers.2, fun continuation batchSize => rfl⟩, trivial⟩
  | mongodb =>
    simp only [AsksTotals, compile, Document.compile, hshape]
    exact ⟨trivial, trivial⟩

/-- **The group count and the grouping of a query agree with the group keys of its request.** Rows
of a dataset are not grouped. With pushdown the group count is the number of group keys. If there is
none, the query asks for one row over everything, in one page, and makes no groups. Otherwise it
groups by the keys of the request, in their order and each under the name of its place, and by
nothing else; its pages follow the order of the keys. -/
theorem groups_keys (h : Plan.build options schema request = .ok plan) (kind : BackendKind) :
    (request.pushdown = false → (kind.compile plan).shape = .rows
      ∧ (kind.compile plan).groupCount = 0 ∧ kind.GroupsNothing (kind.compile plan).native)
    ∧ (request.pushdown = true →
      (kind.compile plan).groupCount = request.columns.countP RequestedColumn.isKey
      ∧ ((kind.compile plan).shape = .aggregate
        ↔ request.columns.countP RequestedColumn.isKey = 0)
      ∧ (request.columns.countP RequestedColumn.isKey = 0 →
        (kind.compile plan).strategy = .singleShot ∧ kind.AsksTotals (kind.compile plan)
        ∧ kind.GroupsNothing (kind.compile plan).native)
      ∧ (0 < request.columns.countP RequestedColumn.isKey →
        ∃ dataset keys, schema.resolve request.datasetId = .ok dataset
          ∧ List.Forall₂ (KeyColumn.IsRequested dataset)
              (request.columns.zipIdx.filter fun requested => requested.1.isKey) keys
          ∧ kind.Groups (kind.compile plan) keys)) := by
  obtain ⟨dataset, hdataset, -, -, hpushdown, hprojections, -⟩ := Plan.build_ok h
  obtain ⟨hshape, hcount⟩ := kind.counts_compile plan
  rw [hshape, hcount]
  refine ⟨fun hrows => ?_, fun hgroups => ?_⟩
  · have hplan : plan.pushdown = false := hpushdown.trans hrows
    refine ⟨if_pos (by simp [hplan]), if_neg (by simp [hplan]), ?_⟩
    exact groupsNothing_compile kind fun htrue => by rw [hplan] at htrue; cases htrue
  · have hplan : plan.pushdown = true := hpushdown.trans hgroups
    rw [hgroups] at hprojections
    have hkeys := Plan.keys_requested hprojections 0
    have hlength : plan.keys.length = request.columns.countP RequestedColumn.isKey := by
      rw [← Plan.length_filter_isKey request.columns 0]
      exact hkeys.length_eq.symm
    have hnil : request.columns.countP RequestedColumn.isKey = 0 ↔ plan.keys = [] := by
      rw [← hlength, List.length_eq_zero_iff]
    refine ⟨(Plan.groupCount_eq_length_keys hplan).trans hlength,
      (Plan.shape_eq_aggregate_iff hplan).trans hnil.symm, fun hzero => ?_, fun hpos => ?_⟩
    · have hkeys := hnil.1 hzero
      have htotals := asksTotals_compile kind hplan hkeys
      exact ⟨htotals.2, htotals.1, groupsNothing_compile kind fun _ => hkeys⟩
    · have hne : plan.keys ≠ [] := fun hkeys => Nat.ne_of_gt hpos (hnil.2 hkeys)
      exact ⟨dataset, plan.keys, hdataset, hkeys,
        groups_compile kind hplan (Plan.ne_unit_of_project hprojections) hne⟩

/-- The total of the orders of each month and status, and their number. -/
theorem groups_keys_orders :
    let created : Column := ⟨"created", "CREATED", .datetime, "timestamp", "orders", false⟩
    let total : Column := ⟨"total", "TOTAL", .numeric, "numeric", "orders", false⟩
    let status : Column := ⟨"status", "STATUS", .hierarchy, "text", "orders", false⟩
    let request : Request :=
      ⟨"orders", [⟨"created", none, some .month⟩, ⟨"total", some .sum, none⟩,
        ⟨"status", none, some .day⟩, ⟨"*", none, none⟩], [], true⟩
    let orders : Dataset := ⟨"orders", "ORDERS", [created, total, status],
      [("created", 0), ("total", 1), ("status", 2)]⟩
    ∃ plan keys, Plan.build .exact ⟨[orders]⟩ request = .ok plan
      ∧ (postgres.compile plan).groupCount = 2 ∧ keys.map KeyColumn.name = ["c0", "c2"]
      ∧ postgres.Groups (postgres.compile plan) keys := by
  intro created total status request orders
  have hok : (Plan.build .exact ⟨[orders]⟩ request).isOk = true := by decide +kernel
  cases hplan : Plan.build .exact ⟨[orders]⟩ request with
  | error cause =>
    rw [hplan] at hok
    cases hok
  | ok plan =>
    obtain ⟨hcount, -, -, hkeys⟩ := (groups_keys hplan .postgres).2 rfl
    obtain ⟨dataset, keys, -, hrequested, hkeys⟩ := hkeys (by decide)
    refine ⟨plan, keys, rfl, hcount, ?_, hkeys⟩
    cases hrequested with
    | cons h h' =>
      cases h' with
      | cons h' h'' =>
        cases h''
        simp only [List.map_cons, List.map_nil, KeyColumn.name, h.place, h'.place]
        rfl

end BackendKind

end Pushdown
