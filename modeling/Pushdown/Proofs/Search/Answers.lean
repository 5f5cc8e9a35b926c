import Mathlib.Data.List.Forall2
import Pushdown.Proofs.Json.Members
import Pushdown.Proofs.Query.Answers
import Pushdown.Search.Response

/-!
# What a search for groups is answered with

A search for groups asks for group keys as the sources of a composite aggregation and for values as
metrics, each under a name of its own (`Search.sourcesAsked`, `Search.metricsAsked`). A response
that answers it (`Search.Answers`) writes down some groups: for every name a key or the value of a
metric, and how many documents there are. `Search.normalize_answers` is that reading a response
gives back the groups that were written down, each as the row the plan asks for: the value in a cell
is the one answered for the key or metric that the cell's own projection asked for.
-/

namespace Pushdown

/-- Whether a value holds no others. -/
def Json.IsScalar : Json → Prop
  | .list _ | .object _ => False
  | _ => True

/-- A value that holds no others is read as it is. -/
theorem metricValue_of_isScalar {value : Json} (h : value.IsScalar) :
    metricValue value = value := by
  cases value with
  | list | object => exact h.elim
  | null | bool | int | float | text => rfl

namespace Search

/-! ## Questions -/

/-- The group keys that a body asks for, by name. -/
def sourcesAsked (body : Json) : Members :=
  (((body.at? (compositePath "sources")).bind Json.items?).getD []).flatMap fun source =>
    source.members?.getD []

/-- Where the body of a search holds its metrics. -/
def metricsPath : SearchMode → List String
  | .composite => ["aggs", groupsName, "aggs"]
  | .totals | .hits _ => ["aggs"]

/-- The metrics that a body asks for, by name. -/
def metricsAsked (mode : SearchMode) (body : Json) : Members :=
  ((body.at? (metricsPath mode)).bind Json.members?).getD []

/-- A body asks for what a projection needs, under the name of its place. The number of documents
is answered unasked. -/
def AskedFor (mode : SearchMode) (body : Json) : Projection × Nat → Prop
  | (.column column level, place) =>
    Json.lookup (placeName place) (sourcesAsked body) = some (groupSource column level)
  | (.aggregate column aggregation, place) =>
    Json.lookup (placeName place) (metricsAsked mode body) = some (metric column aggregation)
  | _ => True

/-! ## Answers -/

/-- A group: its keys and the values of its metrics by name, and the number of its documents. -/
structure Group where
  key : String → Json
  metric : String → Json
  count : Nat

/-- What a group answers to a projection. -/
def Group.answer (group : Group) : Projection × Nat → Json
  | (.column .., place) => group.key (placeName place)
  | (.aggregate .., place) => group.metric (placeName place)
  | (.rowCount, _) => .int group.count
  | (.unit, _) => .int 1

/-- An object holds the metrics of a group that were asked for. Beside its value a metric may have
members of any kind. -/
def HoldsMetrics (asked : Members) (group : Group) (holder : Json) : Prop :=
  ∀ name ∈ asked.map Prod.fst,
    ∃ metric, holder.get? name = some metric ∧ metric.get? "value" = some (group.metric name)

/-- A number of documents is written as an unsigned 64-bit integer. -/
def WritesCount (group : Group) (value : Json) : Prop :=
  value = .int group.count ∧ group.count ≤ Binary64.nat64Max

/-- A bucket writes down a group. -/
structure WritesBucket (body : Json) (group : Group) (bucket : Json) : Prop where
  /-- The keys asked for are scalars, and no metric is among them. -/
  keys : ∃ keys, bucket.get? "key" = some (.object keys)
    ∧ (∀ name ∈ (sourcesAsked body).map Prod.fst,
        Json.lookup name keys = some (group.key name) ∧ (group.key name).IsScalar)
    ∧ ∀ name ∈ (metricsAsked .composite body).map Prod.fst, Json.lookup name keys = none
  metrics : HoldsMetrics (metricsAsked .composite body) group bucket
  count : ∃ value, bucket.get? "doc_count" = some value ∧ WritesCount group value

/-- A response writes down the group of everything. Without metrics it may leave out their
object. -/
structure WritesTotals (body : Json) (group : Group) (response : Json) : Prop where
  metrics : HoldsMetrics (metricsAsked .totals body) group
    ((response.get? "aggregations").getD .null)
  /-- The number of documents found stands for itself or in a `value` member. -/
  count : ∃ total, response.at? ["hits", "total"] = some total
    ∧ (WritesCount group total ∨ ∃ value, total.get? "value" = some value ∧ WritesCount group value)

/-- A response answers a search with some groups. -/
inductive Answers (body response : Json) : SearchMode → List Group → Prop
  /-- A search for groups is answered with a bucket for each of them, in order. -/
  | groups {answered : Json} {buckets : List Json} {groups : List Group}
      (hanswered : response.at? ["aggregations", groupsName] = some answered)
      (hbuckets : answered.get? "buckets" = some (.list buckets))
      (hgroups : List.Forall₂ (WritesBucket body) groups buckets) :
      Answers body response .composite groups
  /-- A search over everything is answered with one group. -/
  | totals {group : Group} (htotals : WritesTotals body group response) :
      Answers body response .totals [group]

variable {plan : Plan} {query body response bucket : Json} {group : Group}

/-! ## Every projection is asked for -/

/-- What stands under `aggs` in the body of a search for groups. -/
theorem at?_groupsBody (plan : Plan) (query : Json) (path : List String) :
    (groupsBody plan query).at? ("aggs" :: groupsName :: path)
      = (Json.ofMembers (("composite", .single "sources" (.list (groupSources plan)))
          :: metricsMember plan)).at? path := by
  have haggs (size query aggs : Json) :
      Json.lookup "aggs" (Json.sortMembers [("size", size), ("query", query), ("aggs", aggs)])
        = some aggs :=
    Json.lookup_insertMember_self _ _ _
  simp only [groupsBody, Json.at?, Json.ofMembers, Json.step?, haggs, Option.bind_some, Json.single,
    Json.lookup, if_true]

/-- What stands under `composite` in the body of a search for groups: the sources and no more. -/
theorem at?_composite_groupsBody (plan : Plan) (query : Json) (name : String) :
    (groupsBody plan query).at? (compositePath name)
      = (Json.single "sources" (.list (groupSources plan))).at? [name] := by
  have hne : "composite" ≠ "aggs" := by decide
  have hcomposite (sources : Json) :
      Json.lookup "composite" (Json.sortMembers (("composite", sources) :: metricsMember plan))
        = some sources := by
    unfold metricsMember
    split
    · rfl
    · exact Json.lookup_insertMember_of_ne hne _ _
  rw [compositePath, at?_groupsBody, Json.ofMembers, Json.at?, Json.step?, hcomposite,
    Option.bind_some]

/-- Setting a member of the composite aggregation leaves its siblings alone. -/
theorem at?_set_compositePath {name other : String} (h : other ≠ name)
    (hother : Json.indexOf? other = none) (body value : Json) :
    (body.set (compositePath name) value).at? (compositePath other)
      = body.at? (compositePath other) := by
  have hpath : ∀ step ∈ ["aggs", groupsName, "composite"], Json.indexOf? step = none := by decide
  exact Json.at?_set_sibling h hpath hother body value

/-- The sources that the body of a search for groups asks for. -/
theorem sourcesAsked_groupsBody (plan : Plan) (query : Json) :
    sourcesAsked (groupsBody plan query)
      = plan.placed.filterMap fun
          | (.column column level, place) => some (placeName place, groupSource column level)
          | _ => none := by
  have hsources : (groupsBody plan query).at? (compositePath "sources")
      = some (.list (groupSources plan)) :=
    at?_composite_groupsBody plan query "sources"
  rw [sourcesAsked, hsources, Option.bind_some, Json.items?, Option.getD_some, groupSources]
  induction plan.placed with
  | nil => rfl
  | cons placed rest ih =>
    obtain ⟨projection, place⟩ := placed
    cases projection <;> simpa [Json.single, Json.members?] using ih

/-- The metrics that stand in a body beside other members, which have other names. -/
theorem metrics_of_body {path : List String} {members : Members}
    (hothers : Json.lookup "aggs" members = none)
    (hbody : body.at? path = (Json.ofMembers (members ++ metricsMember plan)).at? ["aggs"]) :
    ((body.at? path).bind Json.members?).getD [] = Json.sortMembers (metrics plan) := by
  have hread (value : Json) : value.at? ["aggs"] = value.step? "aggs" :=
    Option.bind_fun_some _
  rw [hbody, hread, Json.ofMembers, Json.step?, metricsMember]
  split
  · next hempty =>
    rw [Json.lookup_eq_none_iff, ← List.mem_reverse, ← List.map_reverse,
      ← Json.lookup_eq_none_iff] at hothers
    rw [List.append_nil, Json.lookup_sortMembers, hothers, List.isEmpty_iff.1 hempty]
    rfl
  · rw [Json.sortMembers_concat, Json.lookup_insertMember_self]
    rfl

/-- The metrics that the body of a search for groups asks for. -/
theorem metricsAsked_groupsBody (plan : Plan) (query : Json) :
    metricsAsked .composite (groupsBody plan query) = Json.sortMembers (metrics plan) := by
  have hothers : Json.lookup "aggs"
      [("composite", .single "sources" (.list (groupSources plan)))] = none := by
    simp [Json.lookup]
  exact metrics_of_body hothers (at?_groupsBody plan query ["aggs"])

/-- The metrics that the body of a search over everything asks for. -/
theorem metricsAsked_totalsBody (plan : Plan) (query : Json) :
    metricsAsked .totals (totalsBody plan query) = Json.sortMembers (metrics plan) :=
  metrics_of_body (by simp [Json.lookup]) rfl

/-- The metric of an aggregation is found under the name of its place. -/
theorem lookup_metrics {column : Column} {aggregation : Aggregation} {place : Nat}
    (h : (.aggregate column aggregation, place) ∈ plan.placed) :
    Json.lookup (placeName place) (Json.sortMembers (metrics plan))
      = some (metric column aggregation) := by
  refine Json.lookup_sortMembers_of_mem (Plan.nodup_names fun placed member hmember => ?_)
    (List.mem_filterMap.2 ⟨_, h, rfl⟩)
  obtain ⟨projection, place⟩ := placed
  cases projection <;> cases hmember
  rfl

/-- The body of a search for groups asks for every projection. -/
theorem askedFor_groupsBody (plan : Plan) (query : Json) :
    ∀ placed ∈ plan.placed, AskedFor .composite (groupsBody plan query) placed := by
  rintro ⟨projection, place⟩ hplaced
  cases projection with
  | column column level =>
    rw [AskedFor, sourcesAsked_groupsBody]
    refine Json.lookup_eq_some_of_mem (Plan.nodup_names fun placed member hmember => ?_)
      (List.mem_filterMap.2 ⟨_, hplaced, rfl⟩)
    obtain ⟨projection, place⟩ := placed
    cases projection <;> cases hmember
    rfl
  | aggregate column aggregation =>
    rw [AskedFor, metricsAsked_groupsBody]
    exact lookup_metrics hplaced
  | rowCount | unit => trivial

/-- A plan for a single row has no group keys. -/
theorem isColumn_of_aggregate (hshape : plan.shape = .aggregate) {placed : Projection × Nat}
    (hplaced : placed ∈ plan.placed) : placed.1.isColumn = false := by
  rw [Plan.shape] at hshape
  split at hshape
  · cases hshape
  · next hpushdown =>
    split at hshape
    · next hcount =>
      rw [Plan.groupCount, if_pos (by simpa using hpushdown)] at hcount
      have hnone := List.countP_eq_zero.1 hcount placed.1
        (List.fst_mem_of_mem_zipIdx hplaced)
      simpa using hnone
    · cases hshape

/-- The body of a search over everything asks for every projection. -/
theorem askedFor_totalsBody (hshape : plan.shape = .aggregate) (query : Json) :
    ∀ placed ∈ plan.placed, AskedFor .totals (totalsBody plan query) placed := by
  rintro ⟨projection, place⟩ hplaced
  cases projection with
  | column => cases isColumn_of_aggregate hshape hplaced
  | aggregate column aggregation =>
    rw [AskedFor, metricsAsked_totalsBody]
    exact lookup_metrics hplaced
  | rowCount | unit => trivial

/-! ## Every answer is found -/

theorem WritesCount.nat64? {value : Json} (h : WritesCount group value) :
    value.nat64? = some group.count := by
  obtain ⟨rfl, hle⟩ := h
  exact if_pos ⟨Int.natCast_nonneg _, Int.ofNat_le.2 hle⟩

/-- The cells of a bucket are what its group answers, if the keys and the metrics are found. -/
theorem normalize_bucket {keys values : Members}
    (hkeys : ∀ column level place, (.column column level, place) ∈ plan.placed →
      Json.lookup (placeName place) keys = some (group.key (placeName place))
        ∧ (group.key (placeName place)).IsScalar)
    (hmetrics : ∀ column aggregation place, (.aggregate column aggregation, place) ∈ plan.placed →
      Json.lookup (placeName place) keys = none
        ∧ ∃ metric, Json.lookup (placeName place) values = some metric
          ∧ metric.get? "value" = some (group.metric (placeName place))) :
    normalize (plan.outputs .places) (.bucket keys values (some group.count))
      = plan.rowOf group.answer := by
  refine Plan.normalize_eq_rowOf ?_
  rintro ⟨projection, place⟩ hplaced
  cases projection with
  | column column level =>
    obtain ⟨hkey, hscalar⟩ := hkeys column level place hplaced
    have hread : (NativeRow.bucket keys values (some group.count)).extract place
        (Plan.output .places plan.pushdown (.column column level, place))
          = group.key (placeName place) := by
      rw [NativeRow.extract, Plan.key_output, hkey]
      exact metricValue_of_isScalar hscalar
    exact congrArg (normalizeValue column.type) hread
  | aggregate column aggregation =>
    obtain ⟨hnone, metric, hmetric, hvalue⟩ := hmetrics column aggregation place hplaced
    have hread : (NativeRow.bucket keys values (some group.count)).extract place
        (Plan.output .places plan.pushdown (.aggregate column aggregation, place))
          = group.metric (placeName place) := by
      rw [NativeRow.extract, Plan.key_output, hnone, hmetric]
      exact congrArg (Option.getD · metric) hvalue
    have hcell : (NativeRow.bucket keys values (some group.count)).cell
        (Plan.output .places plan.pushdown (.aggregate column aggregation, place)) place
          = normalizeValue (Plan.output .places plan.pushdown
              (.aggregate column aggregation, place)).type (group.metric (placeName place)) := by
      rw [← hread]
      cases aggregation <;> rfl
    rw [hcell, Plan.type_output]
    rfl
  | rowCount | unit => rfl

/-- The row of a bucket is the one asked for. -/
theorem normalize_bucketRow (hasked : ∀ placed ∈ plan.placed, AskedFor .composite body placed)
    (hbucket : WritesBucket body group bucket) :
    normalize (plan.outputs .places) (bucketRow bucket) = plan.rowOf group.answer := by
  obtain ⟨⟨keys, hkey, hkeys, hothers⟩, hmetrics, value, hcount, hvalue⟩ := hbucket
  cases bucket with
  | object members =>
    rw [Json.get?] at hkey hcount
    rw [bucketRow, hkey, hcount, Option.bind_some, Option.bind_some, hvalue.nat64?]
    refine normalize_bucket (fun column level place hplaced => ?_)
      (fun column aggregation place hplaced => ?_)
    · have hmem := Json.mem_of_lookup (hasked _ hplaced)
      exact hkeys _ (List.mem_map.2 ⟨_, hmem, rfl⟩)
    · have hmem : placeName place ∈ (metricsAsked .composite body).map Prod.fst :=
        List.mem_map.2 ⟨_, Json.mem_of_lookup (hasked _ hplaced), rfl⟩
      refine ⟨hothers _ hmem, ?_⟩
      rw [Json.lookup_eraseMember_of_ne (placeName_ne place (by decide)),
        Json.lookup_eraseMember_of_ne (placeName_ne place (by decide))]
      exact hmetrics _ hmem
  | null | bool | int | float | text | list => cases hkey

/-- The row of a response over everything is the one asked for. -/
theorem normalize_totals (hasked : ∀ placed ∈ plan.placed, AskedFor .totals body placed)
    (hshape : plan.shape = .aggregate) (htotals : WritesTotals body group response) :
    (totalsPage response).rows.map (normalize (plan.outputs .places))
      = [plan.rowOf group.answer] := by
  obtain ⟨hmetrics, total, htotal, hcount⟩ := htotals
  have hhits : totalHits? response = some group.count := by
    rw [totalHits?, htotal, Option.bind_some]
    obtain hcount | ⟨value, hvalue, hcount⟩ := hcount
    · rw [hcount.nat64?]
      rfl
    · have hnone : total.nat64? = none := by
        cases total with
        | object => rfl
        | null | bool | int | float | text | list => cases hvalue
      rw [hnone, hvalue, Option.bind_some, hcount.nat64?]
      rfl
  rw [totalsPage, List.map_singleton, hhits]
  refine congrArg List.singleton (normalize_bucket (fun column level place hplaced => ?_)
    (fun column aggregation place hplaced => ?_))
  · cases isColumn_of_aggregate hshape hplaced
  · obtain ⟨metric, hmetric, hvalue⟩ :=
      hmetrics _ (List.mem_map.2 ⟨_, Json.mem_of_lookup (hasked _ hplaced), rfl⟩)
    refine ⟨rfl, metric, ?_, hvalue⟩
    cases haggregations : response.get? "aggregations" with
    | none =>
      rw [haggregations] at hmetric
      cases hmetric
    | some aggregations =>
      rw [haggregations, Option.getD_some] at hmetric
      cases aggregations with
      | object members => exact hmetric
      | null | bool | int | float | text | list => cases hmetric

/-- The mode in which the groups of a shape are searched for. -/
def modeOf : Shape → SearchMode
  | .rows => .hits true
  | .grouped => .composite
  | .aggregate => .totals

/-- **A search for groups is answered by its projections.** The compiled query of a plan that pushes
grouping down asks for every group key and every aggregation of the plan under the name of its
place. From a response that answers it with some groups, a page is read whose rows are the ones the
plan asks for: one row for every group, in order, with a cell for every projection, which is what
the group answers under the projection's own name, as a value of its type. -/
theorem normalize_answers (hpushdown : plan.pushdown = true) :
    ∃ body, (compile plan).native = .search plan.datasetName body (modeOf plan.shape)
      ∧ (∀ placed ∈ plan.placed, AskedFor (modeOf plan.shape) body placed)
      ∧ ∀ response groups, Answers body response (modeOf plan.shape) groups →
        ∃ page, pageOfResponse (modeOf plan.shape) response = .ok page
          ∧ page.rows.map (normalize (compile plan).outputs)
            = groups.map fun group => plan.rowOf group.answer := by
  cases hshape : plan.shape with
  | rows =>
    by_cases hcount : plan.groupCount = 0 <;> simp [Plan.shape, hpushdown, hcount] at hshape
  | grouped =>
    have hasked := askedFor_groupsBody plan (Clause.ofConjunction plan.predicates).toJson
    refine ⟨_, by simp only [compile, hshape, modeOf], hasked, fun response groups hanswers => ?_⟩
    cases hanswers with
    | groups hanswered hbuckets hgroups =>
      refine ⟨_, by rw [modeOf, pageOfResponse, groupsPage, hanswered], ?_⟩
      simp only [compile, hshape, hbuckets, Option.bind_some, Json.items?, Option.getD_some,
        List.map_map]
      clear hbuckets
      induction hgroups with
      | nil => rfl
      | cons hbucket hrest ih =>
        exact congrArg₂ List.cons (normalize_bucketRow hasked hbucket) ih
  | aggregate =>
    have hasked := askedFor_totalsBody hshape (Clause.ofConjunction plan.predicates).toJson
    refine ⟨_, by simp only [compile, hshape, modeOf], hasked, fun response groups hanswers => ?_⟩
    cases hanswers with
    | totals htotals =>
      refine ⟨_, rfl, ?_⟩
      simp only [compile, hshape]
      exact normalize_totals hasked hshape htotals

section

/-- The plan for the sum of the amounts and the number of orders of each status. -/
def salesPlan : Plan :=
  ⟨"orders", "orders",
    [ .aggregate ⟨"amount", "amount", .numeric, "long", "orders", false⟩ .sum,
      .column ⟨"status", "status", .hierarchy, "keyword", "orders", false⟩ none, .rowCount ],
    [], true⟩

/-- The orders of one status. -/
def sales (status : Json) (amount : Json) (count : Nat) : Group :=
  ⟨fun _ => status, fun _ => amount, count⟩

/-- The bucket of the orders of one status. -/
def salesBucket (status : Json) (amount : Json) (count : Nat) : Json :=
  .object [("c0", .single "value" amount), ("doc_count", .int count), ("key", .single "c1" status)]

theorem writesBucket_sales (query amount : Json) {status : Json} (hstatus : status.IsScalar)
    {count : Nat} (hcount : count ≤ Binary64.nat64Max) :
    WritesBucket (groupsBody salesPlan query) (sales status amount count)
      (salesBucket status amount count) := by
  have hsources : (sourcesAsked (groupsBody salesPlan query)).map Prod.fst = ["c1"] := by
    rw [sourcesAsked_groupsBody]
    rfl
  have hmetrics : (metricsAsked .composite (groupsBody salesPlan query)).map Prod.fst = ["c0"] := by
    rw [metricsAsked_groupsBody]
    rfl
  refine ⟨⟨_, rfl, ?_, ?_⟩, ?_, _, rfl, rfl, hcount⟩
  · rw [hsources]
    simp [Json.lookup, sales, hstatus]
  · rw [hmetrics]
    simp [Json.lookup]
  · rw [HoldsMetrics, hmetrics]
    simp [salesBucket, Json.get?, Json.lookup, Json.single, sales]

/-- The answer for two statuses, one of them missing. -/
def salesResponse : Json :=
  .single "aggregations" (.single groupsName (.single "buckets" (.list
    [salesBucket (.text "open") (.text "30") 2, salesBucket .null (.int 5) 1])))

theorem answers_salesResponse (query : Json) :
    Answers (groupsBody salesPlan query) salesResponse .composite
      [sales (.text "open") (.text "30") 2, sales .null (.int 5) 1] := by
  have hopen := writesBucket_sales query (.text "30")
    (show (Json.text "open").IsScalar from trivial)
    (show 2 ≤ Binary64.nat64Max by decide)
  have hmissing := writesBucket_sales query (.int 5) (show Json.null.IsScalar from trivial)
    (show 1 ≤ Binary64.nat64Max by decide)
  exact .groups rfl rfl (.cons hopen (.cons hmissing .nil))

/-- The sum and the number of orders come out on either side of the status, also where the status
is missing. A sum written as a numeral is read as a number. -/
theorem normalize_answers_sales :
    salesPlan.pushdown = true
      ∧ ∃ page, pageOfResponse .composite salesResponse = .ok page
        ∧ page.rows.map (normalize (compile salesPlan).outputs)
          = [[.int 30, .text "open", .int 2], [.int 5, .null, .int 1]] := by
  have hpushdown : salesPlan.pushdown = true := rfl
  obtain ⟨body, hnative, -, hrows⟩ := normalize_answers hpushdown
  cases hnative
  obtain ⟨page, hpage, hnormal⟩ := hrows _ _ (answers_salesResponse _)
  exact ⟨rfl, page, hpage, hnormal.trans (by decide +kernel)⟩

end

end Search

end Pushdown
