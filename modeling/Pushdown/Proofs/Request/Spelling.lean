import Mathlib.Logic.Relation
import Pushdown.Proofs.Request.Records
import Pushdown.Request.Decode

/-!
# Every spelling of a request

A request is written as one object and may be spelled in many ways: `Request.Edit` is one change
from one spelling to another, at any level of the object. `Request.ofBytes_spelled` is that a
request is read back from every spelling that edits lead to from the one in which it is written, and
that an object that gives a field twice, under whatever names, is no request.

The request itself, its columns and its filters are records, so an edit of them is an edit of a
record (`Record.Edit`). What is inside a record is edited in turn: the items of the two lists, the
two words of one aggregation, and the objects among the values of a filter, whose members stand in
no order.
-/

namespace Pushdown

open Json (Source)
open Record (Part Edit RewritesItem)

/-- The two words for the number of distinct values. -/
inductive Aggregation.Rewords : Source → Source → Prop where
  | joined : Rewords (.text "distinct_count") (.text "distinctcount")
  | apart : Rewords (.text "distinctcount") (.text "distinct_count")

/-! ## Requested columns -/

namespace RequestedColumn

/-- The parts of a requested column. What is not asked for may be left out. -/
def parts : List Part :=
  [ ⟨⟨["column_id", "columnId"]⟩, fun _ => False, fun _ _ => False⟩,
    ⟨⟨["aggregation"]⟩, (· = .null), Aggregation.Rewords⟩,
    ⟨⟨["level"]⟩, (· = .null), fun _ _ => False⟩ ]

theorem fieldsOf_parts : Record.fieldsOf parts = fields := rfl

theorem distinct_fields : Record.Distinct fields := by decide

theorem respects_aggregation : Source.Respects Aggregation.Rewords
    (Record.optional (Record.word Aggregation.ofSpelling?)) := by
  rintro _ _ a (_ | _) h
  all_goals exact h

theorem ofSource?_eq_some_iff {source : Source} {c : RequestedColumn} :
    ofSource? source = some c
      ↔ ∃ columnId aggregation level,
        Record.slots? fields source = some [columnId, aggregation, level]
        ∧ Record.required Record.text columnId = some c.columnId
        ∧ Record.defaulted none (Record.optional (Record.word Aggregation.ofSpelling?)) aggregation
          = some c.aggregation
        ∧ Record.defaulted none (Record.optional (Record.word DateLevel.ofName?)) level
          = some c.level := by
  constructor
  · intro h
    obtain ⟨slots, hslots, h⟩ := Option.bind_eq_some_iff.1 h
    split at h
    · obtain ⟨_, hcolumnId, h⟩ := Option.bind_eq_some_iff.1 h
      obtain ⟨_, haggregation, h⟩ := Option.bind_eq_some_iff.1 h
      obtain ⟨_, hlevel, h⟩ := Option.bind_eq_some_iff.1 h
      cases h
      exact ⟨_, _, _, hslots, hcolumnId, haggregation, hlevel⟩
    · cases h
  · rintro ⟨columnId, aggregation, level, hslots, hcolumnId, haggregation, hlevel⟩
    rw [ofSource?, hslots]
    simp only [Option.bind_eq_bind, Option.bind_some, hcolumnId, haggregation, hlevel,
      Option.pure_def]

/-- A requested column is read the same in every spelling. -/
theorem respects_ofSource? : Source.Respects (Edit parts) ofSource? := by
  intro source source' c hedit hread
  obtain ⟨_, _, _, hslots, hcolumnId, haggregation, hlevel⟩ := ofSource?_eq_some_iff.1 hread
  obtain ⟨slots', hslots', hmoves⟩ := hedit.slots? fieldsOf_parts distinct_fields hslots
  obtain _ | ⟨hcolumnMove, _ | ⟨haggregationMove, _ | ⟨hlevelMove, ⟨⟩⟩⟩⟩ := hmoves
  refine ofSource?_eq_some_iff.2 ⟨_, _, _, hslots', ?_, ?_, ?_⟩
  · exact Record.required_of_moves hcolumnMove (fun _ => id) nofun hcolumnId
  · exact Record.defaulted_of_moves haggregationMove (by rintro _ rfl; rfl) respects_aggregation
      haggregation
  · exact Record.defaulted_of_moves hlevelMove (by rintro _ rfl; rfl) nofun hlevel

theorem slots?_ofJson (c : RequestedColumn) :
    Record.slots? fields (Source.ofJson c.toJson)
      = some [some (.text c.columnId), c.aggregation.map fun a => .text a.name,
        c.level.map fun l => .text l.name] := by
  obtain ⟨columnId, aggregation, level⟩ := c
  cases aggregation <;> cases level <;> rfl

/-- A requested column is read back from what is written of it. -/
theorem ofSource?_ofJson (c : RequestedColumn) : ofSource? (Source.ofJson c.toJson) = some c := by
  have haggregation : Record.defaulted none (Record.optional (Record.word Aggregation.ofSpelling?))
      (c.aggregation.map fun a => .text a.name) = some c.aggregation := by
    cases c.aggregation with
    | none => rfl
    | some aggregation => cases aggregation <;> rfl
  have hlevel : Record.defaulted none (Record.optional (Record.word DateLevel.ofName?))
      (c.level.map fun l => .text l.name) = some c.level := by
    cases c.level with
    | none => rfl
    | some level => exact congrArg (Option.map some) level.ofName?_name
  exact ofSource?_eq_some_iff.2 ⟨_, _, _, c.slots?_ofJson, rfl, haggregation, hlevel⟩

/-- A requested column that gives a field twice cannot be read. -/
theorem ofSource?_eq_none {source : Source} (h : Record.GivesTwice fields source) :
    ofSource? source = none := by
  rw [ofSource?, h.slots?_eq_none distinct_fields]
  rfl

end RequestedColumn

/-! ## Filters -/

namespace Filter

/-- The parts of a filter. Without values it may leave them out. -/
def parts : List Part :=
  [ ⟨⟨["column_id", "columnId"]⟩, fun _ => False, fun _ _ => False⟩,
    ⟨⟨["expression"]⟩, fun _ => False, fun _ _ => False⟩,
    ⟨⟨["value"]⟩, (· = .list []), RewritesItem Source.Reordered⟩ ]

theorem fieldsOf_parts : Record.fieldsOf parts = fields := rfl

theorem distinct_fields : Record.Distinct fields := by decide

theorem ofSource?_eq_some_iff {source : Source} {f : Filter} :
    ofSource? source = some f
      ↔ ∃ columnId test values, Record.slots? fields source = some [columnId, test, values]
        ∧ Record.required Record.text columnId = some f.columnId
        ∧ Record.required (Record.word FilterTest.ofSpelling?) test = some f.test
        ∧ Record.defaulted [] (Record.list Source.value?) values = some f.values := by
  constructor
  · intro h
    obtain ⟨slots, hslots, h⟩ := Option.bind_eq_some_iff.1 h
    split at h
    · obtain ⟨_, hcolumnId, h⟩ := Option.bind_eq_some_iff.1 h
      obtain ⟨_, htest, h⟩ := Option.bind_eq_some_iff.1 h
      obtain ⟨_, hvalues, h⟩ := Option.bind_eq_some_iff.1 h
      cases h
      exact ⟨_, _, _, hslots, hcolumnId, htest, hvalues⟩
    · cases h
  · rintro ⟨columnId, test, values, hslots, hcolumnId, htest, hvalues⟩
    rw [ofSource?, hslots]
    simp only [Option.bind_eq_bind, Option.bind_some, hcolumnId, htest, hvalues, Option.pure_def]

/-- A filter is read the same in every spelling. -/
theorem respects_ofSource? : Source.Respects (Edit parts) ofSource? := by
  intro source source' f hedit hread
  obtain ⟨_, _, _, hslots, hcolumnId, htest, hvalues⟩ := ofSource?_eq_some_iff.1 hread
  obtain ⟨slots', hslots', hmoves⟩ := hedit.slots? fieldsOf_parts distinct_fields hslots
  obtain _ | ⟨hcolumnMove, _ | ⟨htestMove, _ | ⟨hvaluesMove, ⟨⟩⟩⟩⟩ := hmoves
  refine ofSource?_eq_some_iff.2 ⟨_, _, _, hslots', ?_, ?_, ?_⟩
  · exact Record.required_of_moves hcolumnMove (fun _ => id) nofun hcolumnId
  · exact Record.required_of_moves htestMove (fun _ => id) nofun htest
  · exact Record.defaulted_of_moves hvaluesMove (by rintro _ rfl; rfl)
      (Record.respects_list Source.respects_value?) hvalues

/-- Whether the values of a filter are in order, as all values are that are read. -/
def IsOrdered (f : Filter) : Prop :=
  ∀ value ∈ f.values, value.IsOrdered

/-- A filter is read back from what is written of it. -/
theorem ofSource?_ofJson {f : Filter} (h : f.IsOrdered) :
    ofSource? (Source.ofJson f.toJson) = some f := by
  have hslots : Record.slots? fields (Source.ofJson f.toJson)
      = some [some (.text f.columnId), some (.text f.test.spelling),
        some (.list (Source.ofItems f.values))] := rfl
  have htest : Record.word FilterTest.ofSpelling? (.text f.test.spelling) = some f.test :=
    f.test.ofSpelling?_spelling
  have hvalues : Record.list Source.value? (.list (Source.ofItems f.values)) = some f.values := by
    rw [Record.list, ← Source.values?_eq_mapM]
    exact Source.values?_ofItems (Json.allOrdered_iff.2 h)
  exact ofSource?_eq_some_iff.2 ⟨_, _, _, hslots, rfl, htest, hvalues⟩

/-- The values of a filter that is read are in order. -/
theorem isOrdered_of_ofSource? {source : Source} {f : Filter} (h : ofSource? source = some f) :
    f.IsOrdered := by
  obtain ⟨_, _, _, -, -, -, hvalues⟩ := ofSource?_eq_some_iff.1 h
  intro value hvalue
  obtain ⟨_, hread⟩ := Record.exists_of_mem_list hvalues hvalue
  exact Source.isOrdered_of_value? hread

/-- A filter that gives a field twice cannot be read. -/
theorem ofSource?_eq_none {source : Source} (h : Record.GivesTwice fields source) :
    ofSource? source = none := by
  rw [ofSource?, h.slots?_eq_none distinct_fields]
  rfl

end Filter

/-! ## Requests -/

namespace Request

/-- The parts of a request. -/
def parts : List Part :=
  [ ⟨⟨["id", "dataset_id", "datasetId"]⟩, fun _ => False, fun _ _ => False⟩,
    ⟨⟨["columns"]⟩, (· = .list []), RewritesItem (Edit RequestedColumn.parts)⟩,
    ⟨⟨["filters"]⟩, (· = .list []), RewritesItem (Edit Filter.parts)⟩,
    ⟨⟨["pushdown"]⟩, (· = .bool false), fun _ _ => False⟩ ]

theorem fieldsOf_parts : Record.fieldsOf parts = fields := rfl

theorem distinct_fields : Record.Distinct fields := by decide

theorem ofSource?_eq_some_iff {source : Source} {r : Request} :
    ofSource? source = some r
      ↔ ∃ datasetId columns filters pushdown,
        Record.slots? fields source = some [datasetId, columns, filters, pushdown]
        ∧ Record.required Record.text datasetId = some r.datasetId
        ∧ Record.defaulted [] (Record.list RequestedColumn.ofSource?) columns = some r.columns
        ∧ Record.defaulted [] (Record.list Filter.ofSource?) filters = some r.filters
        ∧ Record.defaulted false Record.bool pushdown = some r.pushdown := by
  constructor
  · intro h
    obtain ⟨slots, hslots, h⟩ := Option.bind_eq_some_iff.1 h
    split at h
    · obtain ⟨_, hdatasetId, h⟩ := Option.bind_eq_some_iff.1 h
      obtain ⟨_, hcolumns, h⟩ := Option.bind_eq_some_iff.1 h
      obtain ⟨_, hfilters, h⟩ := Option.bind_eq_some_iff.1 h
      obtain ⟨_, hpushdown, h⟩ := Option.bind_eq_some_iff.1 h
      cases h
      exact ⟨_, _, _, _, hslots, hdatasetId, hcolumns, hfilters, hpushdown⟩
    · cases h
  · rintro ⟨datasetId, columns, filters, pushdown, hslots, hdatasetId, hcolumns, hfilters,
      hpushdown⟩
    rw [ofSource?, hslots]
    simp only [Option.bind_eq_bind, Option.bind_some, hdatasetId, hcolumns, hfilters, hpushdown,
      Option.pure_def]

/-- **A request is read the same in every spelling.** -/
theorem respects_ofSource? : Source.Respects (Edit parts) ofSource? := by
  intro source source' r hedit hread
  obtain ⟨_, _, _, _, hslots, hdatasetId, hcolumns, hfilters, hpushdown⟩ :=
    ofSource?_eq_some_iff.1 hread
  obtain ⟨slots', hslots', hmoves⟩ := hedit.slots? fieldsOf_parts distinct_fields hslots
  obtain _ | ⟨hdatasetMove, _ | ⟨hcolumnsMove, _ | ⟨hfiltersMove, _ | ⟨hpushdownMove, ⟨⟩⟩⟩⟩⟩ :=
    hmoves
  refine ofSource?_eq_some_iff.2 ⟨_, _, _, _, hslots', ?_, ?_, ?_, ?_⟩
  · exact Record.required_of_moves hdatasetMove (fun _ => id) nofun hdatasetId
  · exact Record.defaulted_of_moves hcolumnsMove (by rintro _ rfl; rfl)
      (Record.respects_list RequestedColumn.respects_ofSource?) hcolumns
  · exact Record.defaulted_of_moves hfiltersMove (by rintro _ rfl; rfl)
      (Record.respects_list Filter.respects_ofSource?) hfilters
  · exact Record.defaulted_of_moves hpushdownMove (by rintro _ rfl; rfl) nofun hpushdown

/-- Whether the values of all filters of a request are in order. -/
def IsOrdered (r : Request) : Prop :=
  ∀ f ∈ r.filters, f.IsOrdered

/-- The values of a request that is read are in order: no other request is ever made of JSON. -/
theorem isOrdered_of_ofSource? {source : Source} {r : Request} (h : ofSource? source = some r) :
    r.IsOrdered := by
  obtain ⟨_, _, _, _, -, -, -, hfilters, -⟩ := ofSource?_eq_some_iff.1 h
  intro f hf
  obtain ⟨_, hread⟩ := Record.exists_of_mem_list hfilters hf
  exact Filter.isOrdered_of_ofSource? hread

/-- A request is read back from what is written of it. -/
theorem ofSource?_ofJson {r : Request} (h : r.IsOrdered) :
    ofSource? (Source.ofJson r.toJson) = some r := by
  have hslots : Record.slots? fields (Source.ofJson r.toJson)
      = some [some (.text r.datasetId),
        some (.list (Source.ofItems (r.columns.map RequestedColumn.toJson))),
        some (.list (Source.ofItems (r.filters.map Filter.toJson))), some (.bool r.pushdown)] := rfl
  have hlist {α : Type} {read : Source → Option α} {write : α → Json} {l : List α}
      (hread : ∀ a ∈ l, read (Source.ofJson (write a)) = some a) :
      Record.list read (.list (Source.ofItems (l.map write))) = some l := by
    rw [Record.list, Source.ofItems_eq_map, List.map_map, Source.mapM_eq_some_iff,
      List.forall₂_map_left_iff, List.forall₂_same]
    exact hread
  have hcolumns := hlist fun c (_ : c ∈ r.columns) => RequestedColumn.ofSource?_ofJson c
  have hfilters := hlist fun f (hf : f ∈ r.filters) => Filter.ofSource?_ofJson (h f hf)
  exact ofSource?_eq_some_iff.2 ⟨_, _, _, _, hslots, rfl, hcolumns, hfilters, rfl⟩

/-- Whether a field is given twice in a request, in one of its columns or in one of its filters. -/
inductive GivesTwice : Source → Prop where
  | here {source : Source} (h : Record.GivesTwice fields source) : GivesTwice source
  | column {members : List (Option String × Source)} {columns : List Source} {column : Source}
    (hcolumns : (some "columns", .list columns) ∈ members) (hcolumn : column ∈ columns)
    (h : Record.GivesTwice RequestedColumn.fields column) : GivesTwice (.object members)
  | filter {members : List (Option String × Source)} {filters : List Source} {filter : Source}
    (hfilters : (some "filters", .list filters) ∈ members) (hfilter : filter ∈ filters)
    (h : Record.GivesTwice Filter.fields filter) : GivesTwice (.object members)

/-- A member under one of the names of a field is given for it. -/
theorem mem_given {members : List (Option String × Source)} {field : Record.Field} {name : String}
    {source : Source} (hmem : (some name, source) ∈ members) (hname : name ∈ field.names) :
    source ∈ field.given members :=
  List.mem_filterMap.2 ⟨_, hmem, by simp [hname]⟩

/-- Such a request cannot be read. -/
theorem GivesTwice.ofSource?_eq_none {source : Source} (h : GivesTwice source) :
    ofSource? source = none := by
  rw [Option.eq_none_iff_forall_not_mem]
  intro r hread
  obtain ⟨_, columns, filters, _, hslots, -, hcolumnsRead, hfiltersRead, -⟩ :=
    ofSource?_eq_some_iff.1 hread
  cases h with
  | here h => exact nomatch hslots.symm.trans (h.slots?_eq_none distinct_fields)
  | column hcolumns hcolumn h =>
    obtain ⟨-, _ | ⟨_, _ | ⟨hgiven, _⟩⟩⟩ := (Record.slots?_object_iff distinct_fields).1 hslots
    have hmem := hgiven ▸ mem_given hcolumns (by decide)
    obtain rfl := Option.mem_toList.1 hmem
    have hnone := Source.mapM_eq_none_of_mem hcolumn (RequestedColumn.ofSource?_eq_none h)
    exact nomatch hcolumnsRead.symm.trans hnone
  | filter hfilters hfilter h =>
    obtain ⟨-, _ | ⟨_, _ | ⟨_, _ | ⟨hgiven, _⟩⟩⟩⟩ :=
      (Record.slots?_object_iff distinct_fields).1 hslots
    have hmem := hgiven ▸ mem_given hfilters (by decide)
    obtain rfl := Option.mem_toList.1 hmem
    have hnone := Source.mapM_eq_none_of_mem hfilter (Filter.ofSource?_eq_none h)
    exact nomatch hfiltersRead.symm.trans hnone

/-- A text is read as the request that its tree is read as. -/
theorem ofBytes_eq_ok {bytes : List UInt8} {source : Source} {r : Request}
    (hbytes : Source.ofBytes? bytes = some source) (h : ofSource? source = some r) :
    ofBytes bytes = .ok r := by
  rw [ofBytes, hbytes, Option.bind_some, h]

/-- A text is refused if its tree is. -/
theorem ofBytes_eq_error {bytes : List UInt8} {source : Source}
    (hbytes : Source.ofBytes? bytes = some source) (h : ofSource? source = none) :
    ofBytes bytes = .error .malformedRequest := by
  rw [ofBytes, hbytes, Option.bind_some, h]

/-- **A request is read back from every spelling of it.** Its values are in order, as those of every
request are that was read (`isOrdered_of_ofSource?`). An object that gives a field twice, in itself,
in one of its columns or in one of its filters, is refused as a bad request. -/
theorem ofBytes_spelled :
    (∀ r : Request, r.IsOrdered → ∀ source,
      Relation.ReflTransGen (Edit parts) (Source.ofJson r.toJson) source →
        ofSource? source = some r
        ∧ ∀ bytes, Source.ofBytes? bytes = some source → ofBytes bytes = .ok r)
    ∧ Failure.fault .malformedRequest = .badRequest
    ∧ ∀ source, GivesTwice source →
        ofSource? source = none
        ∧ ∀ bytes, Source.ofBytes? bytes = some source →
          ofBytes bytes = .error .malformedRequest := by
  refine ⟨fun r hr source hedits => ?_, rfl, fun source htwice => ?_⟩
  · have hread : ofSource? source = some r := by
      induction hedits with
      | refl => exact ofSource?_ofJson hr
      | tail _ hedit ih => exact respects_ofSource? _ _ r hedit ih
    exact ⟨hread, fun _ hbytes => ofBytes_eq_ok hbytes hread⟩
  · have hnone := htwice.ofSource?_eq_none
    exact ⟨hnone, fun _ hbytes => ofBytes_eq_error hbytes hnone⟩

/-- A request for the number of customers at an address. -/
def customersAt : Request :=
  ⟨"orders", [⟨"customer", some .distinctCount, none⟩],
    [⟨"address", .eq, [.object [("street", .text "Elm"), ("zip", .int 7)]]⟩], false⟩

/-- The same request under other names, in another order, without its default and with a remark. -/
def customersAtSpelled : Source :=
  .object
    [ (some "filters", .list [.object
        [ (some "column_id", .text "address"), (some "expression", .text "="),
          (some "value", .list [.object [(some "zip", .int 7), (some "street", .text "Elm")]]) ]]),
      (some "remark", .null),
      (some "datasetId", .text "orders"),
      (some "columns", .list [.object
        [(some "columnId", .text "customer"), (some "aggregation", .text "distinct_count")]]) ]

/-- It is read as the request, a text that leaves out all defaults is read, and one that gives the
dataset twice is refused. -/
theorem ofBytes_spelled_customersAt :
    ofSource? customersAtSpelled = some customersAt
    ∧ ofBytes "\x7b\"datasetId\":\"a\"\x7d".toUTF8.toList = .ok ⟨"a", [], [], false⟩
    ∧ ofBytes "\x7b\"id\":\"a\",\"datasetId\":\"a\"\x7d".toUTF8.toList
      = .error .malformedRequest := by
  have hordered : customersAt.IsOrdered := by
    refine List.forall_mem_singleton.2 (List.forall_mem_singleton.2 ?_)
    simp only [Json.IsOrdered, Json.MembersOrdered, and_self, and_true]
    exact List.pairwise_pair.2 (by decide)
  have hempty : IsOrdered ⟨"a", [], [], false⟩ := List.forall_mem_nil _
  have hedits : Relation.ReflTransGen (Edit parts) (Source.ofJson customersAt.toJson)
      customersAtSpelled := by
    refine .head (@Edit.rename _ [] _ _ "id" "datasetId" _ (.head _) (by decide) (by decide)) ?_
    refine .head (@Edit.leaveOut _ [_, _, _] [] _ "pushdown" _
      (.tail _ (.tail _ (.tail _ (.head _)))) (by decide) rfl) ?_
    refine .head (@Edit.rewrite _ [_] [_] _ "columns" _ _ (.tail _ (.head _)) (by decide)
      (@RewritesItem.item _ [] [] _ _
        (@Edit.rename _ [] _ _ "column_id" "columnId" _ (.head _) (by decide) (by decide)))) ?_
    refine .head (@Edit.rewrite _ [_] [_] _ "columns" _ _ (.tail _ (.head _)) (by decide)
      (@RewritesItem.item _ [] [] _ _
        (@Edit.rewrite _ [_] [] _ "aggregation" _ _ (.tail _ (.head _)) (by decide) .apart))) ?_
    refine .head (@Edit.rewrite _ [_, _] [] _ "filters" _ _ (.tail _ (.tail _ (.head _)))
      (by decide)
      (@RewritesItem.item _ [] [] _ _
        (@Edit.rewrite _ [_, _] [] _ "value" _ _ (.tail _ (.tail _ (.head _))) (by decide)
          (@RewritesItem.item _ [] [] _ _ (.here (by decide) (.swap _ _ _)))))) ?_
    refine .head (@Edit.unknown _ [] _ "remark" .null (by decide)) ?_
    exact .single (.reorder (@List.perm_append_comm _ [_, _, _] [_]))
  have hshort : Relation.ReflTransGen (Edit parts) (Source.ofJson (toJson ⟨"a", [], [], false⟩))
      (.object [(some "datasetId", .text "a")]) := by
    refine .head (@Edit.rename _ [] _ _ "id" "datasetId" _ (.head _) (by decide) (by decide)) ?_
    refine .head (@Edit.leaveOut _ [_] [_, _] _ "columns" _ (.tail _ (.head _)) (by decide) rfl) ?_
    refine .head (@Edit.leaveOut _ [_] [_] _ "filters" _ (.tail _ (.tail _ (.head _))) (by decide)
      rfl) ?_
    exact .single (@Edit.leaveOut _ [_] [] _ "pushdown" _ (.tail _ (.tail _ (.tail _ (.head _))))
      (by decide) rfl)
  have htwice : GivesTwice (.object [(some "id", .text "a"), (some "datasetId", .text "a")]) :=
    .here ⟨_, rfl, _, .head _, by decide⟩
  obtain ⟨hread, -, hrefused⟩ := ofBytes_spelled
  exact ⟨(hread _ hordered _ hedits).1, (hread _ hempty _ hshort).2 _ (by with_unfolding_all rfl),
    (hrefused _ htwice).2 _ (by with_unfolding_all rfl)⟩

end Request

end Pushdown
