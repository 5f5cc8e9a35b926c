import Mathlib.Data.List.Nodup
import Pushdown.Proofs.Schema.Reports

/-!
# The listing of a schema

The columns of a dataset are its first reports: of several reports of one column, in any case, the
one that comes first (`Schema.FirstReports`). A report that is added is the first of its column or
changes nothing (`Schema.FirstReports.concat_of_new`, `Schema.FirstReports.concat_of_mem`), and so
does the column that is pushed for it (`Dataset.columns_pushAll`). What two names are resolved to is
therefore the first report of them (`Schema.resolve_ofReported`), and `Schema.lists_firstReports`
says the same of all that is listed, and of the positions by which it is found.
-/

namespace Pushdown

namespace Schema

/-- Some reports are the first ones of their columns, in the order in which they first occur. -/
structure FirstReports (reports firsts : List ReportedColumn) : Prop where
  mem_iff : ∀ r, r ∈ firsts
    ↔ reports.find? (fun r' => Text.lower r'.column = Text.lower r.column) = some r
  inOrder : firsts.Pairwise fun r later => reports.idxOf r < reports.idxOf later

namespace FirstReports

variable {reports firsts : List ReportedColumn} {r : ReportedColumn}

theorem nil : FirstReports [] [] where
  mem_iff := by simp
  inOrder := List.Pairwise.nil

theorem mem_reports (h : FirstReports reports firsts) (hr : r ∈ firsts) : r ∈ reports :=
  List.mem_of_find?_eq_some ((h.mem_iff r).1 hr)

/-- Two first reports are of different columns. -/
theorem nodup_names (h : FirstReports reports firsts) :
    (firsts.map fun r => Text.lower r.column).Nodup := by
  refine List.pairwise_map.2 (h.inOrder.imp_of_mem fun {r later} hr hlater hlt hname => ?_)
  have hfirst := (h.mem_iff r).1 hr
  rw [hname, (h.mem_iff later).1 hlater] at hfirst
  cases hfirst
  exact Nat.lt_irrefl _ hlt

/-- Every column that is reported has a first report. -/
theorem exists_of_mem (h : FirstReports reports firsts) (hr : r ∈ reports) :
    ∃ first ∈ firsts, Text.lower first.column = Text.lower r.column := by
  have hfound : (reports.find? fun r' => Text.lower r'.column = Text.lower r.column).isSome :=
    List.find?_isSome.2 ⟨r, hr, by simp⟩
  obtain ⟨first, hfirst⟩ := Option.isSome_iff_exists.1 hfound
  have hname : Text.lower first.column = Text.lower r.column := by
    simpa using List.find?_some hfirst
  exact ⟨first, (h.mem_iff first).2 (by rwa [hname]), hname⟩

/-- The order of first reports stays the same when more is reported. -/
theorem inOrder_append (h : FirstReports reports firsts) (more : List ReportedColumn) :
    firsts.Pairwise fun r later => (reports ++ more).idxOf r < (reports ++ more).idxOf later :=
  h.inOrder.imp_of_mem fun hr hlater hlt => by
    rwa [List.idxOf_append_of_mem (h.mem_reports hr),
      List.idxOf_append_of_mem (h.mem_reports hlater)]

/-- A report of a column that was reported before changes nothing. -/
theorem concat_of_mem (h : FirstReports reports firsts) {before : ReportedColumn}
    (hbefore : before ∈ reports) (hname : Text.lower before.column = Text.lower r.column) :
    FirstReports (reports ++ [r]) firsts where
  mem_iff r' := by
    rw [h.mem_iff, List.find?_append]
    by_cases hr' : Text.lower r.column = Text.lower r'.column
    · have hfound : (reports.find? fun r => Text.lower r.column = Text.lower r'.column).isSome :=
        List.find?_isSome.2 ⟨before, hbefore, by simp [hname, hr']⟩
      rw [Option.or_of_isSome hfound]
    · simp [hr']
  inOrder := h.inOrder_append [r]

/-- A report of a new column is the last of the first ones. -/
theorem concat_of_new (h : FirstReports reports firsts)
    (hnew : ∀ before ∈ reports, Text.lower before.column ≠ Text.lower r.column) :
    FirstReports (reports ++ [r]) (firsts ++ [r]) where
  mem_iff r' := by
    rw [List.mem_append, List.mem_singleton, h.mem_iff, List.find?_append]
    by_cases hr' : Text.lower r.column = Text.lower r'.column
    · have hnone : reports.find? (fun r => Text.lower r.column = Text.lower r'.column) = none :=
        List.find?_eq_none.2 fun before hbefore => by simpa [← hr'] using hnew before hbefore
      rw [hnone, Option.none_or, List.find?_cons_of_pos (by simpa using hr')]
      simp [eq_comm]
    · have hne : r' ≠ r := fun heq => hr' (by rw [heq])
      simp [hr', hne]
  inOrder := by
    refine List.pairwise_append.2 ⟨h.inOrder_append [r], List.pairwise_singleton _ _, ?_⟩
    intro first hfirst later hlater
    obtain rfl := List.mem_singleton.1 hlater
    have hnot : later ∉ reports := fun hmem => hnew later hmem rfl
    rw [List.idxOf_append_of_mem (h.mem_reports hfirst), List.idxOf_append_of_notMem hnot]
    exact Nat.lt_add_right _ (List.idxOf_lt_length_of_mem (h.mem_reports hfirst))

end FirstReports

end Schema

namespace Dataset

variable (types : TypeTable)

@[simp] theorem id_pushAll (d : Dataset) (reports : List ReportedColumn) :
    (d.pushAll types reports).id = d.id := by
  induction reports using List.reverseRecOn with
  | nil => rfl
  | append_singleton reports r ih => rw [pushAll_concat, id_push, ih]

/-- The columns of a dataset are the first of its reports. -/
theorem columns_pushAll (name : String) (reports : List ReportedColumn) :
    ∃ firsts, Schema.FirstReports reports firsts
      ∧ ((named name).pushAll types reports).columns = firsts.map (Schema.columnOf types) := by
  induction reports using List.reverseRecOn with
  | nil => exact ⟨[], .nil, rfl⟩
  | append_singleton reports r ih =>
    obtain ⟨firsts, hfirsts, hcolumns⟩ := ih
    rw [pushAll_concat, ((indexed_named name).pushAll reports).columns_push, hcolumns]
    by_cases hbefore : ∃ before ∈ reports, Text.lower before.column = Text.lower r.column
    · obtain ⟨before, hmem, hname⟩ := hbefore
      obtain ⟨first, hfirst, hfirstName⟩ := hfirsts.exists_of_mem hmem
      refine ⟨firsts, hfirsts.concat_of_mem hmem hname, if_pos ?_⟩
      exact ⟨_, List.mem_map_of_mem hfirst, hfirstName.trans hname⟩
    · have hnew : ∀ before ∈ reports, Text.lower before.column ≠ Text.lower r.column :=
        fun before hmem hname => hbefore ⟨before, hmem, hname⟩
      refine ⟨firsts ++ [r], hfirsts.concat_of_new hnew, ?_⟩
      rw [if_neg, List.map_append, List.map_singleton]
      rintro ⟨_, hc, hid⟩
      obtain ⟨first, hfirst, rfl⟩ := List.mem_map.1 hc
      exact hnew first (hfirsts.mem_reports hfirst) hid

end Dataset

namespace Schema

variable {types : TypeTable} {columns : List ReportedColumn} {d : Dataset}

/-- The reports of the dataset of an id. -/
def reportsOf (columns : List ReportedColumn) (id : String) : List ReportedColumn :=
  columns.filter fun r => Text.lower r.dataset = id

/-! ## What two names are resolved to -/

/-- The first report of two names is the first one of the column among those of the dataset. -/
theorem find?_reportsOf (datasetName columnName : String) :
    columns.find? (fun r => Text.lower r.dataset = Text.lower datasetName
        ∧ Text.lower r.column = Text.lower columnName)
      = (reportsOf columns (Text.lower datasetName)).find? fun r =>
          Text.lower r.column = Text.lower columnName := by
  rw [reportsOf, List.find?_filter]
  congr 1
  funext r
  simp

/-- Two names are resolved to the first report of them, in any case. Of names that were not
reported the dataset is not found, or else the column. -/
theorem resolve_ofReported (datasetName columnName : String) :
    ((ofReported types columns).resolve datasetName >>= fun d => d.resolve columnName)
      = match columns.find? (fun r => Text.lower r.dataset = Text.lower datasetName
          ∧ Text.lower r.column = Text.lower columnName) with
        | some r => .ok (columnOf types r)
        | none => .error (if reportsOf columns (Text.lower datasetName) = []
            then .unknownDataset datasetName
            else .unknownColumn columnName (Text.lower datasetName)) := by
  have hdataset : (ofReported types columns).dataset? datasetName
      = datasetOf? types (reportsOf columns (Text.lower datasetName)) := dataset?_ofReported
  rw [find?_reportsOf, resolve, hdataset]
  cases hreports : reportsOf columns (Text.lower datasetName) with
  | nil => rfl
  | cons first later =>
    have hfirst : Text.lower first.dataset = Text.lower datasetName := by
      have hmem : first ∈ reportsOf columns (Text.lower datasetName) := by simp [hreports]
      simpa [reportsOf] using (List.mem_filter.1 hmem).2
    show Dataset.resolve (Dataset.pushAll types (.named first.dataset) (first :: later)) _ = _
    rw [Dataset.resolve, Dataset.column?_pushAll (Dataset.indexed_named _), Dataset.id_pushAll]
    cases (first :: later).find? fun r => Text.lower r.column = Text.lower columnName with
    | some r => rfl
    | none => exact congrArg (fun id => Except.error (Failure.unknownColumn columnName id)) hfirst

/-! ## What is listed -/

/-- A dataset is there because of a report. -/
theorem reported_of_mem (hd : d ∈ (ofReported types columns).datasets) :
    ∃ r ∈ columns, Text.lower r.dataset = d.id := by
  induction columns using List.reverseRecOn generalizing d with
  | nil => cases hd
  | append_singleton columns r ih =>
    rw [ofReported_concat] at hd
    have hchanged : d.id = Text.lower r.dataset
        ∨ ∃ d' ∈ (ofReported types columns).datasets, d'.id = d.id :=
      id_of_mem_alter (by rfl) (fun d => d.id_push (columnOf types r)) hd
    rcases hchanged with hid | ⟨d', hd', hid⟩
    · exact ⟨r, List.mem_append_right _ (List.mem_singleton_self r), hid.symm⟩
    · obtain ⟨r', hr', hname⟩ := ih hd'
      exact ⟨r', List.mem_append_left _ hr', hname.trans hid⟩

variable (types) in
/-- A report makes its dataset: the one of all the reports for it. -/
theorem dataset?_of_reported {r : ReportedColumn} (hr : r ∈ columns) :
    ∃ first : ReportedColumn, (ofReported types columns).dataset? r.dataset
      = some ((Dataset.named first.dataset).pushAll types
        (reportsOf columns (Text.lower r.dataset))) := by
  have hmem : r ∈ reportsOf columns (Text.lower r.dataset) :=
    List.mem_filter.2 ⟨hr, decide_eq_true rfl⟩
  rw [dataset?_ofReported, ← reportsOf]
  cases hreports : reportsOf columns (Text.lower r.dataset) with
  | nil => rw [hreports] at hmem; cases hmem
  | cons first later => exact ⟨first, rfl⟩

/-- The dataset of an id is found by it. -/
theorem find?_of_mem (hd : d ∈ (ofReported types columns).datasets) :
    (ofReported types columns).datasets.find? (fun d' => d'.id = d.id) = some d := by
  have hnodup : ((ofReported types columns).datasets.map Dataset.id).Nodup :=
    List.pairwise_map.2 (ascending_ofReported.imp String.ne_of_lt)
  have hsome : ((ofReported types columns).datasets.find? fun d' => d'.id = d.id).isSome :=
    List.find?_isSome.2 ⟨d, hd, decide_eq_true rfl⟩
  obtain ⟨d', hfound⟩ := Option.isSome_iff_exists.1 hsome
  have hid : d'.id = d.id := by simpa using List.find?_some hfound
  rwa [List.inj_on_of_nodup_map hnodup (List.mem_of_find?_eq_some hfound) hd hid] at hfound

/-- A dataset is built from the reports for it. -/
theorem eq_pushAll_of_mem (hd : d ∈ (ofReported types columns).datasets) :
    ∃ first : ReportedColumn,
      d = (Dataset.named first.dataset).pushAll types (reportsOf columns d.id) := by
  obtain ⟨r, hr, hid⟩ := reported_of_mem hd
  obtain ⟨first, hdataset⟩ := dataset?_of_reported types hr
  rw [dataset?, hid, find?_of_mem hd] at hdataset
  exact ⟨first, Option.some.inj hdataset⟩

/-- The index of a dataset has the positions of its columns. -/
theorem indexed_of_mem (hd : d ∈ (ofReported types columns).datasets) : d.Indexed := by
  obtain ⟨first, heq⟩ := eq_pushAll_of_mem hd
  rw [heq]
  exact (Dataset.indexed_named _).pushAll _

/-- The columns of a dataset are the first reports for it. -/
theorem columns_ofReported (hd : d ∈ (ofReported types columns).datasets) :
    ∃ firsts, FirstReports (reportsOf columns d.id) firsts
      ∧ d.columns = firsts.map (columnOf types) := by
  obtain ⟨first, heq⟩ := eq_pushAll_of_mem hd
  obtain ⟨firsts, hfirsts, hcolumns⟩ :=
    Dataset.columns_pushAll types first.dataset (reportsOf columns d.id)
  exact ⟨firsts, hfirsts, (congrArg Dataset.columns heq).trans hcolumns⟩

/-- **The schema of a report, name by name.** Two names are resolved if some report has them, in any
case, and then to the first such report, with its own name and native type, its keyword and the type
that the table gives it; otherwise the answer is that something was not found. The columns of a
dataset are the first reports for it, in the order of the report and with distinct ids. Its index
has the position of every one of them, and no position but that of the column it is kept under,
whatever duplicates and other datasets were reported in between. Those are the columns it is listed
with, and the listing has the datasets that were reported, in strictly ascending order of their
ids. -/
theorem lists_firstReports (types : TypeTable) (columns : List ReportedColumn) :
    (∀ datasetName columnName,
      match columns.find? (fun r => Text.lower r.dataset = Text.lower datasetName
          ∧ Text.lower r.column = Text.lower columnName) with
      | some r => ∃ c,
        ((ofReported types columns).resolve datasetName >>= fun d => d.resolve columnName) = .ok c
          ∧ c.name = r.column ∧ c.nativeType = r.nativeType ∧ c.hasKeyword = r.hasKeyword
          ∧ c.type = types.classify r.nativeType
      | none => ∃ failure,
        ((ofReported types columns).resolve datasetName >>= fun d => d.resolve columnName)
            = .error failure
          ∧ failure.fault = .notFound)
    ∧ (∀ d ∈ (ofReported types columns).datasets, ∃ firsts,
        FirstReports (reportsOf columns d.id) firsts ∧ d.columns = firsts.map (columnOf types)
          ∧ (d.columns.map Column.id).Nodup)
    ∧ (∀ d ∈ (ofReported types columns).datasets, d.Indexed
        ∧ ∀ name, d.column? name = d.columns.find? fun c => c.id = Text.lower name)
    ∧ ((ofReported types columns).descriptors.Pairwise fun d d' => d.id < d'.id)
    ∧ (∀ id, id ∈ (ofReported types columns).descriptors.map DatasetDescriptor.id
        ↔ ∃ r ∈ columns, Text.lower r.dataset = id)
    ∧ ∀ d ∈ (ofReported types columns).descriptors, ∃ firsts,
        FirstReports (reportsOf columns d.id) firsts
          ∧ d.columns = firsts.map fun r =>
            ⟨Text.lower r.column, r.column, types.classify r.nativeType⟩ := by
  refine ⟨fun datasetName columnName => ?_, fun d hd => ?_, fun d hd => ?_, ?_, fun id => ?_,
    fun d hd => ?_⟩
  · rw [resolve_ofReported]
    split
    · exact ⟨_, rfl, rfl, rfl, rfl, rfl⟩
    · refine ⟨_, rfl, ?_⟩
      split <;> rfl
  · obtain ⟨firsts, hfirsts, hcolumns⟩ := columns_ofReported hd
    refine ⟨firsts, hfirsts, hcolumns, ?_⟩
    rw [hcolumns, List.map_map]
    exact hfirsts.nodup_names
  · exact ⟨indexed_of_mem hd, (indexed_of_mem hd).column?_eq⟩
  · exact List.pairwise_map.2 ascending_ofReported
  · rw [descriptors, List.map_map, List.mem_map]
    constructor
    · rintro ⟨d, hd, rfl⟩
      exact reported_of_mem hd
    · rintro ⟨r, hr, rfl⟩
      obtain ⟨_, hdataset⟩ := dataset?_of_reported types hr
      exact ⟨_, List.mem_of_find?_eq_some hdataset, by simpa using List.find?_some hdataset⟩
  · obtain ⟨d, hmem, rfl⟩ := List.mem_map.1 hd
    obtain ⟨firsts, hfirsts, hcolumns⟩ := columns_ofReported hmem
    refine ⟨firsts, hfirsts, ?_⟩
    show d.columns.map _ = _
    rw [hcolumns, List.map_map]
    rfl

end Schema

end Pushdown
