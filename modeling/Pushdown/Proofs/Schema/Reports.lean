import Mathlib.Data.List.Induction
import Pushdown.Proofs.Schema.Positions
import Pushdown.Relational.Types

/-!
# What a schema takes from a report

A schema is built from reported columns one by one. `Schema.dataset?_ofReported` says what comes of
it: the dataset of a name is built from the reports whose dataset has that name in lower case, and
from no others. The first of them names it, and of those with the same column name in lower case the
first is the column (`Schema.reports_of_resolve`).

So a column is found in the dataset it was reported for only if that dataset is spelled in one way
(`Schema.reported_of_resolve`). Two datasets whose names differ in case alone become one, which has
the name of the one and the columns of both: `Schema.not_reported_twoTables`.
-/

namespace Pushdown

namespace Dataset

variable {types : TypeTable} {d : Dataset} {name : String}

/-- A column that is added is found by its name, unless there was one of that name. -/
theorem column?_push (h : d.Indexed) (c : Column) (name : String) :
    (d.push c).column? name
      = (d.column? name).or (if c.id = Text.lower name then some c else none) := by
  rw [(h.push c).column?_eq, h.column?_eq, h.columns_push]
  split
  · next hduplicate =>
    split
    · next hid =>
      -- The column is a duplicate: what is found by its name was there before.
      obtain ⟨c', hc', hid'⟩ := hduplicate
      have hfound : (d.columns.find? fun c => c.id = Text.lower name).isSome :=
        List.find?_isSome.2 ⟨c', hc', decide_eq_true (hid'.trans hid)⟩
      rw [Option.or_of_isSome hfound]
    · rw [Option.or_none]
  · rw [List.find?_append]
    congr 1
    by_cases hid : c.id = Text.lower name <;> simp [hid]

/-- The dataset with the columns of some reports added. -/
def pushAll (types : TypeTable) (d : Dataset) (reports : List ReportedColumn) : Dataset :=
  reports.foldl (fun d r => d.push (Schema.columnOf types r)) d

theorem pushAll_concat (reports : List ReportedColumn) (r : ReportedColumn) :
    d.pushAll types (reports ++ [r]) = (d.pushAll types reports).push (Schema.columnOf types r) :=
  List.foldl_append

@[simp] theorem name_pushAll (reports : List ReportedColumn) :
    (d.pushAll types reports).name = d.name := by
  induction reports using List.reverseRecOn with
  | nil => rfl
  | append_singleton reports r ih => rw [pushAll_concat, name_push, ih]

/-- The index keeps up with all columns that are added. -/
theorem Indexed.pushAll (h : d.Indexed) (reports : List ReportedColumn) :
    (d.pushAll types reports).Indexed := by
  induction reports using List.reverseRecOn with
  | nil => exact h
  | append_singleton reports r ih =>
    rw [pushAll_concat]
    exact ih.push _

/-- Of several reports of a column the first is the one that is found. -/
theorem column?_pushAll (h : d.Indexed) (reports : List ReportedColumn) :
    (d.pushAll types reports).column? name
      = (d.column? name).or
          ((reports.find? fun r => Text.lower r.column = Text.lower name).map
            (Schema.columnOf types)) := by
  induction reports using List.reverseRecOn with
  | nil => exact (Option.or_none).symm
  | append_singleton reports r ih =>
    rw [pushAll_concat, column?_push (h.pushAll reports), ih, List.find?_append, Option.map_or,
      Option.or_assoc]
    by_cases hid : Text.lower r.column = Text.lower name <;> simp [Schema.columnOf, hid]

end Dataset

namespace Schema

/-! ## One more report -/

/-- Datasets in ascending order of their ids. -/
def Ascending (datasets : List Dataset) : Prop :=
  datasets.Pairwise fun d d' => d.id < d'.id

section
variable {id : String} {new : Dataset} {change : Dataset → Dataset} {datasets : List Dataset}

/-- The datasets of a changed list are those of the list, and the changed one. -/
theorem id_of_mem_alter (hnew : new.id = id) (hchange : ∀ d, (change d).id = d.id) {d : Dataset}
    (hd : d ∈ alter id new change datasets) : d.id = id ∨ ∃ d' ∈ datasets, d'.id = d.id := by
  induction datasets with
  | nil =>
    rw [alter, List.mem_singleton] at hd
    exact .inl (by rw [hd, hchange, hnew])
  | cons first rest ih =>
    rw [alter] at hd
    split at hd
    · rcases List.mem_cons.1 hd with rfl | hd
      · exact .inl (by rw [hchange, hnew])
      · exact .inr ⟨d, hd, rfl⟩
    · split at hd
      · next hid =>
        rcases List.mem_cons.1 hd with rfl | hd
        · exact .inl (by rw [hchange, hid])
        · exact .inr ⟨d, List.mem_cons_of_mem _ hd, rfl⟩
      · rcases List.mem_cons.1 hd with rfl | hd
        · exact .inr ⟨_, List.mem_cons_self, rfl⟩
        · rcases ih hd with h | ⟨d', hd', h⟩
          · exact .inl h
          · exact .inr ⟨d', List.mem_cons_of_mem _ hd', h⟩

/-- A changed list is in order if the list was. -/
theorem ascending_alter (hnew : new.id = id) (hchange : ∀ d, (change d).id = d.id)
    (h : Ascending datasets) : Ascending (alter id new change datasets) := by
  induction datasets with
  | nil => exact List.pairwise_singleton _ _
  | cons first rest ih =>
    obtain ⟨hfirst, hrest⟩ := List.pairwise_cons.1 h
    rw [alter]
    split
    · next hlt =>
      refine List.pairwise_cons.2 ⟨fun d hd => ?_, h⟩
      rw [hchange, hnew]
      rcases List.mem_cons.1 hd with rfl | hd
      · exact hlt
      · exact String.lt_trans hlt (hfirst d hd)
    · next hlt =>
      split
      · refine List.pairwise_cons.2 ⟨fun d hd => ?_, hrest⟩
        rw [hchange]
        exact hfirst d hd
      · next hne =>
        refine List.pairwise_cons.2 ⟨fun d hd => ?_, ih hrest⟩
        rcases id_of_mem_alter hnew hchange hd with hid | ⟨d', hd', hid⟩
        · rw [hid]
          exact Std.lt_of_le_of_ne (String.not_lt.1 hlt) (Ne.symm hne)
        · rw [← hid]
          exact hfirst d' hd'

/-- The dataset of the id is found changed, or new if there was none. -/
theorem find?_alter_self (hnew : new.id = id) (hchange : ∀ d, (change d).id = d.id)
    (h : Ascending datasets) :
    (alter id new change datasets).find? (fun d => d.id = id)
      = some (change ((datasets.find? fun d => d.id = id).getD new)) := by
  induction datasets with
  | nil => simp [alter, hchange, hnew]
  | cons first rest ih =>
    obtain ⟨hfirst, hrest⟩ := List.pairwise_cons.1 h
    rw [alter]
    split
    · next hlt =>
      have hnone : (first :: rest).find? (fun d => d.id = id) = none := by
        refine List.find?_eq_none.2 fun d hd => ?_
        rcases List.mem_cons.1 hd with rfl | hd
        · simpa using (String.ne_of_lt hlt).symm
        · simpa using (String.ne_of_lt (String.lt_trans hlt (hfirst d hd))).symm
      simp [hnone, hchange, hnew]
    · split
      · next hid => simp [hchange, hid]
      · next hne => simp [Ne.symm hne, ih hrest]

/-- Other datasets are found as they were. -/
theorem find?_alter_of_ne {other : String} (hne : other ≠ id) (hnew : new.id = id)
    (hchange : ∀ d, (change d).id = d.id) :
    (alter id new change datasets).find? (fun d => d.id = other)
      = datasets.find? fun d => d.id = other := by
  induction datasets with
  | nil => simp [alter, hchange, hnew, Ne.symm hne]
  | cons first rest ih =>
    rw [alter]
    split
    · simp [hchange, hnew, Ne.symm hne]
    · split
      · next hid => simp [hchange, ← hid, Ne.symm hne]
      · simp only [List.find?_cons, ih]

end

variable {types : TypeTable} {s : Schema} {r : ReportedColumn} {columns : List ReportedColumn}
  {name : String}

/-- One more report keeps the datasets in order. -/
theorem ascending_report (h : Ascending s.datasets) :
    Ascending (report types s r).datasets :=
  ascending_alter rfl (fun d => d.id_push _) h

/-- One more report adds a column to the dataset it names, and leaves the others alone. -/
theorem dataset?_report (h : Ascending s.datasets) :
    (report types s r).dataset? name
      = if Text.lower r.dataset = Text.lower name then
          some (((s.dataset? name).getD (.named r.dataset)).push (columnOf types r))
        else s.dataset? name := by
  unfold report dataset?
  split
  · next hid =>
    rw [← hid]
    exact find?_alter_self rfl (fun d => d.id_push _) h
  · next hne => exact find?_alter_of_ne (Ne.symm hne) rfl fun d => d.id_push _

/-! ## All reports -/

/-- The dataset that the reports of a dataset describe. The first of them names it. -/
def datasetOf? (types : TypeTable) : List ReportedColumn → Option Dataset
  | [] => none
  | first :: later => some ((Dataset.named first.dataset).pushAll types (first :: later))

theorem datasetOf?_concat (reports : List ReportedColumn) (r : ReportedColumn) :
    datasetOf? types (reports ++ [r])
      = some (((datasetOf? types reports).getD (.named r.dataset)).push (columnOf types r)) := by
  cases reports with
  | nil => rfl
  | cons first later =>
    simp only [List.cons_append, datasetOf?, Option.getD_some]
    rw [← List.cons_append, Dataset.pushAll_concat]

theorem ofReported_concat (columns : List ReportedColumn) (r : ReportedColumn) :
    ofReported types (columns ++ [r]) = report types (ofReported types columns) r :=
  List.foldl_append

/-- The datasets of a schema are in order. -/
theorem ascending_ofReported : Ascending (ofReported types columns).datasets := by
  induction columns using List.reverseRecOn with
  | nil => exact List.Pairwise.nil
  | append_singleton columns r ih =>
    rw [ofReported_concat]
    exact ascending_report ih

/-- The dataset of a name is what the reports for that name, in any case, describe. -/
theorem dataset?_ofReported :
    (ofReported types columns).dataset? name
      = datasetOf? types (columns.filter fun r => Text.lower r.dataset = Text.lower name) := by
  induction columns using List.reverseRecOn with
  | nil => rfl
  | append_singleton columns r ih =>
    rw [ofReported_concat, dataset?_report ascending_ofReported, ih, List.filter_append]
    by_cases hid : Text.lower r.dataset = Text.lower name
    · rw [if_pos hid, List.filter_cons_of_pos (by simpa using hid), List.filter_nil,
        datasetOf?_concat]
    · rw [if_neg hid, List.filter_cons_of_neg (by simpa using hid), List.filter_nil,
        List.append_nil]

/-- Names that are found: the dataset has the name of the first report of it, and the column is the
first report of it in that dataset, both in any case. -/
theorem reports_of_resolve {datasetName columnName : String} {d : Dataset} {c : Column}
    (hd : (ofReported types columns).resolve datasetName = .ok d)
    (hc : d.resolve columnName = .ok c) :
    (∃ first, columns.find? (fun r => Text.lower r.dataset = Text.lower datasetName) = some first
        ∧ d.name = first.dataset)
      ∧ ∃ r, columns.find? (fun r => Text.lower r.dataset = Text.lower datasetName
          ∧ Text.lower r.column = Text.lower columnName) = some r ∧ c = columnOf types r := by
  have hdataset : (ofReported types columns).dataset? datasetName = some d := by
    unfold resolve at hd
    split at hd <;> cases hd
    assumption
  have hcolumn : d.column? columnName = some c := by
    unfold Dataset.resolve at hc
    split at hc <;> cases hc
    assumption
  rw [dataset?_ofReported] at hdataset
  cases hreports : columns.filter fun r => Text.lower r.dataset = Text.lower datasetName with
  | nil => rw [hreports] at hdataset; cases hdataset
  | cons first later =>
    rw [hreports] at hdataset
    cases hdataset
    constructor
    · refine ⟨first, ?_, Dataset.name_pushAll _⟩
      rw [← List.head?_filter, hreports, List.head?_cons]
    · rw [Dataset.column?_pushAll (Dataset.indexed_named _), ← hreports,
        List.find?_filter] at hcolumn
      obtain ⟨r, hr, rfl⟩ := Option.map_eq_some_iff.1 hcolumn
      exact ⟨r, by simpa using hr, rfl⟩

/-- A column was reported as it is, for a dataset of a name. -/
def ReportedIn (columns : List ReportedColumn) (datasetName : String) (c : Column) : Prop :=
  ∃ r ∈ columns, r.dataset = datasetName ∧ r.column = c.name ∧ r.nativeType = c.nativeType
    ∧ r.hasKeyword = c.hasKeyword

/-- **A column was reported for the dataset it is found in, up to the case of the name.** What is
found by two names was reported as it is, for a dataset whose name differs from that of the dataset
found in case alone. It was reported for that very dataset if all reports spell its name in one
way. -/
theorem reported_of_resolve {datasetName columnName : String} {d : Dataset} {c : Column}
    (hd : (ofReported types columns).resolve datasetName = .ok d)
    (hc : d.resolve columnName = .ok c) :
    (∃ spelling, Text.lower spelling = Text.lower d.name ∧ ReportedIn columns spelling c)
      ∧ ((∀ r ∈ columns, Text.lower r.dataset = Text.lower d.name → r.dataset = d.name) →
          ReportedIn columns d.name c) := by
  obtain ⟨⟨first, hfirst, hname⟩, r, hr, rfl⟩ := reports_of_resolve hd hc
  have hmem : r ∈ columns := List.mem_of_find?_eq_some hr
  have hcase : Text.lower r.dataset = Text.lower d.name := by
    have hrow := List.find?_some hr
    have hhead := List.find?_some hfirst
    simp only [decide_eq_true_eq] at hrow hhead
    rw [hname, hrow.1, hhead]
  exact ⟨⟨r.dataset, hcase, r, hmem, rfl, rfl, rfl, rfl⟩,
    fun hspelled => ⟨r, hmem, hspelled r hmem hcase, rfl, rfl, rfl⟩⟩

section

/-- A report of a column of numbers. -/
def integerReport (dataset column : String) : ReportedColumn := ⟨dataset, column, "integer", false⟩

/-- The columns of a table that is spelled in one way are found in it, whatever the case of the
names asked for. -/
theorem reported_of_resolve_oneTable :
    ReportedIn [integerReport "Orders" "a", integerReport "Orders" "B"] "Orders"
      ⟨"b", "B", .numeric, "integer", "orders", false⟩ := by
  let orders : Dataset := ⟨"orders", "Orders",
    [⟨"a", "a", .numeric, "integer", "orders", false⟩,
      ⟨"b", "B", .numeric, "integer", "orders", false⟩],
    [("a", 0), ("b", 1)]⟩
  have hd : (ofReported Dialect.postgres.types
      [integerReport "Orders" "a", integerReport "Orders" "B"]).resolve "ORDERS" = .ok orders := by
    decide +kernel
  have hc : orders.resolve "b" = .ok ⟨"b", "B", .numeric, "integer", "orders", false⟩ := by
    decide +kernel
  exact (reported_of_resolve hd hc).2 (by decide +kernel)

/-- Of two tables whose names differ in case alone, the column of the second is found in the
first, for which it was not reported. -/
theorem not_reported_twoTables :
    ∃ d c, (ofReported Dialect.postgres.types
        [integerReport "Orders" "a", integerReport "orders" "b"]).resolve "orders" = .ok d
      ∧ d.resolve "b" = .ok c
      ∧ ¬ ReportedIn [integerReport "Orders" "a", integerReport "orders" "b"] d.name c := by
  refine ⟨⟨"orders", "Orders",
      [⟨"a", "a", .numeric, "integer", "orders", false⟩,
        ⟨"b", "b", .numeric, "integer", "orders", false⟩],
      [("a", 0), ("b", 1)]⟩,
    ⟨"b", "b", .numeric, "integer", "orders", false⟩, by decide +kernel, by decide +kernel, ?_⟩
  simp [ReportedIn, integerReport]

end

end Schema

end Pushdown
