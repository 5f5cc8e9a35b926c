import Pushdown.Proofs.Document.Matching
import Pushdown.Proofs.Predicate.Filters
import Pushdown.Proofs.Relational.Conditions
import Pushdown.Proofs.Search.Matching

/-!
# The same rows from every backend

A filter is settled into one predicate, and each kind of backend is sent a rendering of it in a
language of its own. `RowView` is a row as the backends see it. Each of them compares the values of
the row with what stands in its query in place of a literal, and it does so as it would compare them
with the literal (`RowView.Faithful`). Then the backends differ only in what they make of a row
without a value (`RowView.selections`).

`RowView.null_aware_filters_agree` is that a filter that knows about absent values selects the same
rows in every backend, namely those it admits. `RowView.comparisons_agree` is that comparisons do so
as well, but for one case: a row without a value differs from a value in a search and, unless
equality is a small range, in a query over documents, but not in a statement.
-/

namespace Pushdown

/-- A row as the backends see it. -/
structure RowView (V : Type) where
  /-- What the row holds under a name. -/
  row : String → Option V
  /-- How values compare with literals. -/
  cmp : V → Literal → Ordering
  /-- How values compare with what stands in a condition. -/
  sql : V → Fragment → Ordering
  /-- How values compare with what stands in a search. -/
  search : V → Json → Ordering
  /-- How values compare with what stands in a query over documents. -/
  document : V → Json → Ordering

namespace RowView

variable {V : Type} (view : RowView V)

/-- What stands in a rendering of a predicate in place of a literal compares as the literal does,
and the exact sub-field of a column holds what the column holds. -/
structure Faithful (d : Dialect) (p : Predicate) : Prop where
  sql : p.FaithfulOn view.cmp view.sql d.literal
  search : p.FaithfulOn view.cmp view.search Literal.toJson
  document : p.FaithfulOn view.cmp view.document Document.Selector.literal
  exact : p.ExactFieldsAgree view.row

/-- Whether a statement selects the row: its condition must be true. -/
def sqlSelects (d : Dialect) (p : Predicate) : Option Bool :=
  (Condition.truth? view.row view.sql (d.condition p)).map Truth.isHolds

/-- Whether a search selects the row. -/
def searchSelects (p : Predicate) : Option Bool :=
  Search.matches? view.row view.search (Search.Clause.ofPredicate p).toJson

/-- Whether a query over documents selects the row. -/
def documentSelects (p : Predicate) : Option Bool :=
  Document.matches? view.row view.document (Document.Selector.ofPredicate p).toJson

variable {view} {d : Dialect} {p : Predicate}

/-- The backends select by the predicate, each with what it makes of absent values. -/
theorem selections (hs : p.Sound) (hf : view.Faithful d p) :
    view.sqlSelects d p = some (p.selects .unknown view.row view.cmp)
      ∧ view.searchSelects p = some (p.selects .complement view.row view.cmp)
      ∧ view.documentSelects p = some (p.selects .apart view.row view.cmp) := by
  refine ⟨?_, Search.matches?_ofPredicate hf.search hf.exact,
    Document.matches?_ofPredicate hs hf.document⟩
  rw [sqlSelects, Condition.truth?_condition hs hf.sql, Option.map_some, Predicate.isHolds_truth]

/-! ## A column of texts -/

/-- A column of labels with an exact sub-field. -/
def statusColumn : Column := ⟨"status", "status", .hierarchy, "text", "tickets", true⟩

/-- A row with at most a text in the column. -/
def ofStatus (held : Option String) : RowView String where
  row name := if name = "status" ∨ name = "status.keyword" then held else none
  cmp v
    | .text s => compare v s
    | _ => .lt
  sql v
    | .text s => compare v s
    | _ => .lt
  search v
    | .text s => compare v s
    | _ => .lt
  document v
    | .text s => compare v s
    | _ => .lt

variable {options : FilterOptions} {column : Column} {f : Filter}

/-- Texts are compared as texts by every backend. -/
theorem faithful_ofStatus (held : Option String) (texts : List String)
    (hliterals : p.literals = texts.map .text)
    (hp : Predicate.ofFilter options statusColumn f = .ok p) : (ofStatus held).Faithful d p := by
  have htext : ∀ literal ∈ p.literals, ∃ s, literal = .text s := by
    rw [hliterals]
    intro literal h
    obtain ⟨s, -, rfl⟩ := List.mem_map.1 h
    exact ⟨s, rfl⟩
  refine ⟨fun literal h v => ?_, fun literal h v => ?_, fun literal h v => ?_, fun column h _ => ?_⟩
  · obtain ⟨s, rfl⟩ := htext literal h
    rfl
  · obtain ⟨s, rfl⟩ := htext literal h
    rfl
  · obtain ⟨s, rfl⟩ := htext literal h
    rfl
  · rw [Predicate.eq_of_mem_columns_ofFilter hp column h]
    rfl

/-! ## Filters -/

/-- **A filter that knows about absent values selects the same rows in every backend**: those that
it admits. -/
theorem null_aware_filters_agree (htest : f.test.IsNullAware)
    (hp : Predicate.ofFilter options column f = .ok p) (hf : view.Faithful d p) :
    ∃ selected : Bool, (selected ↔ f.Admits options column view.cmp (view.row column.name))
      ∧ view.sqlSelects d p = some selected
      ∧ view.searchSelects p = some selected
      ∧ view.documentSelects p = some selected := by
  obtain ⟨hsql, hsearch, hdocument⟩ := selections (Predicate.sound_ofFilter hp) hf
  have hlaw (absence : Absence) : p.selects absence view.row view.cmp
      ↔ f.Admits options column view.cmp (view.row column.name) :=
    Predicate.selects_ofFilter absence view.row view.cmp htest hp
  have hsame (absence : Absence) : p.selects absence view.row view.cmp
      = p.selects .unknown view.row view.cmp :=
    Bool.eq_iff_iff.2 ((hlaw absence).trans (hlaw .unknown).symm)
  rw [hsame] at hsearch hdocument
  exact ⟨_, hlaw .unknown, hsql, hsearch, hdocument⟩

/-- A row without a status is not among the closed ones, and `null` is listed. -/
theorem null_aware_filters_agree_not_closed :
    let p : Predicate :=
      .any [.inList statusColumn [.text "closed"] true, .isNull statusColumn false]
    (ofStatus none).sqlSelects .postgres p = some true
      ∧ (ofStatus none).searchSelects p = some true
      ∧ (ofStatus none).documentSelects p = some true := by
  intro p
  have hp : Predicate.ofFilter .exact statusColumn ⟨"status", .notIn, [.text "closed", .null]⟩
      = .ok p := rfl
  have hf : (ofStatus none).Faithful .postgres p := faithful_ofStatus none ["closed"] rfl hp
  obtain ⟨selected, hlaw, hsql, hsearch, hdocument⟩ :=
    null_aware_filters_agree (.inr (.inl rfl)) hp hf
  have hadmits : selected = true := hlaw.2 (by simp [Filter.Admits, ofStatus])
  rw [hadmits] at hsql hsearch hdocument
  exact ⟨hsql, hsearch, hdocument⟩

/-- **A comparison selects the same rows in every backend, but for one case.** That a row without a
value differs from a value is not true in a statement; in a search it is; and in a query over
documents it is unless equality with the value is a small range. -/
theorem comparisons_agree {op : Comparison} (htest : f.test = op.test)
    (hp : Predicate.ofFilter options column f = .ok p) (hf : view.Faithful d p) :
    ∃ sql search document : Bool, view.sqlSelects d p = some sql
      ∧ view.searchSelects p = some search
      ∧ view.documentSelects p = some document
      ∧ if op = .ne ∧ f.values.head? ≠ some .null ∧ view.row column.name = none then
          sql = false ∧ search = true ∧ document = !Predicate.approximates options column
        else sql = search ∧ sql = document := by
  obtain ⟨hsql, hsearch, hdocument⟩ := selections (Predicate.sound_ofFilter hp) hf
  refine ⟨_, _, _, hsql, hsearch, hdocument, ?_⟩
  have hsame (absence absence' : Absence) :=
    Predicate.selects_ofFilter_comparison absence view.row view.cmp htest hp absence'
  split
  · rename_i hne
    simp only [if_pos hne] at hsame
    rw [hsame .unknown .unknown, hsame .complement .unknown, hsame .apart .unknown]
    cases Predicate.approximates options column <;> simp [Absence.unknown, Absence.complement,
      Absence.apart]
  · rename_i hne
    simp only [if_neg hne] at hsame
    exact ⟨hsame .unknown .complement, hsame .unknown .apart⟩

/-- A row with an open status differs from the closed ones in every backend. -/
theorem comparisons_agree_open :
    ∃ selected, (ofStatus (some "open")).sqlSelects .mySql
          (.compare statusColumn .ne (.text "closed")) = some selected
      ∧ (ofStatus (some "open")).searchSelects
          (.compare statusColumn .ne (.text "closed")) = some selected
      ∧ (ofStatus (some "open")).documentSelects
          (.compare statusColumn .ne (.text "closed")) = some selected := by
  have htest : (⟨"status", .ne, [.text "closed"]⟩ : Filter).test = Comparison.ne.test := rfl
  have hp : Predicate.ofFilter .exact statusColumn ⟨"status", .ne, [.text "closed"]⟩
      = .ok (.compare statusColumn .ne (.text "closed")) := rfl
  obtain ⟨sql, search, document, hsql, hsearch, hdocument, h⟩ :=
    comparisons_agree htest hp (faithful_ofStatus (some "open") ["closed"] rfl hp)
  have hheld : (ofStatus (some "open")).row statusColumn.name ≠ none := by decide
  rw [if_neg fun habsent => hheld habsent.2.2] at h
  obtain ⟨rfl, rfl⟩ := h
  exact ⟨_, hsql, hsearch, hdocument⟩

/-- A row without a status differs from the closed ones in a search and in a query over documents,
but not in a statement. -/
theorem absent_status_disagrees :
    let p : Predicate := .compare statusColumn .ne (.text "closed")
    Predicate.ofFilter .exact statusColumn ⟨"status", .ne, [.text "closed"]⟩ = .ok p
      ∧ (ofStatus none).Faithful .mySql p
      ∧ (ofStatus none).sqlSelects .mySql p = some false
      ∧ (ofStatus none).searchSelects p = some true
      ∧ (ofStatus none).documentSelects p = some true := by
  intro p
  have hp : Predicate.ofFilter .exact statusColumn ⟨"status", .ne, [.text "closed"]⟩ = .ok p := rfl
  exact ⟨hp, faithful_ofStatus none ["closed"] rfl hp, rfl, rfl, rfl⟩

end RowView

end Pushdown
