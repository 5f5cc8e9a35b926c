import Pushdown.Document.Pipeline
import Pushdown.Proofs.Document.Columns
import Pushdown.Row.Normalize
import Pushdown.Schema.Basic

/-!
# Sampled columns and the rows read for them

The columns of a collection are those of the flat documents of a sample, each with the type of a
value some document has there (`Document.hasTyped_of_mem_columnsOfSample`), and the rows of a batch
are flat documents too. So a row has for a column just the value the type was taken from
(`Document.lookupPath_flatten`), and `Document.cell_of_columnsOfSample` says what becomes of that
value by its type.

A number may be marked by its width, as in `{"$numberInt": "2"}`. The sample knows the marks and
makes the column numeric; a row does not, and hands out the object: `Document.not_number_marked`.
-/

namespace Pushdown

namespace Document

variable {path : String} {fields : Members} {value : Json} {documents : List Json}

/-! ## Flat documents -/

/-- Whether a value is not a list. -/
def NotList (j : Json) : Prop := j.items? = none

mutual

/-- The fields of a value are not lists: of a list the first item counts. -/
theorem notList_of_mem_flattenValue (name : String) :
    (j : Json) → ∀ m ∈ flattenValue name j, NotList m.2
  | .list items => by
    rw [flattenValue]
    exact notList_of_mem_flattenFirst name items
  | .object members => by
    rw [flattenValue]
    split
    · rintro m hm
      rw [List.mem_singleton.1 hm]
      rfl
    · exact notList_of_mem_flattenBelow name members
  | .null | .bool _ | .int _ | .float _ | .text _ => by
    rintro m hm
    rw [List.mem_singleton.1 hm]
    rfl

theorem notList_of_mem_flattenFirst (name : String) :
    (items : List Json) → ∀ m ∈ flattenFirst name items, NotList m.2
  | [] => by
    rintro m hm
    rw [List.mem_singleton.1 hm]
    rfl
  | item :: _ => notList_of_mem_flattenValue name item

theorem notList_of_mem_flattenBelow (name : String) :
    (members : Members) → ∀ m ∈ flattenBelow name members, NotList m.2
  | [] => by
    rintro m hm
    cases hm
  | (step, value) :: rest => by
    rintro m hm
    rcases List.mem_append.1 hm with hm | hm
    · exact notList_of_mem_flattenValue _ value m hm
    · exact notList_of_mem_flattenBelow name rest m hm

end

/-- The fields of a flat document are not lists. -/
theorem notList_of_lookup_flatten (h : Json.lookup path (flatten fields) = some value) :
    NotList value := by
  obtain ⟨field, -, hm⟩ := List.mem_flatMap.1 (Json.mem_of_lookup_sortMembers h)
  exact notList_of_mem_flattenValue _ _ _ hm

/-- A field of a flat document is found as it is, whatever its type. -/
theorem lookupPath_flatten (h : Json.lookup path (flatten fields) = some value)
    (type : ColumnType) : lookupPath (flatten fields) path type = value := by
  have hlist := notList_of_lookup_flatten h
  rw [lookupPath, h]
  cases value with
  | list => cases hlist
  | null | bool | int | float | text | object => rfl

/-- Every field of a flat document is found by its path. -/
theorem lookup_of_mem_flatten (h : (path, value) ∈ flatten fields) :
    Json.lookup path (flatten fields) = some value :=
  Json.lookup_eq_some_of_mem (Json.nodup_names_sortMembers _) h

/-! ## Columns of a sample -/

/-- A document has a value of some type at a path. -/
def HasTyped (path type : String) (document : Json) : Prop :=
  ∃ fields value, document = .object fields ∧ Json.lookup path (flatten fields) = some value
    ∧ typeName value = type

/-- The type of a column of a sample is that of a value some document of it has there. -/
theorem hasTyped_of_mem_columnsOfSample {collection : String} {r : ReportedColumn}
    (hr : r ∈ columnsOfSample collection documents) :
    ∃ document ∈ documents.take sampleSize, HasTyped r.column r.nativeType document := by
  rw [columnsOfSample_eq] at hr
  obtain ⟨path, hpath, rfl⟩ := List.mem_map.1 hr
  obtain ⟨fields, hfields, value, hvalue⟩ := mem_namesSeen_iff.1 (List.mem_eraseDups.1 hpath)
  have hmem : value ∈ valuesAt path (sampled documents) :=
    List.mem_filterMap.2 ⟨flatten fields, mem_sampled_iff.2 ⟨fields, hfields, rfl⟩,
      lookup_of_mem_flatten hvalue⟩
  obtain ⟨first, hfirst, htype⟩ := exists_typeName_firstType (List.ne_nil_of_mem hmem)
  obtain ⟨flat, hflat, hlookup⟩ := List.mem_filterMap.1 hfirst
  obtain ⟨fields, hfields, rfl⟩ := mem_sampled_iff.1 hflat
  exact ⟨.object fields, hfields, fields, first, rfl, hlookup, htype⟩

/-! ## Cells of sampled columns -/

/-- The marks of numbers. -/
def numberMarks : List String := ["$numberInt", "$numberLong", "$numberDouble", "$numberDecimal"]

/-- An object marks a number: the first of its marks is that of a number. -/
def MarksNumber (value : Json) : Prop :=
  ∃ members name payload, value = .object members
    ∧ members.find? (fun m => isMark m.1) = some (name, payload) ∧ name ∈ numberMarks

/-- Only numbers and objects that mark one have the type of a number. -/
theorem number_of_numeric (h : types.classify (typeName value) = .numeric) :
    (∃ x, value.number? = some x) ∨ MarksNumber value := by
  cases value with
  | int k => exact .inl ⟨_, rfl⟩
  | float x => exact .inl ⟨_, rfl⟩
  | null => exact absurd h (by decide +kernel)
  | bool b => exact absurd h (show types.classify "bool" ≠ .numeric by decide +kernel)
  | text s => exact absurd h (show types.classify "string" ≠ .numeric by decide +kernel)
  | list items => exact absurd h (show types.classify "object" ≠ .numeric by decide +kernel)
  | object members =>
    rw [typeName] at h
    split at h
    · next name payload hfind =>
      refine .inr ⟨members, name, payload, rfl, hfind, ?_⟩
      unfold markedType at h
      split at h <;> first | decide | exact absurd h (by decide +kernel)
    · exact absurd h (by decide +kernel)

/-- What stands in the cell of a column for a value of a document. A number that is marked stays as
it is. -/
def CellOf (type : ColumnType) (value cell : Json) : Prop :=
  match type with
  | .numeric => cell = value ∧ ((∃ x, cell.number? = some x) ∨ MarksNumber cell)
  | .datetime => cell = .null ∨ ∃ t : Instant, cell = .text t.iso
  | .hierarchy => cell = value

/-- A value of a column becomes what its own type asks for. -/
theorem cellOf_normalizeValue (value : Json) :
    CellOf (types.classify (typeName value)) value
      (normalizeValue (types.classify (typeName value)) value) := by
  cases htype : types.classify (typeName value) with
  | hierarchy => rfl
  | datetime =>
    rw [CellOf, normalizeValue, normalizeInstant]
    split
    · exact .inr ⟨_, rfl⟩
    · exact .inl rfl
  | numeric =>
    have hnumber := number_of_numeric htype
    have hsame : normalizeValue .numeric value = value := by
      cases value with
      | text s => obtain ⟨_, h⟩ | ⟨_, _, _, h, -⟩ := hnumber <;> cases h
      | null | bool | int | float | list | object => rfl
    rw [CellOf, hsame]
    exact ⟨rfl, hnumber⟩

/-- How the value of a sampled column is read from a row. -/
def outputOf (r : ReportedColumn) : OutputColumn :=
  Plan.output .nativeNames false (.column (Schema.columnOf types r) none, 0)

/-- **Rows have the values a sampled column was made from.** The type of a column of a sample is
that of a value which a document of the sample has at the path of the column. For every document
with a value of that type there, the row read from it has one cell for the column: the flat value
itself for a label, the text of an instant or `null` for an instant, and for a number the value
itself, which is a number or still the object that marks one. -/
theorem cell_of_columnsOfSample {collection : String} {r : ReportedColumn}
    (hr : r ∈ columnsOfSample collection documents) :
    (∃ document ∈ documents.take sampleSize, HasTyped r.column r.nativeType document)
      ∧ ∀ fields value, Json.lookup r.column (flatten fields) = some value →
          typeName value = r.nativeType → ∀ cursorId, ∃ cell,
            (pageOfBatch .rows [.object fields] cursorId).rows.map (normalize [outputOf r])
              = [[cell]]
            ∧ CellOf (types.classify r.nativeType) value cell := by
  refine ⟨hasTyped_of_mem_columnsOfSample hr, ?_⟩
  intro fields value hvalue htype cursorId
  refine ⟨normalizeValue (types.classify r.nativeType) value, ?_,
    htype ▸ cellOf_normalizeValue value⟩
  have hextract : (NativeRow.document (flatten fields)).extract 0 (outputOf r) = value :=
    lookupPath_flatten hvalue _
  have hcell : normalizeValue (types.classify r.nativeType)
      ((NativeRow.document (flatten fields)).extract 0 (outputOf r))
        = normalizeValue (types.classify r.nativeType) value := by
    rw [hextract]
  exact congrArg (fun cell => [[cell]]) hcell

section

/-- The fields of an order of one customer. -/
def visitFields : Members := [("customer", .list [.single "visits" (.int 3)])]

/-- The column of visits. -/
def visitsColumn : ReportedColumn := ⟨"orders", "customer.visits", "long", false⟩

/-- A number below a list of objects is found and comes out as it is. -/
theorem cell_of_columnsOfSample_visits :
    visitsColumn ∈ columnsOfSample "orders" [.object visitFields]
      ∧ (pageOfBatch .rows [.object visitFields] 0).rows.map (normalize [outputOf visitsColumn])
        = [[.int 3]] := by
  have hcolumn : visitsColumn ∈ columnsOfSample "orders" [.object visitFields] := by
    decide +kernel
  have htype : types.classify visitsColumn.nativeType = .numeric := by decide +kernel
  have hvalue : Json.lookup visitsColumn.column (flatten visitFields) = some (.int 3) := by
    decide +kernel
  obtain ⟨cell, hcell, hwhat⟩ := (cell_of_columnsOfSample hcolumn).2 _ _ hvalue rfl 0
  rw [htype] at hwhat
  exact ⟨hcolumn, by rw [hcell, hwhat.1]⟩

/-- The fields of an order with a marked number. -/
def markedFields : Members := [("qty", .single "$numberInt" (.text "2"))]

/-- The column of the marked number. -/
def markedColumn : ReportedColumn := ⟨"orders", "qty", "int", false⟩

/-- A marked number makes its column numeric, but the cell that is read for it is no number. -/
theorem not_number_marked :
    markedColumn ∈ columnsOfSample "orders" [.object markedFields]
      ∧ types.classify markedColumn.nativeType = .numeric
      ∧ (pageOfBatch .rows [.object markedFields] 0).rows.map (normalize [outputOf markedColumn])
        = [[.single "$numberInt" (.text "2")]]
      ∧ (Json.single "$numberInt" (.text "2")).number? = none := by
  refine ⟨?_, ?_, ?_, rfl⟩ <;> decide +kernel

end

end Document

end Pushdown
