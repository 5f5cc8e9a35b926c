import Mathlib.Data.List.Induction
import Mathlib.Data.List.Nodup
import Pushdown.Document.Flatten
import Pushdown.Proofs.Json.Members

/-!
# The columns of a sample, in order

A sample is read field by field, and what is known of it is a list of paths and a table of types.
The two stay in step: the paths of the list are those that have a type (`Document.Sighting.InStep`),
which one more field keeps so (`Document.Sighting.InStep.sight`, `Document.inStep_sightSample`).
Both are functions of the fields read so far. The paths are their names, each where it first occurs
(`Document.order_sightAll`), and the type of a path is that of the first value there whose type is
not `null` (`Document.typeOf_sightAll`).

Of a list of documents only the objects among the first ones are read (`Document.sampled`), and
`Document.columnsOfSample_firstSeen` says of these which columns there are, in which order and of
which type.
-/

namespace List

variable {α : Type} [BEq α] [LawfulBEq α]

/-- One more item is kept if it is new. -/
theorem eraseDups_concat (items : List α) (a : α) :
    (items ++ [a]).eraseDups = if a ∈ items then items.eraseDups else items.eraseDups ++ [a] := by
  rw [eraseDups_append, removeAll]
  by_cases ha : a ∈ items
  · simp [ha]
  · simp [ha, eraseDups_cons]

/-- The items that are kept stand in the order in which they first occur. -/
theorem pairwise_eraseDups (items : List α) :
    items.eraseDups.Pairwise fun a b => items.idxOf a < items.idxOf b := by
  induction items using List.reverseRecOn with
  | nil => exact Pairwise.nil
  | append_singleton items a ih =>
    have hbefore : items.eraseDups.Pairwise fun b c =>
        (items ++ [a]).idxOf b < (items ++ [a]).idxOf c := by
      refine ih.imp_of_mem fun hb hc hlt => ?_
      rwa [idxOf_append_of_mem (mem_eraseDups.1 hb), idxOf_append_of_mem (mem_eraseDups.1 hc)]
    rw [eraseDups_concat]
    split
    · exact hbefore
    · next ha =>
      refine pairwise_append.2 ⟨hbefore, pairwise_singleton _ _, fun b hb c hc => ?_⟩
      obtain rfl := mem_singleton.1 hc
      rw [idxOf_append_of_mem (mem_eraseDups.1 hb), idxOf_append_of_notMem ha]
      exact Nat.lt_add_right _ (idxOf_lt_length_of_mem (mem_eraseDups.1 hb))

/-- No item is kept twice. -/
theorem nodup_eraseDups (items : List α) : items.eraseDups.Nodup :=
  (pairwise_eraseDups items).imp fun hlt heq => absurd (congrArg items.idxOf heq) (Nat.ne_of_lt hlt)

end List

namespace Pushdown

namespace Document

variable {path : String}

/-! ## The type of a path -/

/-- The type of the first of some values whose type is not `null`. -/
def firstType (values : List Json) : String :=
  ((values.map typeName).find? fun type => type ≠ "null").getD "null"

/-- The first type of some values is that of one of them. -/
theorem exists_typeName_firstType {values : List Json} (h : values ≠ []) :
    ∃ value ∈ values, typeName value = firstType values := by
  rw [firstType]
  cases hfound : (values.map typeName).find? fun type => type ≠ "null" with
  | some type =>
    obtain ⟨value, hvalue, htype⟩ := List.mem_map.1 (List.mem_of_find?_eq_some hfound)
    exact ⟨value, hvalue, htype⟩
  | none =>
    obtain ⟨value, hvalue⟩ := List.exists_mem_of_ne_nil values h
    have hnull := List.find?_eq_none.1 hfound _ (List.mem_map_of_mem hvalue)
    exact ⟨value, hvalue, by simpa using hnull⟩

/-- One more value counts if none before it had a type. -/
theorem firstType_concat (values : List Json) (value : Json) :
    firstType (values ++ [value])
      = if firstType values = "null" then typeName value else firstType values := by
  rw [firstType, firstType, List.map_append, List.find?_append]
  cases hfound : (values.map typeName).find? fun type => type ≠ "null" with
  | some type =>
    have htype : type ≠ "null" := by simpa using List.find?_some hfound
    exact (if_neg htype).symm
  | none =>
    by_cases hvalue : typeName value = "null" <;> simp [hvalue]

/-- The values of the fields of a name, in their order. -/
def valuesOf (path : String) (fields : Members) : List Json :=
  (fields.filter fun field => field.1 = path).map Prod.snd

theorem valuesOf_append (path : String) (fields more : Members) :
    valuesOf path (fields ++ more) = valuesOf path fields ++ valuesOf path more := by
  rw [valuesOf, List.filter_append, List.map_append, ← valuesOf, ← valuesOf]

theorem valuesOf_cons (path : String) (field : String × Json) (fields : Members) :
    valuesOf path (field :: fields)
      = if field.1 = path then field.2 :: valuesOf path fields else valuesOf path fields := by
  rw [valuesOf, List.filter_cons]
  by_cases hpath : field.1 = path <;> simp [hpath, valuesOf]

theorem valuesOf_eq_nil {fields : Members} (h : path ∉ fields.map Prod.fst) :
    valuesOf path fields = [] := by
  induction fields with
  | nil => rfl
  | cons field rest ih =>
    rw [List.map_cons, List.mem_cons, not_or] at h
    rw [valuesOf_cons, if_neg (Ne.symm h.1), ih h.2]

/-- A flat document has at most one value for a path. -/
theorem valuesOf_of_nodup {fields : Members} (h : (fields.map Prod.fst).Nodup) (path : String) :
    valuesOf path fields = (Json.lookup path fields).toList := by
  induction fields with
  | nil => rfl
  | cons field rest ih =>
    obtain ⟨name, value⟩ := field
    obtain ⟨hname, hrest⟩ := List.nodup_cons.1 h
    rw [valuesOf_cons, Json.lookup]
    by_cases hpath : name = path
    · subst hpath
      rw [if_pos rfl, if_pos rfl, valuesOf_eq_nil hname]
      rfl
    · rw [if_neg hpath, if_neg hpath, ih hrest]

/-! ## One more field -/

/-- The paths that were seen are those that have a type. -/
def Sighting.InStep (seen : Sighting) : Prop :=
  ∀ path, path ∈ seen.order ↔ (seen.types.get? path).isSome

variable {seen : Sighting}

theorem Sighting.inStep_empty : Sighting.empty.InStep := by
  intro path
  simp [Sighting.empty]

/-- One more sighting shows a path that is new, or the first type of a path that was `null`, or
nothing new. -/
theorem sight_cases (path type : String) (seen : Sighting) :
    (seen.types.get? path = none
        ∧ sight path type seen = ⟨seen.order ++ [path], seen.types.insert path type⟩)
      ∨ (seen.types.get? path = some "null"
        ∧ sight path type seen = ⟨seen.order, seen.types.insert path type⟩)
      ∨ ∃ known, seen.types.get? path = some known ∧ (known = "null" → type = "null")
        ∧ sight path type seen = seen := by
  rw [sight]
  cases seen.types.get? path with
  | none => exact .inl ⟨rfl, rfl⟩
  | some known =>
    by_cases hnull : known = "null" ∧ type ≠ "null"
    · exact .inr (.inl ⟨by rw [hnull.1], if_pos hnull⟩)
    · refine .inr (.inr ⟨known, rfl, fun hknown => ?_, if_neg hnull⟩)
      exact not_not.1 fun htype => hnull ⟨hknown, htype⟩

/-- A path that is new is put at the end of the order, and the table has it from then on. -/
theorem Sighting.InStep.sight (h : seen.InStep) (path type : String) :
    (sight path type seen).InStep := by
  intro other
  obtain ⟨-, heq⟩ | ⟨hknown, heq⟩ | ⟨-, -, -, heq⟩ := sight_cases path type seen
  · rw [heq, List.mem_append, List.mem_singleton, h other, Table.get?_insert]
    by_cases hpath : path = other
    · simp [hpath]
    · simp [hpath, Ne.symm hpath]
  · rw [heq, h other, Table.get?_insert]
    by_cases hpath : path = other
    · simp [← hpath, hknown]
    · simp [hpath]
  · rw [heq, h other]

/-- The order of the paths after one more sighting. -/
theorem order_sight (h : seen.InStep) (path type : String) :
    (sight path type seen).order
      = if path ∈ seen.order then seen.order else seen.order ++ [path] := by
  have hpath := h path
  obtain ⟨hknown, heq⟩ | ⟨hknown, heq⟩ | ⟨known, hknown, -, heq⟩ := sight_cases path type seen <;>
    rw [hknown] at hpath
  · rw [heq, if_neg fun hmem => Bool.false_ne_true (hpath.1 hmem)]
  · rw [heq, if_pos (hpath.2 rfl)]
  · rw [heq, if_pos (hpath.2 rfl)]

/-- One more sighting gives its type to a path that has none, and to no other. -/
theorem typeOf_sight (path type other : String) (seen : Sighting) :
    (sight path type seen).typeOf other
      = if path = other ∧ seen.typeOf other = "null" then type else seen.typeOf other := by
  by_cases hpath : path = other
  · subst hpath
    obtain ⟨hknown, heq⟩ | ⟨hknown, heq⟩ | ⟨known, hknown, htype, heq⟩ :=
      sight_cases path type seen
    · simp [heq, Sighting.typeOf, Table.get?_insert, hknown]
    · simp [heq, Sighting.typeOf, Table.get?_insert, hknown]
    · rw [heq, Sighting.typeOf, hknown, Option.getD_some]
      split
      · next hnull => rw [hnull.2, htype hnull.2]
      · rfl
  · rw [if_neg fun h => hpath h.1]
    obtain ⟨-, heq⟩ | ⟨-, heq⟩ | ⟨-, -, -, heq⟩ := sight_cases path type seen
    · rw [heq, Sighting.typeOf, Table.get?_insert, if_neg hpath, Sighting.typeOf]
    · rw [heq, Sighting.typeOf, Table.get?_insert, if_neg hpath, Sighting.typeOf]
    · rw [heq]

/-- The sightings of some fields, one after the other. -/
def sightAll (fields : Members) : Sighting :=
  fields.foldl (fun seen field => sight field.1 (typeName field.2) seen) .empty

theorem sightAll_concat (fields : Members) (field : String × Json) :
    sightAll (fields ++ [field]) = sight field.1 (typeName field.2) (sightAll fields) :=
  List.foldl_concat ..

theorem inStep_sightAll (fields : Members) : (sightAll fields).InStep := by
  induction fields using List.reverseRecOn with
  | nil => exact Sighting.inStep_empty
  | append_singleton fields field ih =>
    rw [sightAll_concat]
    exact ih.sight _ _

/-- The paths that some fields show are their names, each where it first occurs. -/
theorem order_sightAll (fields : Members) :
    (sightAll fields).order = (fields.map Prod.fst).eraseDups := by
  induction fields using List.reverseRecOn with
  | nil => rfl
  | append_singleton fields field ih =>
    rw [sightAll_concat, order_sight (inStep_sightAll fields), ih, List.map_append,
      List.map_singleton, List.eraseDups_concat]
    simp only [List.mem_eraseDups]

/-- The type of a path is the first one of the values it has in some fields. -/
theorem typeOf_sightAll (fields : Members) (path : String) :
    (sightAll fields).typeOf path = firstType (valuesOf path fields) := by
  induction fields using List.reverseRecOn with
  | nil => rfl
  | append_singleton fields field ih =>
    rw [sightAll_concat, typeOf_sight, ih, valuesOf_append, valuesOf_cons]
    by_cases hpath : field.1 = path
    · rw [if_pos hpath, show valuesOf path [] = [] from rfl, firstType_concat]
      simp [hpath]
    · rw [if_neg hpath, show valuesOf path [] = [] from rfl, List.append_nil,
        if_neg fun h => hpath h.1]

/-! ## The documents that are read -/

/-- The flat documents of a sample: of the first documents those that are objects. -/
def sampled (documents : List Json) : List Members :=
  ((documents.take sampleSize).filterMap Json.members?).map flatten

/-- The values a path has in some flat documents, in their order. -/
def valuesAt (path : String) (flats : List Members) : List Json :=
  flats.filterMap (Json.lookup path)

/-- The names of the fields of a sample: those of the first document, then those of the next. -/
def namesSeen (documents : List Json) : List String :=
  (sampled documents).flatMap fun flat => flat.map Prod.fst

theorem mem_sampled_iff {documents : List Json} {flat : Members} :
    flat ∈ sampled documents
      ↔ ∃ fields, .object fields ∈ documents.take sampleSize ∧ flatten fields = flat := by
  rw [sampled, List.mem_map]
  refine exists_congr fun fields => and_congr_left fun _ => ?_
  rw [List.mem_filterMap]
  constructor
  · rintro ⟨document, hdocument, hfields⟩
    cases document with
    | object members =>
      obtain rfl : members = fields := Option.some.inj hfields
      exact hdocument
    | null | bool | int | float | text | list => cases hfields
  · intro h
    exact ⟨_, h, rfl⟩

theorem mem_namesSeen_iff {documents : List Json} :
    path ∈ namesSeen documents ↔ ∃ fields, .object fields ∈ documents.take sampleSize
      ∧ ∃ value, (path, value) ∈ flatten fields := by
  rw [namesSeen, List.mem_flatMap]
  constructor
  · rintro ⟨flat, hflat, hpath⟩
    obtain ⟨fields, hfields, rfl⟩ := mem_sampled_iff.1 hflat
    obtain ⟨⟨_, value⟩, hvalue, rfl⟩ := List.mem_map.1 hpath
    exact ⟨fields, hfields, value, hvalue⟩
  · rintro ⟨fields, hfields, value, hvalue⟩
    exact ⟨flatten fields, mem_sampled_iff.2 ⟨fields, hfields, rfl⟩, List.mem_map_of_mem hvalue⟩

/-- The documents of a sample are read as the fields of its flat documents, in order. -/
theorem foldl_sightDocument (documents : List Json) :
    documents.foldl sightDocument .empty
      = sightAll ((documents.filterMap Json.members?).map flatten).flatten := by
  induction documents using List.reverseRecOn with
  | nil => rfl
  | append_singleton documents document ih =>
    rw [List.foldl_concat, ih, List.filterMap_append]
    cases document with
    | object fields =>
      rw [List.filterMap_cons_some (rfl : (Json.object fields).members? = some fields),
        List.filterMap_nil, List.map_append, List.flatten_append, List.map_singleton,
        List.flatten_singleton, sightAll, sightAll, List.foldl_append]
      rfl
    | null | bool | int | float | text | list =>
      rw [List.filterMap_cons_none rfl, List.filterMap_nil, List.append_nil]
      rfl

theorem sightSample_eq (documents : List Json) :
    sightSample documents = sightAll (sampled documents).flatten :=
  foldl_sightDocument _

/-- What a sample shows is in step. -/
theorem inStep_sightSample (documents : List Json) : (sightSample documents).InStep := by
  rw [sightSample_eq]
  exact inStep_sightAll _

/-- Every flat document gives a path the value it has there. -/
theorem valuesOf_flatten {flats : List Members}
    (h : ∀ flat ∈ flats, (flat.map Prod.fst).Nodup) (path : String) :
    valuesOf path flats.flatten = valuesAt path flats := by
  induction flats with
  | nil => rfl
  | cons flat rest ih =>
    rw [List.flatten_cons, valuesOf_append, valuesOf_of_nodup (h flat List.mem_cons_self),
      ih fun flat hflat => h flat (List.mem_cons_of_mem _ hflat), valuesAt, valuesAt,
      List.filterMap_cons]
    cases Json.lookup path flat <;> rfl

theorem columnsOfSample_eq (collection : String) (documents : List Json) :
    columnsOfSample collection documents = (namesSeen documents).eraseDups.map fun path =>
      { dataset := collection
        column := path
        nativeType := firstType (valuesAt path (sampled documents))
        hasKeyword := false } := by
  have hnodup : ∀ flat ∈ sampled documents, (flat.map Prod.fst).Nodup := by
    intro flat hflat
    obtain ⟨fields, -, rfl⟩ := mem_sampled_iff.1 hflat
    exact Json.nodup_names_sortMembers _
  have hnames : (sampled documents).flatten.map Prod.fst = namesSeen documents := by
    rw [List.map_flatten, namesSeen, List.flatMap_def]
  rw [columnsOfSample, sightSample_eq, order_sightAll, hnames]
  refine List.map_congr_left fun path _ => ?_
  rw [typeOf_sightAll, valuesOf_flatten hnodup]

/-- **The columns of a sample.** There is one column for each path that some object among the first
documents has when it is flat, and no other. The paths stand in the order in which they first occur,
document by document and in each flat document in ascending order, so none of them twice. The type
of a path is that of the first value it has in these documents whose type is not `null`, and `null`
if there is none. Documents behind the first ones, and those that are no objects, change nothing. -/
theorem columnsOfSample_firstSeen (collection : String) (documents : List Json) :
    ∃ paths : List String,
      (columnsOfSample collection documents = paths.map fun path =>
        { dataset := collection
          column := path
          nativeType := firstType (valuesAt path (sampled documents))
          hasKeyword := false })
      ∧ (∀ path, path ∈ paths ↔ ∃ fields, .object fields ∈ documents.take sampleSize
          ∧ ∃ value, (path, value) ∈ flatten fields)
      ∧ paths.Nodup
      ∧ (paths.Pairwise fun path later =>
          (namesSeen documents).idxOf path < (namesSeen documents).idxOf later)
      ∧ (∀ flat ∈ sampled documents, Json.Ascending flat)
      ∧ columnsOfSample collection documents = columnsOfSample collection
          ((documents.take sampleSize).filter fun document => document.members?.isSome) := by
  refine ⟨(namesSeen documents).eraseDups, columnsOfSample_eq collection documents,
    fun path => List.mem_eraseDups.trans mem_namesSeen_iff, List.nodup_eraseDups _,
    List.pairwise_eraseDups _, fun flat hflat => ?_, ?_⟩
  · obtain ⟨fields, -, rfl⟩ := mem_sampled_iff.1 hflat
    exact Json.ascending_sortMembers _
  · have hlength : ((documents.take sampleSize).filter fun document =>
        document.members?.isSome).length ≤ sampleSize :=
      Nat.le_trans (List.length_filter_le _ _) (List.length_take_le _ _)
    have hsame : sampled ((documents.take sampleSize).filter fun document =>
        document.members?.isSome) = sampled documents := by
      rw [sampled, sampled, List.take_of_length_le hlength, List.filterMap_filter]
      congr 2
      funext document
      cases document <;> rfl
    rw [columnsOfSample_eq, columnsOfSample_eq, namesSeen, namesSeen, hsame]

/-- A path that is `null` at first gets the type of its first value, where it first stood. -/
example :
    (columnsOfSample "users"
      [.object [("name", .null)], .text "no document",
        .object [("age", .int 3), ("name", .text "a")], .object [("name", .bool true)]]).map
          (fun r => (r.column, r.nativeType))
      = [("name", "string"), ("age", "long")] := by
  decide +kernel

end Document

end Pushdown
