import Pushdown.Proofs.Json.Trees
import Pushdown.Search.Mapping

/-!
# The leaves of a mapping

A field of a mapping has fields below it or is a leaf, and a chain of names leads from the fields of
an index to each of its leaves (`Search.Leaf`). The columns of an index are its leaves, each once
and in the order of their chains (`Search.exists_isLeafList`), and
`Search.columnsOfMappings_leaves` is what the indices and their aliases get from that.

The name of a column is its chain joined with points, and a chain can be read off it again, with one
exception: the path so far is taken for that of the top while it is empty, so that empty names at
the start of a chain leave no trace. Then a field below a nameless one is reported under the name of
another: `Search.not_joined_nameless`.
-/

namespace Pushdown

namespace Search

/-! ## Fields and their chains -/

/-- The fields below a field, if it has any. -/
def nested? (field : Json) : Option Members :=
  (field.get? "properties").bind Json.members?

/-- The type of a field; one that has none is an object. -/
def fieldType (field : Json) : String :=
  ((field.get? "type").bind Json.text?).getD "object"

/-- The type of the sub-field for exact matches, if the field has one. -/
def keywordType? (field : Json) : Option String :=
  (((field.get? "fields").bind (Json.get? "keyword")).bind (Json.get? "type")).bind Json.text?

/-- A chain of names leads to a leaf field: all fields on its way have the next one below them, and
the last one has none. -/
inductive Leaf : Members → List String → Json → Prop
  | here {fields : Members} {name : String} {field : Json} (hfield : (name, field) ∈ fields)
      (hleaf : nested? field = none) : Leaf fields [name] field
  | inside {fields nested : Members} {name : String} {field leaf : Json} {chain : List String}
      (hfield : (name, field) ∈ fields) (hnested : nested? field = some nested)
      (h : Leaf nested chain leaf) : Leaf fields (name :: chain) leaf

/-- The chains to some leaves, with these, as far as they are columns: each once and in ascending
order. -/
structure IsLeafList (isLeaf : List String → Json → Prop) (leaves : List (List String × Json)) :
    Prop where
  mem_iff : ∀ chain field, (chain, field) ∈ leaves
    ↔ isLeaf chain field ∧ fieldType field ∉ excludedTypes
  ascending : leaves.Pairwise fun leaf leaf' => leaf.1 < leaf'.1

section
variable {fields rest nested : Members} {name : String} {field leaf : Json} {chain : List String}

/-- A chain begins with the name of a field. -/
theorem Leaf.head_mem (h : Leaf fields chain leaf) :
    ∃ name tail, chain = name :: tail ∧ name ∈ fields.map Prod.fst := by
  cases h with
  | here hfield => exact ⟨_, _, rfl, List.mem_map_of_mem hfield⟩
  | inside hfield => exact ⟨_, _, rfl, List.mem_map_of_mem hfield⟩

theorem leaf_nil : ¬ Leaf [] chain leaf := by
  intro h
  obtain ⟨_, _, -, hname⟩ := h.head_mem
  cases hname

theorem Leaf.cons (h : Leaf rest chain leaf) : Leaf ((name, field) :: rest) chain leaf := by
  cases h with
  | here hfield hleaf => exact .here (List.mem_cons_of_mem _ hfield) hleaf
  | inside hfield hnested h => exact .inside (List.mem_cons_of_mem _ hfield) hnested h

/-- The leaves of some fields are the first of them, if it is one, and those of the others. -/
theorem leaf_cons_of_leaf (hleaf : nested? field = none) :
    Leaf ((name, field) :: rest) chain leaf
      ↔ (chain = [name] ∧ leaf = field) ∨ Leaf rest chain leaf := by
  constructor
  · intro h
    cases h with
    | here hfield hnone =>
      rcases List.mem_cons.1 hfield with heq | hfield
      · obtain ⟨rfl, rfl⟩ := Prod.mk.inj heq
        exact .inl ⟨rfl, rfl⟩
      · exact .inr (.here hfield hnone)
    | inside hfield hnested h =>
      rcases List.mem_cons.1 hfield with heq | hfield
      · obtain ⟨rfl, rfl⟩ := Prod.mk.inj heq
        rw [hleaf] at hnested
        cases hnested
      · exact .inr (.inside hfield hnested h)
  · rintro (⟨rfl, rfl⟩ | h)
    · exact .here List.mem_cons_self hleaf
    · exact h.cons

/-- The leaves of some fields are those below the first of them and those of the others. -/
theorem leaf_cons_of_nested (hnested : nested? field = some nested) :
    Leaf ((name, field) :: rest) chain leaf
      ↔ (∃ tail, chain = name :: tail ∧ Leaf nested tail leaf) ∨ Leaf rest chain leaf := by
  constructor
  · intro h
    cases h with
    | here hfield hnone =>
      rcases List.mem_cons.1 hfield with heq | hfield
      · obtain ⟨rfl, rfl⟩ := Prod.mk.inj heq
        rw [hnested] at hnone
        cases hnone
      · exact .inr (.here hfield hnone)
    | inside hfield hnested' h =>
      rcases List.mem_cons.1 hfield with heq | hfield
      · obtain ⟨rfl, rfl⟩ := Prod.mk.inj heq
        rw [hnested] at hnested'
        cases hnested'
        exact .inl ⟨_, rfl, h⟩
      · exact .inr (.inside hfield hnested' h)
  · rintro (⟨tail, rfl, h⟩ | h)
    · exact .inside List.mem_cons_self hnested h
    · exact h.cons

end

/-! ## Lists of leaves -/

namespace IsLeafList

variable {fields rest nested : Members} {name : String} {field : Json}
  {leaves inner : List (List String × Json)}

theorem nil : IsLeafList (Leaf []) [] where
  mem_iff _ _ := iff_of_false List.not_mem_nil fun h => leaf_nil h.1
  ascending := List.Pairwise.nil

/-- The chains of later fields come later. -/
theorem lt_of_mem (h : IsLeafList (Leaf rest) leaves) (hnames : ∀ m ∈ rest, name < m.1)
    {leaf : List String × Json} (hleaf : leaf ∈ leaves) (tail : List String) :
    name :: tail < leaf.1 := by
  obtain ⟨first, tail', hchain, hfirst⟩ := ((h.mem_iff leaf.1 leaf.2).1 hleaf).1.head_mem
  obtain ⟨m, hm, rfl⟩ := List.mem_map.1 hfirst
  rw [hchain]
  exact List.cons_lt_cons_iff.2 (.inl (hnames m hm))

/-- A leaf stands before those of the later fields, unless it is no column. -/
theorem cons_leaf (h : IsLeafList (Leaf rest) leaves) (hnames : ∀ m ∈ rest, name < m.1)
    (hleaf : nested? field = none) :
    IsLeafList (Leaf ((name, field) :: rest))
      (if fieldType field ∈ excludedTypes then leaves else ([name], field) :: leaves) where
  mem_iff chain field' := by
    rw [leaf_cons_of_leaf hleaf, or_and_right, ← h.mem_iff]
    split
    · next hexcluded =>
      refine ⟨.inr, fun h => h.resolve_left ?_⟩
      rintro ⟨⟨-, rfl⟩, hincluded⟩
      exact hincluded hexcluded
    · next hincluded =>
      rw [List.mem_cons, Prod.mk.injEq]
      refine or_congr_left (iff_self_and.2 ?_)
      rintro ⟨-, rfl⟩
      exact hincluded
  ascending := by
    split
    · exact h.ascending
    · exact List.pairwise_cons.2 ⟨fun leaf hleaf => h.lt_of_mem hnames hleaf [], h.ascending⟩

/-- The leaves below a field stand before those of the later fields. -/
theorem cons_nested (h : IsLeafList (Leaf rest) leaves) (hnames : ∀ m ∈ rest, name < m.1)
    (hnested : nested? field = some nested) (hinner : IsLeafList (Leaf nested) inner) :
    IsLeafList (Leaf ((name, field) :: rest))
      (inner.map (fun leaf => (name :: leaf.1, leaf.2)) ++ leaves) where
  mem_iff chain field' := by
    rw [leaf_cons_of_nested hnested, or_and_right, ← h.mem_iff, List.mem_append]
    refine or_congr_left ?_
    rw [List.mem_map]
    constructor
    · rintro ⟨leaf, hleaf, heq⟩
      obtain ⟨rfl, rfl⟩ := Prod.mk.inj heq
      obtain ⟨hleaf, hincluded⟩ := (hinner.mem_iff leaf.1 leaf.2).1 hleaf
      exact ⟨⟨leaf.1, rfl, hleaf⟩, hincluded⟩
    · rintro ⟨⟨tail, rfl, hleaf⟩, hincluded⟩
      exact ⟨(tail, field'), (hinner.mem_iff tail field').2 ⟨hleaf, hincluded⟩, rfl⟩
  ascending := by
    refine List.pairwise_append.2 ⟨?_, h.ascending, ?_⟩
    · refine List.pairwise_map.2 (hinner.ascending.imp fun hlt => ?_)
      exact List.cons_lt_cons_iff.2 (.inr ⟨rfl, hlt⟩)
    · intro leaf hleaf leaf' hleaf'
      obtain ⟨leaf, -, rfl⟩ := List.mem_map.1 hleaf
      exact h.lt_of_mem hnames hleaf' leaf.1

end IsLeafList

/-! ## The columns of the leaves -/

/-- Members that are found have fewer parts than the value they are found in. -/
theorem sizeOf_lt_of_nested? {field : Json} {nested : Members} (h : nested? field = some nested) :
    sizeOf nested < sizeOf field := by
  obtain ⟨value, hvalue, hnested⟩ := Option.bind_eq_some_iff.1 h
  cases value with
  | object members =>
    cases hnested
    cases field with
    | object fields =>
      have hlt := List.sizeOf_lt_of_mem (Json.mem_of_lookup hvalue)
      simp only [Prod.mk.sizeOf_spec, Json.object.sizeOf_spec] at hlt ⊢
      omega
    | null | bool | int | float | text | list => cases hvalue
  | null | bool | int | float | text | list => cases hnested

theorem isOrdered_of_nested? {field : Json} {nested : Members} (h : field.IsOrdered)
    (hnested : nested? field = some nested) : (Json.object nested).IsOrdered := by
  obtain ⟨value, hvalue, hmembers⟩ := Option.bind_eq_some_iff.1 hnested
  have hordered := h.get? hvalue
  cases value with
  | object members => cases hmembers; exact hordered
  | null | bool | int | float | text | list => cases hmembers

/-- The fields of a mapping are gone through one by one, and for each of them those below it. -/
@[elab_as_elim]
theorem fieldsInduction {motive : Members → Prop} (nil : motive [])
    (leaf : ∀ name field rest, nested? field = none → motive rest → motive ((name, field) :: rest))
    (nested : ∀ name field nested rest, nested? field = some nested → motive nested →
      motive rest → motive ((name, field) :: rest)) :
    ∀ fields, motive fields
  | [] => nil
  | (name, field) :: rest =>
    match h : nested? field with
    | none => leaf name field rest h (fieldsInduction nil leaf nested rest)
    | some fields =>
      nested name field fields rest h (fieldsInduction nil leaf nested fields)
        (fieldsInduction nil leaf nested rest)
termination_by fields => sizeOf fields
decreasing_by
  · simp only [List.cons.sizeOf_spec, Prod.mk.sizeOf_spec]
    omega
  · have hlt := sizeOf_lt_of_nested? h
    simp only [List.cons.sizeOf_spec, Prod.mk.sizeOf_spec]
    omega
  · simp only [List.cons.sizeOf_spec, Prod.mk.sizeOf_spec]
    omega

section
variable {name : String} {field : Json} {rest nested : Members}

/-- The columns of a field are those of the fields below it, or its own when it has none below. -/
theorem fieldColumns_eq (index path : String) (field : Json) (members : Members) :
    fieldColumns index path field members
      = match (Json.lookup "properties" members).bind Json.members? with
        | some nested => fieldsColumns index path nested
        | none => (leafColumn? index path field).toList := by
  induction members with
  | nil => rfl
  | cons m rest ih =>
    obtain ⟨key, value⟩ := m
    rw [Json.lookup]
    by_cases hkey : key = "properties"
    · rw [if_pos hkey]
      cases value <;> simp [fieldColumns, hkey, Json.members?]
    · rw [if_neg hkey]
      cases value <;> simpa [fieldColumns, hkey] using ih

theorem fieldsColumns_cons (index path : String) :
    fieldsColumns index path ((name, field) :: rest)
      = (match nested? field with
        | some nested => fieldsColumns index (below path name) nested
        | none => (leafColumn? index (below path name) field).toList)
        ++ fieldsColumns index path rest := by
  cases field with
  | object members => rw [fieldsColumns, fieldColumns_eq]; rfl
  | null | bool | int | float | text | list => rfl

/-- The column of a leaf field at a path. -/
def columnAt (dataset path : String) (field : Json) : ReportedColumn :=
  { dataset
    column := path
    nativeType := fieldType field
    hasKeyword := fieldType field ≠ "keyword" ∧ keywordType? field = some "keyword" }

/-- What is found by names that spell no index is found by the members of objects. -/
theorem at?_keyword (field : Json) :
    (field.at? ["fields", "keyword", "type"]).bind Json.text? = keywordType? field := by
  have hstep (name : String) (hname : Json.indexOf? name = none) (j : Json) :
      j.step? name = j.get? name := by
    cases j <;> simp [Json.step?, Json.get?, hname]
  simp only [Json.at?, hstep "fields" (by decide), hstep "keyword" (by decide),
    hstep "type" (by decide), keywordType?, Option.bind_assoc, Option.bind_some]

theorem leafColumn?_eq (index path : String) (field : Json) :
    leafColumn? index path field
      = if fieldType field ∈ excludedTypes then none else some (columnAt index path field) := by
  rw [leafColumn?, ← fieldType]
  simp only [at?_keyword, List.contains_iff_mem, columnAt, Bool.decide_and]

/-- The fields of an index have a list of their leaves, and are reported as its columns. -/
theorem exists_isLeafList {fields : Members} (h : (Json.object fields).IsOrdered) :
    ∃ leaves, IsLeafList (Leaf fields) leaves ∧ ∀ index path, fieldsColumns index path fields
      = leaves.map fun leaf => columnAt index (leaf.1.foldl below path) leaf.2 := by
  induction fields using fieldsInduction with
  | nil => exact ⟨[], .nil, fun _ _ => rfl⟩
  | leaf name field rest hleaf ih =>
    obtain ⟨hascending, -, hrest⟩ := h
    obtain ⟨hnames, hascending⟩ := List.pairwise_cons.1 hascending
    obtain ⟨leaves, hleaves, hcolumns⟩ := ih ⟨hascending, hrest⟩
    refine ⟨_, hleaves.cons_leaf hnames hleaf, fun index path => ?_⟩
    rw [fieldsColumns_cons, hleaf, hcolumns]
    show (leafColumn? index (below path name) field).toList ++ _ = _
    rw [leafColumn?_eq]
    split <;> rfl
  | nested name field nested rest hnested ihnested ih =>
    obtain ⟨hascending, hfield, hrest⟩ := h
    obtain ⟨hnames, hascending⟩ := List.pairwise_cons.1 hascending
    obtain ⟨leaves, hleaves, hcolumns⟩ := ih ⟨hascending, hrest⟩
    obtain ⟨inner, hinner, hinnerColumns⟩ := ihnested (isOrdered_of_nested? hfield hnested)
    refine ⟨_, hleaves.cons_nested hnames hnested hinner, fun index path => ?_⟩
    rw [fieldsColumns_cons, hnested, hcolumns, List.map_append, List.map_map]
    exact congrArg (· ++ _) (hinnerColumns index (below path name))

end

/-! ## The names of columns -/

/-- A chain of names joined with points; empty names at its start are left out. -/
def chainName (chain : List String) : String :=
  ".".intercalate (chain.dropWhile String.isEmpty)

theorem foldl_below_of_ne_empty {path : String} (h : path ≠ "") (chain : List String) :
    chain.foldl below path = ".".intercalate (path :: chain) := by
  induction chain generalizing path with
  | nil => exact String.intercalate_singleton.symm
  | cons name rest ih =>
    have hbelow : below path name = path ++ "." ++ name := if_neg (by simpa using h)
    rw [List.foldl_cons, hbelow, ih (by simp [h]), String.intercalate_cons_cons]
    cases rest with
    | nil => rw [String.intercalate_singleton, String.intercalate_singleton]
    | cons next rest =>
      rw [String.intercalate_cons_cons, String.intercalate_cons_cons]
      simp only [String.append_assoc]

/-- The path of a field is the name of its chain. -/
theorem foldl_below (chain : List String) : chain.foldl below "" = chainName chain := by
  induction chain with
  | nil => rfl
  | cons name rest ih =>
    have hbelow : below "" name = name := rfl
    rw [List.foldl_cons, hbelow, chainName]
    by_cases hname : name = ""
    · subst hname
      exact ih
    · rw [foldl_below_of_ne_empty hname, List.dropWhile_cons_of_neg (by simpa using hname)]

/-! ## Indices and their aliases -/

/-- The fields of a mapping: its own, or else those of the first document type that has any. -/
inductive Fields : Json → Members → Prop
  | own {mapping : Json} {fields : Members}
      (h : mapping.get? "properties" = some (.object fields)) : Fields mapping fields
  | ofType {before after fields : Members} {name : String} {type : Json}
      (hown : (Json.object (before ++ (name, type) :: after)).get? "properties" = none)
      (hbefore : ∀ m ∈ before, m.2.get? "properties" = none)
      (h : type.get? "properties" = some (.object fields)) :
      Fields (.object (before ++ (name, type) :: after)) fields

/-- A chain of names leads to a leaf field of an index. -/
def LeafOf (index : Json) (chain : List String) (field : Json) : Prop :=
  ∃ mapping fields, index.get? "mappings" = some mapping ∧ Fields mapping fields
    ∧ Leaf fields chain field

theorem members?_eq_some_iff {j : Json} {members : Members} :
    j.members? = some members ↔ j = .object members := by
  cases j <;> simp [Json.members?]

/-- The fields of a mapping are found. -/
theorem fields_iff {mapping : Json} {fields : Members} :
    Fields mapping fields ↔ (properties? mapping).bind Json.members? = some fields := by
  rw [properties?, Option.bind_eq_some_iff]
  constructor
  · rintro (h | ⟨hown, hbefore, h⟩)
    · exact ⟨.object fields, by rw [h, Option.some_or], rfl⟩
    · refine ⟨.object fields, ?_, rfl⟩
      rw [hown, Option.none_or]
      exact List.findSome?_eq_some_iff.2 ⟨_, _, _, rfl, h, hbefore⟩
  · rintro ⟨value, hvalue, hmembers⟩
    obtain rfl := members?_eq_some_iff.1 hmembers
    rcases Option.or_eq_some_iff.1 hvalue with h | ⟨hown, h⟩
    · exact .own h
    · obtain ⟨types, htypes, hfound⟩ := Option.bind_eq_some_iff.1 h
      obtain rfl := members?_eq_some_iff.1 htypes
      obtain ⟨before, ⟨name, type⟩, after, rfl, htype, hbefore⟩ :=
        List.findSome?_eq_some_iff.1 hfound
      exact .ofType hown hbefore htype

/-- What is found among the types of a mapping in order is in order. -/
theorem Fields.isOrdered {mapping : Json} {fields : Members} (h : Fields mapping fields)
    (hmapping : mapping.IsOrdered) : (Json.object fields).IsOrdered := by
  cases h with
  | own h => exact hmapping.get? h
  | ofType hown hbefore h =>
    have htype := Json.membersOrdered_iff.1 hmapping.2 _
      (List.mem_append_right _ List.mem_cons_self)
    exact Json.IsOrdered.get? htype h

/-- The columns that an index reports, if it has a mapping. -/
def reportedColumns (name : String) (index : Json) : List ReportedColumn :=
  ((index.get? "mappings").map (indexColumns name)).getD []

/-- An index has a list of its leaves, and reports them as its columns. -/
theorem exists_isLeafList_index {index : Json} (h : index.IsOrdered) :
    ∃ leaves, IsLeafList (LeafOf index) leaves ∧ ∀ name, reportedColumns name index
      = leaves.map fun leaf => columnAt name (chainName leaf.1) leaf.2 := by
  by_cases hfields : ∃ mapping fields, index.get? "mappings" = some mapping ∧ Fields mapping fields
  · obtain ⟨mapping, fields, hmapping, hfields⟩ := hfields
    have hfound := fields_iff.1 hfields
    have hunique (chain : List String) (field : Json) :
        LeafOf index chain field ↔ Leaf fields chain field := by
      constructor
      · rintro ⟨mapping', fields', hmapping', hfields', hleaf⟩
        obtain rfl := Option.some.inj (hmapping.symm.trans hmapping')
        obtain rfl := Option.some.inj (hfound.symm.trans (fields_iff.1 hfields'))
        exact hleaf
      · exact fun hleaf => ⟨mapping, fields, hmapping, hfields, hleaf⟩
    obtain ⟨leaves, hleaves, hcolumns⟩ :=
      exists_isLeafList (hfields.isOrdered (h.get? hmapping))
    refine ⟨leaves, ⟨fun chain field => ?_, hleaves.ascending⟩, fun name => ?_⟩
    · rw [hunique, hleaves.mem_iff]
    · rw [reportedColumns, hmapping, Option.map_some, Option.getD_some, indexColumns, hfound,
        Option.getD_some, hcolumns]
      simp only [foldl_below]
  · refine ⟨[], ⟨fun chain field => iff_of_false List.not_mem_nil ?_, List.Pairwise.nil⟩, ?_⟩
    · rintro ⟨⟨mapping, fields, hmapping, hfound, -⟩, -⟩
      exact hfields ⟨mapping, fields, hmapping, hfound⟩
    · intro name
      rw [reportedColumns]
      cases hmapping : index.get? "mappings" with
      | none => rfl
      | some mapping =>
        have hnone : (properties? mapping).bind Json.members? = none := by
          refine Option.eq_none_iff_forall_ne_some.2 fun fields hfound => ?_
          exact hfields ⟨mapping, fields, hmapping, fields_iff.2 hfound⟩
        rw [Option.map_some, Option.getD_some, indexColumns, hnone]
        rfl

/-- A name is that of an alias of an index. -/
def IsAlias (aliases : Option Json) (index name : String) : Prop :=
  ∃ document ∈ aliases, ∃ members, document.at? [index, "aliases"] = some (.object members)
    ∧ name ∈ members.map Prod.fst

theorem mem_aliasNames_iff {aliases : Option Json} {index name : String} :
    name ∈ aliasNames aliases index ↔ IsAlias aliases index name := by
  rw [aliasNames]
  constructor
  · intro h
    cases hmembers : (aliases.bind (Json.at? [index, "aliases"])).bind Json.members? with
    | none => rw [hmembers] at h; cases h
    | some members =>
      rw [hmembers] at h
      obtain ⟨value, hvalue, hobject⟩ := Option.bind_eq_some_iff.1 hmembers
      obtain rfl := members?_eq_some_iff.1 hobject
      obtain ⟨document, hdocument, hfound⟩ := Option.bind_eq_some_iff.1 hvalue
      exact ⟨document, hdocument, members, hfound, h⟩
  · rintro ⟨document, hdocument, members, hfound, hname⟩
    obtain rfl : aliases = some document := hdocument
    rwa [Option.bind_some, hfound, Option.bind_some, Json.members?, Option.getD_some]

/-- The names of aliases stand in ascending order. -/
theorem ascending_aliasNames {aliases : Option Json} (h : ∀ document ∈ aliases, document.IsOrdered)
    (index : String) : (aliasNames aliases index).Pairwise (· < ·) := by
  rw [aliasNames]
  cases hmembers : (aliases.bind (Json.at? [index, "aliases"])).bind Json.members? with
  | none => exact List.Pairwise.nil
  | some members =>
    obtain ⟨value, hvalue, hobject⟩ := Option.bind_eq_some_iff.1 hmembers
    obtain rfl := members?_eq_some_iff.1 hobject
    obtain ⟨document, hdocument, hfound⟩ := Option.bind_eq_some_iff.1 hvalue
    exact List.pairwise_map.2 ((h document hdocument).at? hfound).1

/-- The column of a leaf. -/
def leafColumn (dataset : String) (leaf : List String × Json) : ReportedColumn :=
  columnAt dataset (chainName leaf.1) leaf.2

/-- What is reported for a dataset of the leaves of an index is a copy of what is reported for
another one. -/
theorem map_leafColumn (dataset other : String) (leaves : List (List String × Json)) :
    (leaves.map (leafColumn other)).map (fun c => { c with dataset := dataset })
      = leaves.map (leafColumn dataset) :=
  List.map_map

/-- What is reported for one index: a copy of its columns for each alias, and its own. -/
theorem columnsOfMappings_single {name : String} {body : Json} (hexposed : isExposed name = true)
    {leaves : List (List String × Json)}
    (h : reportedColumns name body = leaves.map (leafColumn name)) (aliases : Option Json) :
    columnsOfMappings (.object [(name, body)]) aliases
      = (aliasNames aliases name ++ [name]).flatMap fun dataset =>
        leaves.map (leafColumn dataset) := by
  rw [columnsOfMappings, Json.members?, Option.getD_some, List.flatMap_singleton,
    if_neg (by simp [hexposed]), List.flatMap_append, List.flatMap_singleton]
  rw [reportedColumns] at h
  cases hmapping : body.get? "mappings" with
  | none =>
    rw [hmapping] at h
    have hnone : leaves = [] := List.map_eq_nil_iff.1 h.symm
    simp [hnone]
  | some mapping =>
    rw [hmapping, Option.map_some, Option.getD_some] at h
    simp only [h, map_leafColumn]

/-- An index that is exposed and its aliases each have the columns of its leaves. -/
theorem exists_leaves_columnsOfMappings {members : Members}
    (h : ∀ m ∈ members, m.2.IsOrdered) (aliases : Option Json) :
    ∃ indices : List (String × List (List String × Json)),
      indices.map Prod.fst = (members.map Prod.fst).filter isExposed
      ∧ (∀ index ∈ indices, ∃ body, (index.1, body) ∈ members
        ∧ IsLeafList (LeafOf body) index.2)
      ∧ columnsOfMappings (.object members) aliases = indices.flatMap fun index =>
        (aliasNames aliases index.1 ++ [index.1]).flatMap fun dataset =>
          index.2.map (leafColumn dataset) := by
  induction members with
  | nil => exact ⟨[], rfl, List.forall_mem_nil _, rfl⟩
  | cons entry rest ih =>
    obtain ⟨name, body⟩ := entry
    obtain ⟨hbody, hrest⟩ := List.forall_mem_cons.1 h
    obtain ⟨indices, hnames, hleaves, hcolumns⟩ := ih hrest
    have hlater : ∀ index ∈ indices, ∃ body', (index.1, body') ∈ (name, body) :: rest
        ∧ IsLeafList (LeafOf body') index.2 := fun index hindex =>
      (hleaves index hindex).imp fun _ hbody' => hbody'.imp_left (List.mem_cons_of_mem _)
    have hsplit : columnsOfMappings (.object ((name, body) :: rest)) aliases
        = columnsOfMappings (.object [(name, body)]) aliases
          ++ columnsOfMappings (.object rest) aliases := by
      simp [columnsOfMappings, Json.members?]
    cases hexposed : isExposed name with
    | false =>
      refine ⟨indices, ?_, hlater, ?_⟩
      · rw [hnames, List.map_cons, List.filter_cons_of_neg (by simp [hexposed])]
      · rw [hsplit, hcolumns]
        simp [columnsOfMappings, Json.members?, hexposed]
    | true =>
      obtain ⟨leaves, hleafList, hreported⟩ := exists_isLeafList_index hbody
      refine ⟨(name, leaves) :: indices, ?_, ?_, ?_⟩
      · rw [List.map_cons, hnames, List.map_cons, List.filter_cons_of_pos hexposed]
      · exact List.forall_mem_cons.2 ⟨⟨body, List.mem_cons_self, hleafList⟩, hlater⟩
      · rw [hsplit, hcolumns, List.flatMap_cons]
        exact congrArg (· ++ _) (columnsOfMappings_single hexposed (hreported name) aliases)

/-- What is reported for some mappings: the indices in ascending order of their names, each with the
list of its leaves, and for each of them the columns of these leaves, once for every alias and then
for the index. -/
structure ReportedIndices (mappings : Json) (aliases : Option Json)
    (indices : List (String × List (List String × Json))) : Prop where
  ascending : indices.Pairwise fun index index' => index.1 < index'.1
  mem_names_iff : ∀ name, name ∈ indices.map Prod.fst
    ↔ isExposed name ∧ (mappings.get? name).isSome
  leaves : ∀ index ∈ indices, ∃ body, mappings.get? index.1 = some body
    ∧ IsLeafList (LeafOf body) index.2
  aliasNames_ascending : ∀ index, (aliasNames aliases index).Pairwise (· < ·)
    ∧ ∀ name, name ∈ aliasNames aliases index ↔ IsAlias aliases index name
  columns : columnsOfMappings mappings aliases = indices.flatMap fun index =>
    (aliasNames aliases index.1 ++ [index.1]).flatMap fun dataset => index.2.map fun leaf =>
      { dataset
        column := ".".intercalate (leaf.1.dropWhile String.isEmpty)
        nativeType := fieldType leaf.2
        hasKeyword := fieldType leaf.2 ≠ "keyword" ∧ keywordType? leaf.2 = some "keyword" }

/-- **The columns of a mapping.** Each exposed index is there once, in ascending order of the names,
and has one column for each of its leaf fields whose type is not geographic: for each chain of names
that leads through objects of fields to a field without any below it. The chains stand in ascending
order. A column has the name of its chain, the type of its field, and a keyword if its type is
another one and it has a sub-field `keyword` of the type `keyword`. Each alias of the index has a
copy of these columns, in the same order. Of other indices nothing is reported, not even for their
aliases. -/
theorem columnsOfMappings_leaves {mappings : Json} (hmappings : mappings.IsOrdered)
    {aliases : Option Json} (haliases : ∀ document ∈ aliases, document.IsOrdered) :
    ∃ indices, ReportedIndices mappings aliases indices := by
  have halias (index : String) : (aliasNames aliases index).Pairwise (· < ·)
      ∧ ∀ name, name ∈ aliasNames aliases index ↔ IsAlias aliases index name :=
    ⟨ascending_aliasNames haliases index, fun _ => mem_aliasNames_iff⟩
  cases mappings with
  | object members =>
    obtain ⟨hascending, hordered⟩ := hmappings
    have hnodup : (members.map Prod.fst).Nodup :=
      List.pairwise_map.2 (hascending.imp String.ne_of_lt)
    obtain ⟨indices, hnames, hleaves, hcolumns⟩ :=
      exists_leaves_columnsOfMappings (Json.membersOrdered_iff.1 hordered) aliases
    refine ⟨indices, ?_, fun name => ?_, fun index hindex => ?_, halias, hcolumns⟩
    · refine List.pairwise_map.1 (?_ : (indices.map Prod.fst).Pairwise (· < ·))
      rw [hnames]
      exact (List.pairwise_map.2 hascending).filter _
    · have hfound : (Json.lookup name members).isSome ↔ name ∈ members.map Prod.fst := by
        rw [Option.isSome_iff_ne_none, ne_eq, Json.lookup_eq_none_iff, not_not]
      rw [hnames, List.mem_filter, and_comm]
      exact and_congr_right fun _ => hfound.symm
    · obtain ⟨body, hbody, hlist⟩ := hleaves index hindex
      exact ⟨body, Json.lookup_eq_some_of_mem hnodup hbody, hlist⟩
  | null | bool | int | float | text | list =>
    refine ⟨[], List.Pairwise.nil, fun name => ?_, List.forall_mem_nil _, halias, rfl⟩
    simp [Json.get?]

section

/-- An index with a text that has a keyword, a place and a customer, and a hidden index. -/
def orderMappings : Json := .object
  [ (".kibana",
      .single "mappings" (.single "properties" (.single "x" (.single "type" (.text "long"))))),
    ("Orders", .single "mappings" (.single "properties" (.object
      [ ("customer", .single "properties" (.single "name" (.single "type" (.text "keyword")))),
        ("place", .single "type" (.text "geo_point")),
        ("status", .object
          [ ("fields", .single "keyword" (.single "type" (.text "keyword"))),
            ("type", .text "text") ]) ]))) ]

/-- An alias of the index, and one of the hidden index. -/
def orderAliases : Json := .object
  [ (".kibana", .single "aliases" (.single "board" (.object []))),
    ("Orders", .single "aliases" (.single "sales" (.object []))) ]

/-- Of two indices the one that is exposed is there. -/
theorem columnsOfMappings_leaves_orders :
    orderMappings.IsOrdered ∧ orderAliases.IsOrdered
      ∧ ∃ indices, ReportedIndices orderMappings (some orderAliases) indices
        ∧ ∀ name, name ∈ indices.map Prod.fst ↔ name = "Orders" := by
  have hmappings : orderMappings.IsOrdered := by
    simp only [orderMappings, Json.single, Json.IsOrdered, Json.Ascending, Json.MembersOrdered]
    decide
  have haliases : orderAliases.IsOrdered := by
    simp only [orderAliases, Json.single, Json.IsOrdered, Json.Ascending, Json.MembersOrdered]
    decide
  obtain ⟨indices, hindices⟩ := columnsOfMappings_leaves hmappings
    (fun document hdocument => Option.some.inj hdocument ▸ haliases)
  refine ⟨hmappings, haliases, indices, hindices, fun name => ?_⟩
  rw [hindices.mem_names_iff, orderMappings, Json.get?, Json.lookup, Json.lookup]
  split
  · next hname => exact iff_of_false (fun h => absurd h.1 (hname ▸ by decide)) (by simp [← hname])
  · split
    · next hname => exact iff_of_true ⟨hname ▸ by decide, rfl⟩ hname.symm
    · next hname => simp [Ne.symm hname]

example :
    (columnsOfMappings orderMappings (some orderAliases)).map (fun c => (c.dataset, c.column))
      = [("sales", "customer.name"), ("sales", "status"), ("Orders", "customer.name"),
        ("Orders", "status")] := by
  decide +kernel

/-- An index with a field of numbers below one without a name. -/
def namelessIndex : Json :=
  .single "mappings" (.single "properties"
    (.single "" (.single "properties" (.single "a" (.single "type" (.text "long"))))))

/-- A leaf whose chain begins with an empty name is not reported under its chain joined with points,
but under the name of a field at the top. -/
theorem not_joined_nameless :
    (∃ field, LeafOf namelessIndex ["", "a"] field ∧ fieldType field = "long")
      ∧ ".".intercalate ["", "a"] = ".a"
      ∧ columnsOfMappings (.single "orders" namelessIndex) none
        = [⟨"orders", "a", "long", false⟩] := by
  refine ⟨⟨.single "type" (.text "long"), ⟨_, _, rfl, .own rfl, ?_⟩, rfl⟩, by decide +kernel,
    by decide +kernel⟩
  exact .inside List.mem_cons_self rfl (.here List.mem_cons_self rfl)

end

end Search

end Pushdown
