import Mathlib.Data.List.Forall2
import Pushdown.Proofs.Json.Trees
import Pushdown.Proofs.Row.Lookup

/-!
# Flat documents

Flattening takes a document apart into its leaves: scalars, nulls and marked values
(`Document.IsLeaf`). A leaf is its own flat form, so a flat document is a normal form.

The name of a flat field is the chain of names that leads to its value, joined with dots
(`Document.joined`). Where no name has a dot in it, the chain can be read off the name again
(`Document.split_joined`), and where the document has no lists either, the chain leads to that value
only (`Document.exists_chain_of_mem_flattenValue`). So the nested document and the flat one give the
same answer for the path: `Document.flatten_normal`.
-/

namespace Pushdown

/-! ## Parts of a text -/

namespace Text

variable {c : Char}

/-- A part is cut off at the first occurrence of the character. -/
theorem splitChars_append {part : List Char} (h : c ∉ part) (rest : List Char) :
    splitChars c (part ++ c :: rest) = part :: splitChars c rest := by
  induction part with
  | nil => simp [splitChars]
  | cons d part ih =>
    obtain ⟨hd, hpart⟩ := List.ne_and_not_mem_of_not_mem_cons h
    rw [List.cons_append, splitChars, if_neg (Ne.symm hd), ih hpart]

/-- A text without the character is one part. -/
theorem splitChars_of_not_mem {part : List Char} (h : c ∉ part) : splitChars c part = [part] := by
  induction part with
  | nil => rfl
  | cons d part ih =>
    obtain ⟨hd, hpart⟩ := List.ne_and_not_mem_of_not_mem_cons h
    rw [splitChars, if_neg (Ne.symm hd), ih hpart]

end Text

namespace Document

/-- The name of a field below others: the chain of their names, joined with dots. -/
def joined (name : String) (chain : List String) : String :=
  chain.foldl (fun path step => path ++ "." ++ step) name

section

variable {name : String} {chain : List String}

theorem toList_joined (name : String) (chain : List String) :
    (joined name chain).toList = name.toList ++ chain.flatMap fun step => '.' :: step.toList := by
  induction chain generalizing name with
  | nil => simp [joined]
  | cons step chain ih =>
    rw [joined, List.foldl_cons, ← joined, ih]
    simp

/-- There is a dot in a joined name, unless only one name was joined. -/
theorem dot_mem_joined (hchain : chain ≠ []) : '.' ∈ (joined name chain).toList := by
  obtain ⟨step, rest, rfl⟩ := List.exists_cons_of_ne_nil hchain
  rw [toList_joined, List.flatMap_cons]
  exact List.mem_append_right _ List.mem_cons_self

/-- The chain is read off the joined name. -/
theorem split_joined (hname : '.' ∉ name.toList) (hchain : ∀ step ∈ chain, '.' ∉ step.toList) :
    Text.split '.' (joined name chain) = name :: chain := by
  have hparts : Text.splitChars '.' (joined name chain).toList
      = (name :: chain).map String.toList := by
    rw [toList_joined]
    induction chain generalizing name with
    | nil => simpa using Text.splitChars_of_not_mem hname
    | cons step chain ih =>
      obtain ⟨hstep, hchain⟩ := List.forall_mem_cons.1 hchain
      rw [List.flatMap_cons, List.cons_append, Text.splitChars_append hname, ih hstep hchain]
      rfl
  rw [Text.split, hparts, List.map_map]
  simp [Function.comp_def]

end

/-! ## Leaves -/

/-- A value that flattening does not take apart: a scalar, `null` or a marked value. -/
def IsLeaf : Json → Prop
  | .null | .bool _ | .int _ | .float _ | .text _ => True
  | .list _ => False
  | .object members => ∃ m ∈ members, ['$'] <+: m.1.toList

theorem isMarked_iff {members : Members} :
    isMarked members = true ↔ ∃ m ∈ members, ['$'] <+: m.1.toList := by
  simp [isMarked, isMark]

theorem IsLeaf.notList {j : Json} (h : IsLeaf j) : NotList j := by
  cases j with
  | list => exact h.elim
  | null | bool | int | float | text | object => rfl

/-- A leaf is its own only field. -/
theorem IsLeaf.flattenValue {j : Json} (h : IsLeaf j) (name : String) :
    flattenValue name j = [(name, j)] := by
  cases j with
  | list => exact h.elim
  | object members => rw [Document.flattenValue, if_pos (isMarked_iff.2 h)]
  | null | bool | int | float | text => rfl

mutual

/-- The fields of a value are leaves. -/
theorem isLeaf_of_mem_flattenValue (name : String) :
    (j : Json) → ∀ m ∈ flattenValue name j, IsLeaf m.2
  | .list items => by
    rw [flattenValue]
    exact isLeaf_of_mem_flattenFirst name items
  | .object members => by
    rw [flattenValue]
    split
    · next hmarked =>
      rw [List.forall_mem_singleton]
      exact isMarked_iff.1 hmarked
    · exact isLeaf_of_mem_flattenBelow name members
  | .null | .bool _ | .int _ | .float _ | .text _ => List.forall_mem_singleton.2 trivial

theorem isLeaf_of_mem_flattenFirst (name : String) :
    (items : List Json) → ∀ m ∈ flattenFirst name items, IsLeaf m.2
  | [] => List.forall_mem_singleton.2 trivial
  | item :: _ => isLeaf_of_mem_flattenValue name item

theorem isLeaf_of_mem_flattenBelow (name : String) :
    (members : Members) → ∀ m ∈ flattenBelow name members, IsLeaf m.2
  | [] => List.forall_mem_nil _
  | (_, value) :: rest =>
    List.forall_mem_append.2
      ⟨isLeaf_of_mem_flattenValue _ value, isLeaf_of_mem_flattenBelow name rest⟩

end

/-- A field of a flat document comes from a field of the document. -/
theorem exists_field_of_mem_flatten {fields : Members} {m : String × Json}
    (h : m ∈ flatten fields) :
    ∃ field ∈ fields, m ∈ flattenValue field.1 field.2 :=
  List.mem_flatMap.1 (Json.mem_of_mem_sortMembers h)

theorem isLeaf_of_mem_flatten {fields : Members} {m : String × Json} (h : m ∈ flatten fields) :
    IsLeaf m.2 := by
  obtain ⟨field, -, hm⟩ := exists_field_of_mem_flatten h
  exact isLeaf_of_mem_flattenValue _ _ m hm

/-- Leaves in order stay as they are. -/
theorem flatten_of_isLeaf {fields : Members} (hleaf : ∀ m ∈ fields, IsLeaf m.2)
    (hascending : Json.Ascending fields) : flatten fields = fields := by
  have hsame : (fields.flatMap fun field => flattenValue field.1 field.2) = fields := by
    rw [List.flatMap_def, List.map_congr_left fun m hm => (hleaf m hm).flattenValue m.1]
    exact List.flatMap_singleton' fields
  rw [flatten, hsame, Json.sortMembers_of_ascending hascending]

/-! ## Documents without lists and dotted names -/

mutual

/-- Whether no value within a value is a list and no name of a member has a dot in it. -/
def IsPlain : Json → Prop
  | .list _ => False
  | .object members => MembersPlain members
  | .null | .bool _ | .int _ | .float _ | .text _ => True

/-- Whether this is so for the names and the values of some members. -/
def MembersPlain : Members → Prop
  | [] => True
  | (name, value) :: rest => '.' ∉ name.toList ∧ IsPlain value ∧ MembersPlain rest

end

section

variable {members : Members} {name path : String} {value : Json}

theorem membersPlain_iff :
    MembersPlain members ↔ ∀ m ∈ members, '.' ∉ m.1.toList ∧ IsPlain m.2 := by
  induction members with
  | nil => simp [MembersPlain]
  | cons m rest ih => rw [MembersPlain, ih, List.forall_mem_cons, and_assoc]

/-- A chain of names, without dots, leads to the value of a flat field below a value. -/
def LeadsBelow (name : String) (j : Json) (path : String) (value : Json) : Prop :=
  ∃ chain : List String, path = joined name chain ∧ (∀ step ∈ chain, '.' ∉ step.toList)
    ∧ walk j chain = value

mutual

/-- The name of a field of a value tells the chain that leads to it. -/
theorem exists_chain_of_mem_flattenValue (name : String) :
    (j : Json) → j.IsOrdered → IsPlain j → (path, value) ∈ flattenValue name j →
      LeadsBelow name j path value
  | .list _, _, hplain, _ => hplain.elim
  | .object members, hordered, hplain, h => by
    rw [flattenValue] at h
    split at h
    · cases List.mem_singleton.1 h
      exact ⟨[], rfl, List.forall_mem_nil _, walk_nil _⟩
    · rw [Json.IsOrdered] at hordered
      rw [IsPlain] at hplain
      -- No two members have the same name, so the one the flat field comes from is the one found.
      obtain ⟨m, hm, hdot, chain, rfl, hchain, hwalk⟩ :=
        exists_chain_of_mem_flattenBelow name members hordered.2 hplain h
      have hnames : (members.map Prod.fst).Nodup :=
        List.pairwise_map.2 (hordered.1.imp String.ne_of_lt)
      refine ⟨m.1 :: chain, rfl, List.forall_mem_cons.2 ⟨hdot, hchain⟩, ?_⟩
      rw [walk_object, Json.lookup_eq_some_of_mem hnames hm]
      exact hwalk
  | .null, _, _, h | .bool _, _, _, h | .int _, _, _, h | .float _, _, _, h | .text _, _, _, h => by
    cases List.mem_singleton.1 h
    exact ⟨[], rfl, List.forall_mem_nil _, walk_nil _⟩

/-- The name of a field below some members tells the member, and the chain from there. -/
theorem exists_chain_of_mem_flattenBelow (name : String) :
    (members : Members) → Json.MembersOrdered members → MembersPlain members →
      (path, value) ∈ flattenBelow name members →
      ∃ m ∈ members, '.' ∉ m.1.toList ∧ LeadsBelow (name ++ "." ++ m.1) m.2 path value
  | [], _, _, h => nomatch h
  | (step, child) :: rest, hordered, hplain, h => by
    rw [Json.MembersOrdered] at hordered
    rw [MembersPlain] at hplain
    rcases List.mem_append.1 h with h | h
    · exact ⟨(step, child), List.mem_cons_self, hplain.1,
        exists_chain_of_mem_flattenValue _ child hordered.1 hplain.2.1 h⟩
    · obtain ⟨m, hm, hchain⟩ :=
        exists_chain_of_mem_flattenBelow name rest hordered.2 hplain.2.2 h
      exact ⟨m, List.mem_cons_of_mem _ hm, hchain⟩

end

/-- A value that is no list is not unwrapped. -/
theorem unwrapList_of_notList (h : NotList value) (type : ColumnType) :
    unwrapList type value = value := by
  cases value with
  | list => cases h
  | null | bool | int | float | text | object => rfl

/-- A member of a document is found by its own name, and what stands below it by the joined one. -/
theorem lookupPath_joined (hnames : (members.map Prod.fst).Nodup) {j : Json}
    (hdots : ∀ m ∈ members, '.' ∉ m.1.toList) (hm : (name, j) ∈ members) {chain : List String}
    (hchain : ∀ step ∈ chain, '.' ∉ step.toList) (type : ColumnType) :
    lookupPath members (joined name chain) type = unwrapList type (walk j chain) := by
  have hfound : Json.lookup name members = some j := Json.lookup_eq_some_of_mem hnames hm
  rw [lookupPath_eq, way]
  by_cases hnil : chain = []
  · subst hnil
    have hown : Json.lookup (joined name []) members = some j := hfound
    simp only [hown, walk_nil]
  · have hnone : Json.lookup (joined name chain) members = none := by
      refine Json.lookup_eq_none_iff.2 fun hmem => ?_
      obtain ⟨m, hm, hpath⟩ := List.mem_map.1 hmem
      exact hdots m hm (hpath ▸ dot_mem_joined hnil)
    rw [hnone, split_joined (hdots _ hm) hchain, walk_object, hfound]
    rfl

/-- The value of a flat field is found in the document by the name of the field. -/
theorem lookupPath_of_mem_flatten (hordered : (Json.object members).IsOrdered)
    (hplain : IsPlain (.object members)) (h : (path, value) ∈ flatten members) (type : ColumnType) :
    lookupPath members path type = value := by
  obtain ⟨⟨name, j⟩, hm, hpath⟩ := exists_field_of_mem_flatten h
  rw [IsPlain, membersPlain_iff] at hplain
  rw [Json.IsOrdered] at hordered
  have hnames : (members.map Prod.fst).Nodup :=
    List.pairwise_map.2 (hordered.1.imp String.ne_of_lt)
  obtain ⟨chain, rfl, hchain, hwalk⟩ := exists_chain_of_mem_flattenValue name j
    (Json.membersOrdered_iff.1 hordered.2 _ hm) (hplain _ hm).2 hpath
  rw [lookupPath_joined hnames (fun m hm => (hplain m hm).1) hm hchain, hwalk]
  exact unwrapList_of_notList (isLeaf_of_mem_flatten h).notList type

end

/-- **Flat documents are a normal form.** Every value of a flat document is a scalar, `null` or a
marked value, and flattening it again changes nothing. If a document, with the members of its
objects in order as those of every document are, has no lists and no names with dots, then every
path of its flat form is answered in the same way by the document and by its flat form, for a
column of any type: with the value that the flat form has there. -/
theorem flatten_normal (fields : Members) :
    (∀ m ∈ flatten fields, IsLeaf m.2)
      ∧ flatten (flatten fields) = flatten fields
      ∧ ((Json.object fields).IsOrdered → IsPlain (.object fields) →
          ∀ path value, (path, value) ∈ flatten fields → ∀ type,
            lookupPath fields path type = value
              ∧ lookupPath (flatten fields) path type = value) := by
  refine ⟨fun m hm => isLeaf_of_mem_flatten hm,
    flatten_of_isLeaf (fun m hm => isLeaf_of_mem_flatten hm) (Json.ascending_sortMembers _),
    fun hordered hplain path value h type => ⟨?_, ?_⟩⟩
  · exact lookupPath_of_mem_flatten hordered hplain h type
  · exact lookupPath_flatten (lookup_of_mem_flatten h) type

section

/-- The fields of an order: one without a name, an empty object, and a marked value. -/
def nestedFields : Members :=
  [ ("", .single "" (.int 1)),
    ("customer",
      .object [("placed", .single "$date" (.text "2024-01-01")), ("void", .object [])]) ]

/-- Empty names leave their dots in a path, and it leads back through them. -/
theorem flatten_normal_nestedFields :
    (Json.object nestedFields).IsOrdered ∧ IsPlain (.object nestedFields)
      ∧ flatten nestedFields
        = [(".", .int 1), ("customer.placed", .single "$date" (.text "2024-01-01"))]
      ∧ lookupPath nestedFields "." .numeric = .int 1
      ∧ lookupPath nestedFields "customer.placed" .datetime
        = .single "$date" (.text "2024-01-01") := by
  have hordered : (Json.object nestedFields).IsOrdered := by
    simp only [nestedFields, Json.single, Json.IsOrdered, Json.MembersOrdered, Json.Ascending]
    decide
  have hplain : IsPlain (.object nestedFields) := by
    simp [nestedFields, Json.single, IsPlain, MembersPlain]
  have hflat : flatten nestedFields
      = [(".", .int 1), ("customer.placed", .single "$date" (.text "2024-01-01"))] := by
    decide +kernel
  have hanswer := (flatten_normal nestedFields).2.2 hordered hplain
  refine ⟨hordered, hplain, hflat, (hanswer _ _ ?_ _).1, (hanswer _ _ ?_ _).1⟩
  · rw [hflat]
    exact List.mem_cons_self
  · rw [hflat]
    exact List.mem_cons_of_mem _ List.mem_cons_self

end

end Document

end Pushdown
