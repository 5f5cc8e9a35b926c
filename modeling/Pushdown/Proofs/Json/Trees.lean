import Mathlib.Data.List.Forall2
import Mathlib.Data.List.Perm.Basic
import Pushdown.Json.Source
import Pushdown.Proofs.Json.Members

/-!
# Values and their trees

A value is written as a tree (`Json.Source.ofJson`) and read back from it, as long as its objects
have their members in order (`Json.IsOrdered`), which every value that is read has
(`Json.Source.isOrdered_of_value?`). The members of the objects in a tree may stand in any order:
`Json.Source.respects_value?` is that a tree reads as the same value after they were put in another
one (`Json.Source.Reordered`).
-/

namespace Pushdown

namespace Json

/-! ## Values in order -/

mutual

/-- Whether every object in a value has its members in ascending order of their names, each name
once. -/
def IsOrdered : Json → Prop
  | .list items => AllOrdered items
  | .object members => Ascending members ∧ MembersOrdered members
  | .null | .bool _ | .int _ | .float _ | .text _ => True

/-- Whether all of some values are in order. -/
def AllOrdered : List Json → Prop
  | [] => True
  | j :: rest => IsOrdered j ∧ AllOrdered rest

/-- Whether the values of some members are in order. -/
def MembersOrdered : Members → Prop
  | [] => True
  | (_, j) :: rest => IsOrdered j ∧ MembersOrdered rest

end

theorem allOrdered_iff {items : List Json} : AllOrdered items ↔ ∀ j ∈ items, j.IsOrdered := by
  induction items with
  | nil => simp [AllOrdered]
  | cons j rest ih => rw [AllOrdered, ih, List.forall_mem_cons]

theorem membersOrdered_iff {members : Members} :
    MembersOrdered members ↔ ∀ m ∈ members, m.2.IsOrdered := by
  induction members with
  | nil => simp [MembersOrdered]
  | cons m rest ih => rw [MembersOrdered, ih, List.forall_mem_cons]

/-- What is found in a value in order is in order. -/
theorem IsOrdered.get? {j value : Json} {name : String} (h : j.IsOrdered)
    (hvalue : j.get? name = some value) : value.IsOrdered := by
  cases j with
  | object members => exact membersOrdered_iff.1 h.2 _ (mem_of_lookup hvalue)
  | null | bool | int | float | text | list => cases hvalue

/-- What stands at the end of a path in a value in order is in order. -/
theorem IsOrdered.at? {j value : Json} {path : List String} (h : j.IsOrdered)
    (hvalue : j.at? path = some value) : value.IsOrdered := by
  induction path generalizing j with
  | nil =>
    cases hvalue
    exact h
  | cons step rest ih =>
    obtain ⟨next, hnext, hvalue⟩ := Option.bind_eq_some_iff.1 hvalue
    refine ih ?_ hvalue
    cases j with
    | object members => exact h.get? hnext
    | list items =>
      obtain ⟨i, -, hitem⟩ := Option.bind_eq_some_iff.1 hnext
      exact allOrdered_iff.1 h _ (List.mem_of_getElem? hitem)
    | null | bool | int | float | text => cases hnext

/-- Members of distinct names are put in the same order however they stood. -/
theorem sortMembers_eq_of_perm {members members' : Members} (h : members.Perm members')
    (hnames : (members.map Prod.fst).Nodup) : sortMembers members = sortMembers members' := by
  have hnames' : (members'.map Prod.fst).Nodup := (h.map Prod.fst).nodup_iff.1 hnames
  have hperm := ((perm_sortMembers hnames).trans h).trans (perm_sortMembers hnames').symm
  refine hperm.eq_of_pairwise ?_ (ascending_sortMembers members) (ascending_sortMembers members')
  exact fun m m' _ _ hlt hgt => absurd hgt (String.lt_asymm hlt)

/-- Members in order stay as they are. -/
theorem sortMembers_of_ascending {members : Members} (h : Ascending members) :
    sortMembers members = members := by
  have hnames : (members.map Prod.fst).Nodup := List.pairwise_map.2 (h.imp String.ne_of_lt)
  refine (perm_sortMembers hnames).eq_of_pairwise ?_ (ascending_sortMembers members) h
  exact fun m m' _ _ hlt hgt => absurd hgt (String.lt_asymm hlt)

namespace Source

/-! ## Lists read item by item -/

section
variable {α β : Type} {read : β → Option α} {l : List β} {as : List α}

theorem mapM_eq_some_iff :
    l.mapM read = some as ↔ List.Forall₂ (fun b a => read b = some a) l as := by
  induction l generalizing as with
  | nil => cases as <;> simp
  | cons b l ih =>
    rw [List.mapM_cons]
    simp only [Option.bind_eq_bind, Option.bind_eq_some_iff, Option.pure_def, Option.some.injEq]
    constructor
    · rintro ⟨a, ha, as, has, rfl⟩
      exact .cons ha (ih.1 has)
    · rintro (_ | ⟨ha, has⟩)
      exact ⟨_, ha, _, ih.2 has, rfl⟩

/-- A list with an item that cannot be read cannot be read. -/
theorem mapM_eq_none_of_mem {b : β} (hb : b ∈ l) (hread : read b = none) : l.mapM read = none := by
  induction l with
  | nil => cases hb
  | cons first l ih =>
    rw [List.mapM_cons]
    rcases List.mem_cons.1 hb with rfl | hb
    · rw [hread]
      rfl
    · rw [ih hb]
      cases read first <;> rfl

/-- An item may be replaced by one that is read as the same. -/
theorem mapM_replace {before after : List β} {b b' : β}
    (h : ∀ a, read b = some a → read b' = some a)
    (hread : (before ++ b :: after).mapM read = some as) :
    (before ++ b' :: after).mapM read = some as := by
  rw [mapM_eq_some_iff] at hread ⊢
  induction before generalizing as with
  | nil =>
    obtain _ | ⟨hb, hafter⟩ := hread
    exact .cons (h _ hb) hafter
  | cons first before ih =>
    obtain _ | ⟨hfirst, hrest⟩ := hread
    exact .cons hfirst (ih hrest)

/-- Items in another order are read as the same in another order. -/
theorem mapM_perm {l' : List β} (h : l.Perm l') (hread : l.mapM read = some as) :
    ∃ as', l'.mapM read = some as' ∧ as.Perm as' := by
  obtain ⟨as', has', hperm⟩ := List.perm_comp_forall₂ h.symm (mapM_eq_some_iff.1 hread)
  exact ⟨as', mapM_eq_some_iff.2 has', hperm.symm⟩

end

/-- The value of a member. -/
def memberValue? (m : Option String × Source) : Option (String × Json) :=
  m.1.bind fun name => (value? m.2).map fun j => (name, j)

theorem values?_eq_mapM (items : List Source) : values? items = items.mapM value? := by
  induction items with
  | nil => rfl
  | cons s rest ih => rw [values?, ih, List.mapM_cons]

theorem memberValues?_eq_mapM (members : List (Option String × Source)) :
    memberValues? members = members.mapM memberValue? := by
  induction members with
  | nil => rfl
  | cons m rest ih =>
    obtain ⟨_ | name, s⟩ := m
    · rfl
    · rw [memberValues?, ih, List.mapM_cons, memberValue?]
      cases value? s <;> rfl

/-- The names of members are those of their values. -/
theorem names_of_mapM {members : List (Option String × Source)} {values : Members}
    (h : members.mapM memberValue? = some values) :
    members.map Prod.fst = (values.map Prod.fst).map some := by
  rw [mapM_eq_some_iff] at h
  induction h with
  | nil => rfl
  | cons hm _ ih =>
    obtain ⟨name, hname, hvalue⟩ := Option.bind_eq_some_iff.1 hm
    obtain ⟨j, -, rfl⟩ := Option.map_eq_some_iff.1 hvalue
    rw [List.map_cons, ih, hname]
    rfl

/-! ## Values that are written -/

mutual

/-- The tree of a value. -/
def ofJson : Json → Source
  | .null => .null
  | .bool b => .bool b
  | .int k => .int k
  | .float x => .float x
  | .text s => .text s
  | .list items => .list (ofItems items)
  | .object members => .object (ofMembers members)

/-- The trees of items. -/
def ofItems : List Json → List Source
  | [] => []
  | j :: rest => ofJson j :: ofItems rest

/-- The trees of members, under their names. -/
def ofMembers : Members → List (Option String × Source)
  | [] => []
  | (name, j) :: rest => (some name, ofJson j) :: ofMembers rest

end

theorem ofItems_eq_map (items : List Json) : ofItems items = items.map ofJson := by
  induction items with
  | nil => rfl
  | cons j rest ih => rw [ofItems, ih, List.map_cons]

mutual

/-- A value in order is read back from its tree. -/
theorem value?_ofJson {j : Json} (h : j.IsOrdered) : (ofJson j).value? = some j := by
  cases j with
  | list items =>
    rw [IsOrdered] at h
    rw [ofJson, value?, values?_ofItems h]
    rfl
  | object members =>
    rw [IsOrdered] at h
    rw [ofJson, value?, memberValues?_ofMembers h.2]
    exact congrArg (fun sorted => some (Json.object sorted)) (sortMembers_of_ascending h.1)
  | null | bool | int | float | text => rfl

theorem values?_ofItems {items : List Json} (h : AllOrdered items) :
    values? (ofItems items) = some items := by
  cases items with
  | nil => rfl
  | cons j rest =>
    rw [AllOrdered] at h
    rw [ofItems, values?, value?_ofJson h.1, values?_ofItems h.2]
    rfl

theorem memberValues?_ofMembers {members : Members} (h : MembersOrdered members) :
    memberValues? (ofMembers members) = some members := by
  cases members with
  | nil => rfl
  | cons m rest =>
    rw [MembersOrdered] at h
    rw [ofMembers, memberValues?, value?_ofJson h.1, memberValues?_ofMembers h.2]
    rfl

end

mutual

/-- A value that is read is in order. -/
theorem isOrdered_of_value? {s : Source} {j : Json} (h : s.value? = some j) : j.IsOrdered := by
  cases s with
  | list items =>
    rw [value?] at h
    obtain ⟨values, hvalues, rfl⟩ := Option.map_eq_some_iff.1 h
    rw [IsOrdered]
    exact allOrdered_of_values? hvalues
  | object members =>
    rw [value?] at h
    obtain ⟨values, hvalues, rfl⟩ := Option.map_eq_some_iff.1 h
    rw [Json.ofMembers, IsOrdered]
    refine ⟨ascending_sortMembers values, membersOrdered_iff.2 fun m hm => ?_⟩
    exact membersOrdered_iff.1 (membersOrdered_of_memberValues? hvalues) m
      (mem_of_mem_sortMembers hm)
  | null | bool | int | float | text =>
    cases h
    trivial
  | unreadable => cases h

theorem allOrdered_of_values? {items : List Source} {values : List Json}
    (h : values? items = some values) : AllOrdered values := by
  cases items with
  | nil =>
    cases h
    trivial
  | cons s rest =>
    obtain ⟨j, hj, h⟩ := Option.bind_eq_some_iff.1 h
    obtain ⟨js, hjs, h⟩ := Option.bind_eq_some_iff.1 h
    cases h
    exact ⟨isOrdered_of_value? hj, allOrdered_of_values? hjs⟩

theorem membersOrdered_of_memberValues? {members : List (Option String × Source)}
    {values : Members} (h : memberValues? members = some values) : MembersOrdered values := by
  cases members with
  | nil =>
    cases h
    trivial
  | cons m rest =>
    obtain ⟨name, s⟩ := m
    obtain ⟨name, -, h⟩ := Option.bind_eq_some_iff.1 h
    obtain ⟨j, hj, h⟩ := Option.bind_eq_some_iff.1 h
    obtain ⟨js, hjs, h⟩ := Option.bind_eq_some_iff.1 h
    cases h
    exact ⟨isOrdered_of_value? hj, membersOrdered_of_memberValues? hjs⟩

end

/-! ## Trees that are written in another way -/

/-- A reader that does not mind how a tree is written. -/
def Respects {α : Type} (rewrites : Source → Source → Prop) (read : Source → Option α) : Prop :=
  ∀ source source' a, rewrites source source' → read source = some a → read source' = some a

/-- A tree in which the members of an object, of distinct names, stand in another order. -/
inductive Reordered : Source → Source → Prop where
  | here {members members' : List (Option String × Source)}
    (hnames : (members.map Prod.fst).Nodup) (h : members.Perm members') :
    Reordered (.object members) (.object members')
  | item {before after : List Source} {source source' : Source} (h : Reordered source source') :
    Reordered (.list (before ++ source :: after)) (.list (before ++ source' :: after))
  | member {before after : List (Option String × Source)} {name : Option String}
    {source source' : Source} (h : Reordered source source') :
    Reordered (.object (before ++ (name, source) :: after))
      (.object (before ++ (name, source') :: after))

/-- The order of the members in a tree does not matter to its value. -/
theorem respects_value? : Respects Reordered value? := by
  intro source source' j h hread
  induction h generalizing j with
  | here hnames hperm =>
    rw [value?, memberValues?_eq_mapM] at hread ⊢
    obtain ⟨values, hvalues, rfl⟩ := Option.map_eq_some_iff.1 hread
    obtain ⟨values', hvalues', hperm'⟩ := mapM_perm hperm hvalues
    have hdistinct : (values.map Prod.fst).Nodup := (names_of_mapM hvalues ▸ hnames).of_map
    rw [hvalues']
    exact congrArg (fun sorted => some (Json.object sorted))
      (sortMembers_eq_of_perm hperm' hdistinct).symm
  | item _ ih =>
    rw [value?, values?_eq_mapM] at hread ⊢
    obtain ⟨values, hvalues, rfl⟩ := Option.map_eq_some_iff.1 hread
    rw [mapM_replace ih hvalues]
    rfl
  | member _ ih =>
    rw [value?, memberValues?_eq_mapM] at hread ⊢
    obtain ⟨values, hvalues, rfl⟩ := Option.map_eq_some_iff.1 hread
    rw [mapM_replace (fun m hm => ?_) hvalues]
    · rfl
    · obtain ⟨name, hname, hm⟩ := Option.bind_eq_some_iff.1 hm
      obtain ⟨j, hj, rfl⟩ := Option.map_eq_some_iff.1 hm
      rw [memberValue?, hname, Option.bind_some, ih j hj]
      rfl

end Source

end Json

end Pushdown
