import Mathlib.Data.List.Induction
import Mathlib.Data.List.Nodup
import Pushdown.Json.Basic

/-!
# Members found by name

`Json.lookup` finds the first member of a name. What it finds is a member
(`Json.mem_of_lookup`), and every member is found if no two have the same name
(`Json.lookup_eq_some_of_mem`). Of members put in order it finds the one given last
(`Json.lookup_sortMembers`), and these have distinct names (`Json.nodup_names_sortMembers`).
-/

namespace Pushdown.Json

variable {name other : String} {value : Json} {members : Members}

/-- What is found is a member of that name. -/
theorem mem_of_lookup (h : lookup name members = some value) : (name, value) ∈ members := by
  induction members with
  | nil => cases h
  | cons m rest ih =>
    obtain ⟨k, v⟩ := m
    rw [lookup] at h
    split at h
    · next hk =>
      cases h
      rw [hk]
      exact List.mem_cons_self
    · exact List.mem_cons_of_mem _ (ih h)

/-- Nothing is found by a name that no member has. -/
theorem lookup_eq_none_iff : lookup name members = none ↔ name ∉ members.map Prod.fst := by
  induction members with
  | nil => simp
  | cons m rest ih =>
    obtain ⟨k, v⟩ := m
    rw [lookup]
    by_cases hk : k = name
    · simp [hk]
    · simp [hk, ih, Ne.symm hk]

/-- Members of distinct names are all found. -/
theorem lookup_eq_some_of_mem (hnames : (members.map Prod.fst).Nodup)
    (h : (name, value) ∈ members) : lookup name members = some value := by
  induction members with
  | nil => cases h
  | cons m rest ih =>
    obtain ⟨k, v⟩ := m
    obtain ⟨hk, hrest⟩ := List.nodup_cons.1 hnames
    rcases List.mem_cons.1 h with h | h
    · cases h
      exact if_pos rfl
    · have hne : k ≠ name := by
        rintro rfl
        exact hk (List.mem_map.2 ⟨_, h, rfl⟩)
      rw [lookup, if_neg hne, ih hrest h]

/-- A member that was left out is not found, and the others are found as before. -/
theorem lookup_eraseMember_of_ne (h : name ≠ other) (members : Members) :
    lookup name (eraseMember other members) = lookup name members := by
  induction members with
  | nil => rfl
  | cons m rest ih =>
    obtain ⟨k, v⟩ := m
    rw [eraseMember] at ih ⊢
    by_cases hk : k = other
    · rw [List.filter_cons_of_neg (by simpa using hk), ih, lookup, if_neg (hk ▸ Ne.symm h)]
    · rw [List.filter_cons_of_pos (by simpa using hk), lookup, lookup, ih]

/-- Of members put in order the last of a name is found. -/
theorem lookup_sortMembers (name : String) (members : Members) :
    lookup name (sortMembers members) = lookup name members.reverse := by
  induction members using List.reverseRecOn with
  | nil => rfl
  | append_singleton members m ih =>
    obtain ⟨k, v⟩ := m
    rw [sortMembers_concat, List.reverse_concat, lookup]
    by_cases hk : k = name
    · rw [if_pos hk, hk, lookup_insertMember_self]
    · rw [if_neg hk, lookup_insertMember_of_ne (Ne.symm hk), ih]

/-- Members of distinct names put in order are all found. -/
theorem lookup_sortMembers_of_mem (hnames : (members.map Prod.fst).Nodup)
    (h : (name, value) ∈ members) : lookup name (sortMembers members) = some value := by
  rw [lookup_sortMembers]
  refine lookup_eq_some_of_mem ?_ (List.mem_reverse.2 h)
  rwa [List.map_reverse, List.nodup_reverse]

/-- What is found among members put in order is one of them. -/
theorem mem_of_lookup_sortMembers (h : lookup name (sortMembers members) = some value) :
    (name, value) ∈ members := by
  rw [lookup_sortMembers] at h
  exact List.mem_reverse.1 (mem_of_lookup h)

/-! ## Order -/

/-- Members in ascending order of their names. -/
def Ascending (members : Members) : Prop :=
  members.Pairwise fun m m' => m.1 < m'.1

/-- A member that is put in is the only one that is new. -/
theorem mem_of_mem_insertMember {m : String × Json} (h : m ∈ insertMember name value members) :
    m = (name, value) ∨ m ∈ members := by
  induction members with
  | nil => exact .inl (List.mem_singleton.1 h)
  | cons first rest ih =>
    obtain ⟨k, v⟩ := first
    rw [insertMember] at h
    split at h
    · exact List.mem_cons.1 h
    · split at h
      · exact (List.mem_cons.1 h).imp id (List.mem_cons_of_mem _)
      · rcases List.mem_cons.1 h with rfl | h
        · exact .inr List.mem_cons_self
        · exact (ih h).imp id (List.mem_cons_of_mem _)

/-- Members stay in order when one is put in. -/
theorem ascending_insertMember (h : Ascending members) :
    Ascending (insertMember name value members) := by
  induction members with
  | nil => exact List.pairwise_singleton _ _
  | cons first rest ih =>
    obtain ⟨k, v⟩ := first
    obtain ⟨hfirst, hrest⟩ := List.pairwise_cons.1 h
    rw [insertMember]
    split
    · next hlt =>
      refine List.pairwise_cons.2 ⟨fun m hm => ?_, h⟩
      rcases List.mem_cons.1 hm with rfl | hm
      · exact hlt
      · exact String.lt_trans hlt (hfirst m hm)
    · next hlt =>
      split
      · next hk => exact List.pairwise_cons.2 ⟨hk ▸ hfirst, hrest⟩
      · next hne =>
        refine List.pairwise_cons.2 ⟨fun m hm => ?_, ih hrest⟩
        rcases mem_of_mem_insertMember hm with rfl | hm
        · exact Std.lt_of_le_of_ne (String.not_lt.1 hlt) (Ne.symm hne)
        · exact hfirst m hm

/-- Members that were put in order are in order. -/
theorem ascending_sortMembers (members : Members) : Ascending (sortMembers members) := by
  induction members using List.reverseRecOn with
  | nil => exact List.Pairwise.nil
  | append_singleton members m ih =>
    rw [sortMembers_concat]
    exact ascending_insertMember ih

/-- Members that were put in order have distinct names. -/
theorem nodup_names_sortMembers (members : Members) :
    ((sortMembers members).map Prod.fst).Nodup :=
  List.pairwise_map.2 ((ascending_sortMembers members).imp String.ne_of_lt)

/-- A member put in order was there before. -/
theorem mem_of_mem_sortMembers {m : String × Json} (h : m ∈ sortMembers members) : m ∈ members :=
  mem_of_lookup_sortMembers (lookup_eq_some_of_mem (nodup_names_sortMembers members) h)

/-- Members of distinct names are all kept when they are put in order. -/
theorem perm_sortMembers (hnames : (members.map Prod.fst).Nodup) :
    (sortMembers members).Perm members := by
  refine (List.perm_ext_iff_of_nodup (nodup_names_sortMembers members).of_map hnames.of_map).2
    fun m => ⟨mem_of_mem_sortMembers, fun h => ?_⟩
  exact mem_of_lookup (lookup_sortMembers_of_mem hnames h)

end Pushdown.Json
