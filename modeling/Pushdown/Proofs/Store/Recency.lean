import Mathlib.Data.List.Nodup
import Mathlib.Data.List.Perm.Basic
import Pushdown.Proofs.Store.Entries
import Pushdown.Recent

/-!
# Bounded stores stay bounded and in order of use

A store that is `Sound` has room for something, holds no more than it has room for, and has every
key once. Every operation keeps it so, and nothing gets lost on the way: what a store held before is
what it holds afterwards and what `put` says had to go (`Recent.perm_put`). It is `OrderedBy` a
measure of the last use of each key if its keys stand in descending order of it; then the value that
has to go for a new key is the one whose key was used the longest ago (`Recent.OrderedBy.oldest`).
-/

namespace Pushdown.Recent

variable {κ β : Type} {r : Recent κ β} {key other : κ} {value : β}

/-- A store in good order. -/
structure Sound (r : Recent κ β) : Prop where
  room : 0 < r.capacity
  bounded : r.size ≤ r.capacity
  distinct : r.keys.Nodup

theorem sound_ofCapacity (capacity : Nat) : (ofCapacity capacity : Recent κ β).Sound :=
  ⟨Nat.le_max_right _ _, Nat.zero_le _, .nil⟩

theorem sound_drain (h : r.Sound) : r.drain.2.Sound :=
  ⟨h.room, Nat.zero_le _, .nil⟩

/-- A store without room for more has a least recently used value. -/
theorem exists_oldest (hroom : 0 < r.capacity) (hfull : ¬ r.size < r.capacity) :
    ∃ entry, r.oldest? = some entry ∧ r.entries = r.entries.dropLast ++ [entry] := by
  have hne : r.entries ≠ [] := by
    intro hnil
    rw [size, hnil] at hfull
    exact hfull hroom
  exact ⟨_, List.getLast?_eq_some_getLast hne, (List.dropLast_append_getLast hne).symm⟩

variable [DecidableEq κ]

/-! ## Keys and values -/

/-- Nothing is found under a key that is not there. -/
theorem find?_eq_none_iff : r.find? key = none ↔ key ∉ r.keys := by
  rw [find?, List.lookup_eq_none_iff, keys]
  constructor
  · intro h hmem
    obtain ⟨entry, hentry, rfl⟩ := List.mem_map.1 hmem
    exact bne_iff_ne.1 (h entry hentry) rfl
  · intro h entry hentry
    refine bne_iff_ne.2 fun heq => h ?_
    rw [heq]
    exact List.mem_map.2 ⟨entry, hentry, rfl⟩

/-- What is found stands under its key. -/
theorem mem_of_find? (h : r.find? key = some value) : (key, value) ∈ r.entries := by
  obtain ⟨before, after, hentries, -⟩ := List.lookup_eq_some_iff.1 h
  rw [hentries]
  exact List.mem_append_right _ List.mem_cons_self

/-- A key under which something is found is there. -/
theorem mem_keys_of_find? (h : r.find? key = some value) : key ∈ r.keys :=
  List.mem_map.2 ⟨_, mem_of_find? h, rfl⟩

/-- With distinct keys everything is found. -/
theorem find?_of_mem (hdistinct : r.keys.Nodup) (h : (key, value) ∈ r.entries) :
    r.find? key = some value := by
  cases hfind : r.find? key with
  | none => exact absurd (List.mem_map.2 ⟨_, h, rfl⟩) (find?_eq_none_iff.1 hfind)
  | some value' =>
    have heq := List.inj_on_of_nodup_map hdistinct (mem_of_find? hfind) h rfl
    exact congrArg some (Prod.mk.inj heq).2

theorem keys_erase (r : Recent κ β) (key : κ) : (r.erase key).keys = r.keys.filter (· ≠ key) := by
  rw [keys, keys, List.filter_map]
  rfl

/-- Taking out a key leaves the others as they are. -/
theorem find?_erase_of_ne (h : other ≠ key) : (r.erase key).find? other = r.find? other :=
  lookup_filter_of_ne h r.entries

/-- What is left when a key is taken out was there before. -/
theorem find?_of_erase (h : (r.erase key).find? other = some value) :
    r.find? other = some value := by
  by_cases hne : other = key
  · rw [hne, find?_erase_self] at h
    cases h
  · rwa [find?_erase_of_ne hne] at h

/-- Taking out a key that is not there changes nothing. -/
theorem erase_of_find?_eq_none (h : r.find? key = none) : r.erase key = r := by
  have hall : ∀ entry ∈ r.entries, decide (entry.1 ≠ key) = true := by
    intro entry hentry
    refine decide_eq_true fun heq => find?_eq_none_iff.1 h ?_
    exact List.mem_map.2 ⟨entry, hentry, heq⟩
  rw [erase, List.filter_eq_self.2 hall]

/-- A value and the rest of its store make up the store. -/
theorem perm_erase (hdistinct : r.keys.Nodup) (h : r.find? key = some value) :
    ((key, value) :: (r.erase key).entries).Perm r.entries := by
  obtain ⟨before, after, hentries, hbefore⟩ := List.lookup_eq_some_iff.1 h
  have hsplit : (r.erase key).entries = before ++ after := by
    rw [keys, hentries, List.map_append, List.map_cons] at hdistinct
    have hafter := (List.nodup_cons.1 (List.Nodup.of_append_right hdistinct)).1
    rw [erase, hentries, List.filter_append, List.filter_cons_of_neg (by simp)]
    rw [List.filter_eq_self.2 fun entry hentry => ?_, List.filter_eq_self.2 fun entry hentry => ?_]
    · refine decide_eq_true fun heq => hafter ?_
      exact List.mem_map.2 ⟨entry, hentry, heq⟩
    · have hne := hbefore entry hentry
      exact decide_eq_true fun heq => bne_iff_ne.1 hne heq.symm
  rw [hsplit, hentries]
  exact List.perm_middle.symm

/-! ## Looking at a key -/

/-- Looking at a key changes nothing but the order. -/
theorem perm_touch (hdistinct : r.keys.Nodup) (key : κ) : (r.touch key).entries.Perm r.entries := by
  unfold touch
  split
  · next value h => exact perm_erase hdistinct h
  · exact List.Perm.refl _

/-- What is found under a key stays the same when a key is looked at. -/
theorem find?_touch (r : Recent κ β) (key other : κ) :
    (r.touch key).find? other = r.find? other := by
  by_cases h : other = key
  · rw [h, find?_touch_self]
  · unfold touch
    split
    · have hne : (other == key) = false := by simpa using h
      rw [find?, List.lookup_cons, hne]
      exact find?_erase_of_ne h
    · rfl

theorem keys_touch (r : Recent κ β) (key : κ) :
    (r.touch key).keys = if key ∈ r.keys then key :: r.keys.filter (· ≠ key) else r.keys := by
  unfold touch
  split
  · next value h =>
    rw [if_pos (mem_keys_of_find? h), ← keys_erase]
    rfl
  · next h => rw [if_neg (find?_eq_none_iff.1 h)]

/-! ## Putting in a value -/

/-- Putting in a value makes its key the most recently used. The others stay in order. -/
theorem keys_put (r : Recent κ β) (key : κ) (value : β) :
    ∃ rest, (r.put key value).2.keys = key :: rest ∧ rest.Sublist (r.keys.filter (· ≠ key)) := by
  unfold put
  split
  · exact ⟨_, rfl, (keys_erase r key).symm ▸ List.Sublist.refl _⟩
  · next h =>
    have hkeys : r.keys.filter (· ≠ key) = r.keys := by
      rw [← keys_erase, erase_of_find?_eq_none h]
    rw [hkeys]
    split
    · exact ⟨_, rfl, List.Sublist.refl _⟩
    · exact ⟨_, rfl, (List.dropLast_sublist _).map _⟩

/-- What a store held and what is put in are what it holds afterwards and what had to go. -/
theorem perm_put (h : r.Sound) (key : κ) (value : β) :
    ((r.put key value).1.toList ++ (r.put key value).2.entries).Perm
      ((key, value) :: r.entries) := by
  unfold put
  split
  · next old hold =>
    exact (List.Perm.swap _ _ _).trans ((perm_erase h.distinct hold).cons _)
  · split
    · exact List.Perm.refl _
    · next hfull =>
      obtain ⟨entry, hentry, hentries⟩ := exists_oldest h.room hfull
      rw [hentry, Option.toList_some, List.singleton_append]
      refine (List.Perm.swap _ _ _).trans (List.Perm.cons _ ?_)
      conv_rhs => rw [hentries]
      exact (List.perm_append_singleton _ _).symm

/-- What has to go is under the same key, or under another one in a full store without the key. -/
theorem displaced_of_put (h : r.Sound) {gone : κ × β} (hgone : (r.put key value).1 = some gone) :
    r.find? gone.1 = some gone.2
      ∧ (gone.1 = key ∨ r.find? key = none ∧ r.size = r.capacity ∧ r.oldest? = some gone) := by
  unfold put at hgone
  split at hgone
  · next old hold =>
    cases hgone
    exact ⟨hold, .inl rfl⟩
  · next hnone =>
    split at hgone
    · cases hgone
    · next hfull =>
      have hmem : gone ∈ r.entries := List.mem_of_getLast? hgone
      have hsize : r.size = r.capacity := Nat.le_antisymm h.bounded (Nat.not_lt.1 hfull)
      exact ⟨find?_of_mem h.distinct hmem, .inr ⟨hnone, hsize, hgone⟩⟩

/-- Under another key the same is found as before, unless it had to go. -/
theorem find?_put_of_ne (h : r.Sound) (hne : other ≠ key) (value : β) :
    (r.put key value).2.find? other
      = if (r.put key value).1.map Prod.fst = some other then none else r.find? other := by
  have hother (entries : List (κ × β)) :
      List.lookup other ((key, value) :: entries) = List.lookup other entries := by
    have hbeq : (other == key) = false := by simpa using hne
    rw [List.lookup_cons, hbeq]
  unfold put
  split
  · have hkey : ¬ some key = some other := fun heq => hne (Option.some.inj heq).symm
    rw [Option.map_some, if_neg hkey, find?, hother]
    exact find?_erase_of_ne hne
  · split
    · exact hother _
    · next hfull =>
      obtain ⟨entry, hentry, hentries⟩ := exists_oldest h.room hfull
      rw [hentry, Option.map_some, find?, hother]
      have hdistinct := h.distinct
      rw [keys, hentries, List.map_append] at hdistinct
      have hlast := List.disjoint_of_nodup_append hdistinct
      split
      · next heq =>
        cases heq
        have hnone := (find?_eq_none_iff (r := { r with entries := r.entries.dropLast })).2
          fun hmem => hlast hmem (List.mem_singleton.2 rfl)
        exact hnone
      · next hkey =>
        have hbeq : (other == entry.1) = false := by
          simpa using fun heq => hkey (congrArg some heq.symm)
        conv_rhs => rw [find?, hentries, List.lookup_append, List.lookup_cons, hbeq]
        simp

/-- In any store, under another key the same is found as before or nothing. -/
theorem find?_put_or_none (hne : other ≠ key) (r : Recent κ β) (value : β) :
    (r.put key value).2.find? other = r.find? other ∨ (r.put key value).2.find? other = none := by
  have hother (entries : List (κ × β)) :
      List.lookup other ((key, value) :: entries) = List.lookup other entries := by
    have hbeq : (other == key) = false := by simpa using hne
    rw [List.lookup_cons, hbeq]
  unfold put
  split
  · exact .inl ((hother _).trans (lookup_filter_of_ne hne r.entries))
  · split
    · exact .inl (hother _)
    · simp only [find?, hother]
      cases hlast : r.entries.dropLast.lookup other with
      | none => exact .inr rfl
      | some found =>
        obtain ⟨last, hentries⟩ := List.dropLast_prefix r.entries
        refine .inl ?_
        rw [← hentries, List.lookup_append, hlast]
        rfl

/-- It makes no difference to what is put in whether its key was looked at before. -/
theorem put_touch (r : Recent κ β) (key : κ) (value : β) :
    ((r.touch key).put key value).2 = (r.put key value).2 := by
  cases hfind : r.find? key with
  | none => rw [touch, hfind]
  | some old =>
    have htouched : (r.touch key).find? key = some old := (find?_touch_self r key).trans hfind
    have hagain : (r.touch key).erase key = r.erase key := by
      simp [touch, hfind, erase, List.filter_filter]
    simp only [put, htouched, hfind, hagain, capacity_touch]

/-- Nor whether what stood there before was taken out. -/
theorem put_erase (h : r.Sound) (key : κ) (value : β) :
    ((r.erase key).put key value).2 = (r.put key value).2 := by
  cases hfind : r.find? key with
  | none => rw [erase_of_find?_eq_none hfind]
  | some old =>
    have hroom : (r.erase key).size < (r.erase key).capacity := by
      have hlength := (perm_erase h.distinct hfind).length_eq
      rw [List.length_cons] at hlength
      have hbounded := h.bounded
      rw [size, ← hlength] at hbounded
      exact hbounded
    simp only [put, find?_erase_self, hfind]
    rw [if_pos hroom]
    rfl

/-! ## Good order -/

theorem sound_erase (h : r.Sound) (key : κ) : (r.erase key).Sound where
  room := h.room
  bounded := Nat.le_trans (List.length_filter_le _ _) h.bounded
  distinct := keys_erase r key ▸ h.distinct.filter _

theorem sound_touch (h : r.Sound) (key : κ) : (r.touch key).Sound := by
  have hperm := perm_touch h.distinct key
  refine ⟨?_, ?_, ((hperm.map Prod.fst).nodup_iff).2 h.distinct⟩
  · rw [capacity_touch]
    exact h.room
  · rw [capacity_touch, size, hperm.length_eq]
    exact h.bounded

theorem sound_put (h : r.Sound) (key : κ) (value : β) : (r.put key value).2.Sound := by
  refine ⟨?_, ?_, ?_⟩
  · rw [capacity_put]
    exact h.room
  · have hbounded := h.bounded
    rw [capacity_put]
    unfold put
    split
    · next old hold =>
      have hlength := (perm_erase h.distinct hold).length_eq
      rw [List.length_cons] at hlength
      rw [size, List.length_cons, hlength]
      exact hbounded
    · split
      · next hroom => exact hroom
      · next hfull =>
        obtain ⟨entry, -, hentries⟩ := exists_oldest h.room hfull
        have hlength := congrArg List.length hentries
        rw [List.length_append, List.length_singleton] at hlength
        rw [size, List.length_cons, ← hlength]
        exact hbounded
  · obtain ⟨rest, hkeys, hrest⟩ := keys_put r key value
    rw [hkeys]
    refine List.nodup_cons.2 ⟨fun hmem => ?_, hrest.nodup (h.distinct.filter _)⟩
    exact of_decide_eq_true (List.mem_filter.1 (hrest.subset hmem)).2 rfl

/-! ## Order of use -/

/-- The keys stand in descending order of their last use. -/
def OrderedBy (lastUse : κ → Nat) (r : Recent κ β) : Prop :=
  r.keys.Pairwise fun a b => lastUse b < lastUse a

variable {lastUse lastUse' : κ → Nat}

omit [DecidableEq κ] in
/-- The least recently used value is the one with the earliest last use. -/
theorem OrderedBy.oldest (h : r.OrderedBy lastUse) {entry : κ × β} (hentry : r.oldest? = some entry)
    {key : κ} (hkey : key ∈ r.keys) (hne : key ≠ entry.1) : lastUse entry.1 < lastUse key := by
  obtain ⟨before, hentries⟩ := List.getLast?_eq_some_iff.1 hentry
  rw [OrderedBy, keys, hentries, List.map_append] at h
  rw [keys, hentries, List.map_append] at hkey
  rcases List.mem_append.1 hkey with hkey | hkey
  · exact (List.pairwise_append.1 h).2.2 key hkey entry.1 (List.mem_singleton.2 rfl)
  · exact absurd (List.mem_singleton.1 hkey) hne

/-- Keys stay in order when the last uses of those that are left do not change. -/
theorem OrderedBy.erase (h : r.OrderedBy lastUse) (key : κ)
    (hsame : ∀ k, k ≠ key → lastUse' k = lastUse k) : (r.erase key).OrderedBy lastUse' := by
  rw [OrderedBy, keys_erase]
  refine (h.filter _).imp_of_mem fun {a b} ha hb hab => ?_
  have ha := of_decide_eq_true (List.mem_filter.1 ha).2
  have hb := of_decide_eq_true (List.mem_filter.1 hb).2
  rwa [hsame a ha, hsame b hb]

/-- A key used later than all others goes first. -/
theorem OrderedBy.cons (h : r.OrderedBy lastUse) {rest : List κ}
    (hrest : rest.Sublist (r.keys.filter (· ≠ key))) (hkey : ∀ k ∈ r.keys, lastUse k < lastUse' key)
    (hsame : ∀ k, k ≠ key → lastUse' k = lastUse k) :
    (key :: rest).Pairwise fun a b => lastUse' b < lastUse' a := by
  have hother : ∀ k ∈ rest, k ∈ r.keys ∧ lastUse' k = lastUse k := fun k hk => by
    obtain ⟨hmem, hne⟩ := List.mem_filter.1 (hrest.subset hk)
    exact ⟨hmem, hsame k (of_decide_eq_true hne)⟩
  refine List.pairwise_cons.2 ⟨fun k hk => ?_, ?_⟩
  · rw [(hother k hk).2]
    exact hkey k (hother k hk).1
  · refine ((h.filter _).sublist hrest).imp_of_mem fun {a b} ha hb hab => ?_
    rwa [(hother a ha).2, (hother b hb).2]

theorem OrderedBy.touch (h : r.OrderedBy lastUse) (hkey : ∀ k ∈ r.keys, lastUse k < lastUse' key)
    (hsame : ∀ k, k ≠ key → lastUse' k = lastUse k) : (r.touch key).OrderedBy lastUse' := by
  rw [OrderedBy, keys_touch]
  split
  · exact h.cons (List.Sublist.refl _) hkey hsame
  · next hmem =>
    have hne {k : κ} (hk : k ∈ r.keys) : k ≠ key := fun heq => hmem (heq ▸ hk)
    refine List.Pairwise.imp_of_mem (fun {a b} ha hb hab => ?_) h
    rwa [hsame a (hne ha), hsame b (hne hb)]

theorem OrderedBy.put (h : r.OrderedBy lastUse) (value : β)
    (hkey : ∀ k ∈ r.keys, lastUse k < lastUse' key)
    (hsame : ∀ k, k ≠ key → lastUse' k = lastUse k) : (r.put key value).2.OrderedBy lastUse' := by
  obtain ⟨rest, hkeys, hrest⟩ := keys_put r key value
  rw [OrderedBy, hkeys]
  exact h.cons hrest hkey hsame

end Pushdown.Recent
