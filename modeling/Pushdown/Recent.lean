/-!
# Bounded stores in order of use

A `Recent` keeps values under keys, the most recently used first, and never more of them than it
has room for. `put` says what had to go: the value that was there under the key, or else, when
there is no room, the least recently used one. Looking at a value with `find?` leaves the order
alone; `touch` makes a key the most recently used.
-/

namespace Pushdown

/-- Values under keys, the most recently used first. -/
structure Recent (κ β : Type) where
  capacity : Nat
  entries : List (κ × β)
  deriving DecidableEq, Repr, Inhabited

namespace Recent

variable {κ β : Type}

/-- An empty store with room for some values, at least one. -/
def ofCapacity (capacity : Nat) : Recent κ β := ⟨max capacity 1, []⟩

/-- The number of values. -/
def size (r : Recent κ β) : Nat := r.entries.length

/-- The keys, the most recently used first. -/
def keys (r : Recent κ β) : List κ := r.entries.map (·.1)

/-- The value that has not been used for the longest, with its key. -/
def oldest? (r : Recent κ β) : Option (κ × β) := r.entries.getLast?

/-- Everything, the least recently used first, and the empty store that is left. -/
def drain (r : Recent κ β) : List (κ × β) × Recent κ β :=
  (r.entries.reverse, { r with entries := [] })

variable [DecidableEq κ]

/-- The value under a key. -/
def find? (r : Recent κ β) (key : κ) : Option β := r.entries.lookup key

/-- The store without a key. -/
def erase (r : Recent κ β) (key : κ) : Recent κ β :=
  { r with entries := r.entries.filter fun entry => entry.1 ≠ key }

/-- The store with a key as the most recently used. -/
def touch (r : Recent κ β) (key : κ) : Recent κ β :=
  match r.find? key with
  | some value => { r with entries := (key, value) :: (r.erase key).entries }
  | none => r

/-- What has to go, and the store with a value put under a key as the most recently used. -/
def put (r : Recent κ β) (key : κ) (value : β) : Option (κ × β) × Recent κ β :=
  match r.find? key with
  | some old => (some (key, old), { r with entries := (key, value) :: (r.erase key).entries })
  | none =>
    if r.size < r.capacity then (none, { r with entries := (key, value) :: r.entries })
    else (r.oldest?, { r with entries := (key, value) :: r.entries.dropLast })

/-! ## Small laws -/

@[simp] theorem find?_ofCapacity (capacity : Nat) (key : κ) :
    (ofCapacity capacity : Recent κ β).find? key = none := rfl

@[simp] theorem capacity_erase (r : Recent κ β) (key : κ) : (r.erase key).capacity = r.capacity :=
  rfl

@[simp] theorem capacity_touch (r : Recent κ β) (key : κ) :
    (r.touch key).capacity = r.capacity := by
  unfold touch; split <;> rfl

@[simp] theorem capacity_put (r : Recent κ β) (key : κ) (value : β) :
    (r.put key value).2.capacity = r.capacity := by
  unfold put; split
  · rfl
  · split <;> rfl

/-- A value that was put is found. -/
@[simp] theorem find?_put_self (r : Recent κ β) (key : κ) (value : β) :
    (r.put key value).2.find? key = some value := by
  unfold put; split
  · simp [find?]
  · split <;> simp [find?]

/-- Nothing is found under a key that was taken out. -/
@[simp] theorem find?_erase_self (r : Recent κ β) (key : κ) : (r.erase key).find? key = none := by
  rw [find?, List.lookup_eq_none_iff]
  intro entry hentry
  have hne : entry.1 ≠ key := of_decide_eq_true (List.mem_filter.1 hentry).2
  exact bne_iff_ne.2 hne.symm

/-- A key finds the same value as the most recently used. -/
@[simp] theorem find?_touch_self (r : Recent κ β) (key : κ) :
    (r.touch key).find? key = r.find? key := by
  unfold touch; split
  · next h => simp [find?, h.symm]
  · rfl

end Recent

end Pushdown
