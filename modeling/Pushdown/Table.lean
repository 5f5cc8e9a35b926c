/-!
# Tables

A `Table` keeps values under names, one for each. A value that is put under a name takes the place
of the one that was there, and `Table.get?_insert` says what is found afterwards. Nothing is ever
read off a table but what stands under a name, so the order of its entries means nothing.
-/

namespace Pushdown

/-- Values under names. -/
abbrev Table (α : Type) := List (String × α)

namespace Table

variable {α : Type}

/-- The value under a name. -/
def get? (name : String) : Table α → Option α
  | [] => none
  | (key, value) :: rest => if key = name then some value else get? name rest

/-- The table with a value put under a name. -/
def insert (name : String) (value : α) : Table α → Table α
  | [] => [(name, value)]
  | (key, old) :: rest =>
    if key = name then (key, value) :: rest else (key, old) :: insert name value rest

@[simp] theorem get?_nil (name : String) : get? name ([] : Table α) = none := rfl

/-- The new value is found under its name, and under every other name what was found before. -/
theorem get?_insert (name other : String) (value : α) (t : Table α) :
    get? other (insert name value t) = if name = other then some value else get? other t := by
  induction t with
  | nil => rfl
  | cons entry rest ih =>
    obtain ⟨key, old⟩ := entry
    rw [insert]
    split
    · next hkey =>
      subst hkey
      rw [get?, get?]
      split <;> rfl
    · next hkey =>
      rw [get?, get?, ih]
      split
      · next hother => rw [if_neg fun h => hkey (hother.trans h.symm)]
      · rfl

end Table

end Pushdown
