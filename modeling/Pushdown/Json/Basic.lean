import Pushdown.Number.Binary64

/-!
# JSON values

Documents, responses, filter values and query bodies are JSON values. An integer and a number
with a fraction part are told apart, and an object is a list of members. Every object this
library builds or reads has its members in ascending order of their names, each name once:
`insertMember` keeps that, and `ofMembers` brings it about, the last of two equal names winning.
Names are ordered by code points, which is the order of their UTF-8 bytes.

The walks over a value are mutual recursions over values, items and members, so that they reduce
by definition.
-/

namespace Pushdown

/-- A JSON value. -/
inductive Json where
  | null
  | bool (b : Bool)
  | int (k : Int)
  | float (x : Binary64)
  | text (s : String)
  | list (items : List Json)
  | object (members : List (String × Json))
  deriving Inhabited, Repr

/-- The members of an object. -/
abbrev Members := List (String × Json)

namespace Json

mutual

/-- Equality of values, decided along both of them. -/
def decEq : (a b : Json) → Decidable (a = b)
  | .null, .null => isTrue rfl
  | .bool a, .bool b => decidable_of_iff (a = b) (by simp)
  | .int a, .int b => decidable_of_iff (a = b) (by simp)
  | .float a, .float b => decidable_of_iff (a = b) (by simp)
  | .text a, .text b => decidable_of_iff (a = b) (by simp)
  | .list a, .list b => @decidable_of_iff _ (a = b) (by simp) (decEqList a b)
  | .object a, .object b => @decidable_of_iff _ (a = b) (by simp) (decEqMembers a b)
  | .null, .bool _ | .null, .int _ | .null, .float _ | .null, .text _ | .null, .list _
  | .null, .object _ | .bool _, .null | .bool _, .int _ | .bool _, .float _ | .bool _, .text _
  | .bool _, .list _ | .bool _, .object _ | .int _, .null | .int _, .bool _ | .int _, .float _
  | .int _, .text _ | .int _, .list _ | .int _, .object _ | .float _, .null | .float _, .bool _
  | .float _, .int _ | .float _, .text _ | .float _, .list _ | .float _, .object _
  | .text _, .null | .text _, .bool _ | .text _, .int _ | .text _, .float _ | .text _, .list _
  | .text _, .object _ | .list _, .null | .list _, .bool _ | .list _, .int _ | .list _, .float _
  | .list _, .text _ | .list _, .object _ | .object _, .null | .object _, .bool _
  | .object _, .int _ | .object _, .float _ | .object _, .text _ | .object _, .list _ =>
    isFalse (by simp)

/-- `decEq` along two lists. -/
def decEqList : (a b : List Json) → Decidable (a = b)
  | [], [] => isTrue rfl
  | [], _ :: _ | _ :: _, [] => isFalse (by simp)
  | a :: as, b :: bs =>
    match decEq a b, decEqList as bs with
    | isTrue h, isTrue hs => isTrue (by rw [h, hs])
    | isFalse h, _ => isFalse fun e => h (List.cons.inj e).1
    | _, isFalse hs => isFalse fun e => hs (List.cons.inj e).2

/-- `decEq` along the members of two objects. -/
def decEqMembers : (a b : List (String × Json)) → Decidable (a = b)
  | [], [] => isTrue rfl
  | [], _ :: _ | _ :: _, [] => isFalse (by simp)
  | (k, a) :: as, (l, b) :: bs =>
    match decEq a b, (inferInstance : Decidable (k = l)), decEqMembers as bs with
    | isTrue h, isTrue hk, isTrue hs => isTrue (by rw [h, hk, hs])
    | isFalse h, _, _ => isFalse fun e => h (Prod.mk.inj (List.cons.inj e).1).2
    | _, isFalse hk, _ => isFalse fun e => hk (Prod.mk.inj (List.cons.inj e).1).1
    | _, _, isFalse hs => isFalse fun e => hs (List.cons.inj e).2

end

instance : DecidableEq Json := decEq

/-! ## Objects -/

/-- The value of the first member of that name. -/
def lookup (name : String) : Members → Option Json
  | [] => none
  | (k, v) :: rest => if k = name then some v else lookup name rest

/-- The members with one more, replacing a member of the same name. -/
def insertMember (name : String) (value : Json) : Members → Members
  | [] => [(name, value)]
  | (k, v) :: rest =>
    if name < k then (name, value) :: (k, v) :: rest
    else if name = k then (name, value) :: rest
    else (k, v) :: insertMember name value rest

/-- The members without those of that name. -/
def eraseMember (name : String) (members : Members) : Members :=
  members.filter fun m => m.1 ≠ name

/-- Members in order; of two equal names the later one counts. -/
def sortMembers (members : Members) : Members :=
  members.foldl (fun sorted m => insertMember m.1 m.2 sorted) []

/-- The object of some members, given in any order. -/
def ofMembers (members : Members) : Json :=
  .object (sortMembers members)

/-- The object of one member. -/
def single (name : String) (value : Json) : Json :=
  .object [(name, value)]

/-- A list of texts. -/
def texts (items : List String) : Json :=
  .list (items.map .text)

/-! ## Looking into a value -/

/-- The member of an object. -/
def get? (name : String) : Json → Option Json
  | .object members => lookup name members
  | _ => none

/-- The members of an object. -/
def members? : Json → Option Members
  | .object members => some members
  | _ => none

/-- The items of a list. -/
def items? : Json → Option (List Json)
  | .list items => some items
  | _ => none

/-- The text of a text value. -/
def text? : Json → Option String
  | .text s => some s
  | _ => none

/-- An integer from zero up to the greatest unsigned 64-bit one. -/
def nat64? : Json → Option Nat
  | .int k => if 0 ≤ k ∧ k ≤ Binary64.nat64Max then some k.toNat else none
  | _ => none

/-- An integer of the signed 64-bit range. -/
def int64? : Json → Option Int
  | .int k => if Binary64.int64Min ≤ k ∧ k ≤ Binary64.int64Max then some k else none
  | _ => none

/-- The nearest binary64 number of a numeric value. -/
def number? : Json → Option Binary64
  | .int k => some (.ofInt k)
  | .float x => some x
  | _ => none

/-- Whether the value is `null`. -/
def isNull : Json → Bool
  | .null => true
  | _ => false

/-- The list index a step of a path spells: digits without a leading zero. -/
def indexOf? (step : String) : Option Nat :=
  match step.toList with
  | ['0'] => some 0
  | c :: cs =>
    if c ≠ '0' ∧ (c :: cs).all Char.isDigit then
      some ((c :: cs).foldl (fun n d => 10 * n + (d.toNat - '0'.toNat)) 0)
    else none
  | [] => none

/-- The member or item one step of a path names. -/
def step? (step : String) : Json → Option Json
  | .object members => lookup step members
  | .list items => (indexOf? step).bind fun i => items[i]?
  | _ => none

/-- The value at the end of a path. -/
def at? : List String → Json → Option Json
  | [], j => some j
  | step :: rest, j => (j.step? step).bind (at? rest)

/-- The object with the value at the end of a path of member names replaced or added. Other
values than objects on the way are replaced. -/
def set : Json → List String → Json → Json
  | _, [], value => value
  | .object members, name :: rest, value =>
    .object (insertMember name (set ((lookup name members).getD .null) rest value) members)
  | _, name :: rest, value => .object [(name, set .null rest value)]

/-! ## Small laws -/

@[simp] theorem lookup_nil (name : String) : lookup name [] = none := rfl

@[simp] theorem lookup_insertMember_self (name : String) (value : Json) (members : Members) :
    lookup name (insertMember name value members) = some value := by
  induction members with
  | nil => simp [insertMember, lookup]
  | cons m rest ih =>
    obtain ⟨k, v⟩ := m
    simp only [insertMember]
    split
    · simp [lookup]
    · split
      · simp [lookup]
      · next hk => simp [lookup, Ne.symm hk, ih]

theorem lookup_insertMember_of_ne {name other : String} (h : other ≠ name) (value : Json)
    (members : Members) :
    lookup other (insertMember name value members) = lookup other members := by
  induction members with
  | nil => simp [insertMember, lookup, Ne.symm h]
  | cons m rest ih =>
    obtain ⟨k, v⟩ := m
    simp only [insertMember]
    split
    · simp [lookup, Ne.symm h]
    · split
      · next hk => subst hk; simp [lookup, Ne.symm h]
      · simp [lookup, ih]

theorem insertMember_of_lt {name k : String} (h : name < k) (value v : Json) (rest : Members) :
    insertMember name value ((k, v) :: rest) = (name, value) :: (k, v) :: rest :=
  if_pos h

theorem insertMember_of_gt {name k : String} (h : k < name) (value v : Json) (rest : Members) :
    insertMember name value ((k, v) :: rest) = (k, v) :: insertMember name value rest := by
  have hne : name ≠ k := fun he => String.lt_irrefl k (he ▸ h)
  rw [insertMember, if_neg (String.lt_asymm h), if_neg hne]

theorem sortMembers_concat (members : Members) (name : String) (value : Json) :
    sortMembers (members ++ [(name, value)]) = insertMember name value (sortMembers members) := by
  rw [sortMembers, List.foldl_append]
  rfl

theorem sortMembers_pair {name name' : String} (h : name < name') (value value' : Json) :
    sortMembers [(name, value), (name', value')] = [(name, value), (name', value')] :=
  insertMember_of_gt h value' value []

theorem sortMembers_pair_swap {name name' : String} (h : name < name') (value value' : Json) :
    sortMembers [(name', value'), (name, value)] = [(name, value), (name', value')] :=
  insertMember_of_lt h value value' []

theorem at?_null {path : List String} (h : path ≠ []) : at? path .null = none := by
  cases path with
  | nil => exact absurd rfl h
  | cons step rest => rfl

/-- A value that was set is found. -/
@[simp] theorem at?_set_self (j : Json) (path : List String) (value : Json) :
    (j.set path value).at? path = some value := by
  induction path generalizing j with
  | nil => cases j <;> rfl
  | cons name rest ih =>
    cases j with
    | object members => simpa [set, at?, step?] using ih _
    | null | bool _ | int _ | float _ | text _ | list _ =>
      simpa [set, at?, step?, lookup] using ih _

/-- Setting a value leaves its siblings alone. None of the names may spell an index, because a list
on the way is replaced. -/
theorem at?_set_sibling {path : List String} {name other : String} (h : other ≠ name)
    (hpath : ∀ step ∈ path, indexOf? step = none) (hother : indexOf? other = none)
    (j value : Json) :
    (j.set (path ++ [name]) value).at? (path ++ [other]) = j.at? (path ++ [other]) := by
  induction path generalizing j with
  | nil =>
    cases j with
    | object members => simp [set, at?, step?, lookup_insertMember_of_ne h]
    | list items => simp [set, at?, step?, lookup, hother, Ne.symm h]
    | null | bool _ | int _ | float _ | text _ => simp [set, at?, step?, lookup, Ne.symm h]
  | cons step path ih =>
    obtain ⟨hstep, hpath⟩ := List.forall_mem_cons.1 hpath
    have hrest (j : Json) := ih hpath j
    have hnull : at? (path ++ [other]) .null = none := at?_null (by simp)
    cases j with
    | object members =>
      simp only [List.cons_append, set, at?, step?, lookup_insertMember_self, Option.bind_some,
        hrest]
      cases lookup step members with
      | none => exact hnull
      | some value => rfl
    | list items => simp [set, at?, step?, lookup, hrest, hnull, hstep]
    | null | bool _ | int _ | float _ | text _ => simp [set, at?, step?, lookup, hrest, hnull]

end Json

end Pushdown
