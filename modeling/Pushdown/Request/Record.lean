import Pushdown.Json.Source

/-!
# Records

A record is written as a JSON object with a member for each field, in any order, or as a list of
its fields in their declared order. A `Field` has the names it may be written under, and may be
left out when it has a default. Members of other names are skipped without being judged; a field
given twice, under whatever names, makes the record unreadable, and so does a list with more
items than there are fields. `Record.slots?` does this once for every kind of record: it answers,
for each field, the tree that was given for it or that it was left out.
-/

namespace Pushdown

namespace Record

open Json (Source)

/-- A field of a record: the names it may be written under. -/
structure Field where
  names : List String
  deriving Repr, DecidableEq

/-- The trees found so far for each field. -/
abbrev Slots := List (Option Source)

/-- The slots with a tree put at a place that was empty; none when it was not. -/
def fill? (source : Source) : Nat → Slots → Option Slots
  | _, [] => none
  | 0, slot :: rest => if slot.isNone then some (some source :: rest) else none
  | i + 1, slot :: rest => (fill? source i rest).map (slot :: ·)

/-- The slots filled from the members of an object. -/
def fromMembers? (fields : List Field) :
    List (Option String × Source) → Slots → Option Slots
  | [], slots => some slots
  | (none, _) :: _, _ => none
  | (some name, source) :: rest, slots =>
    match fields.findIdx? fun f => f.names.contains name with
    | none => fromMembers? fields rest slots
    | some i => (fill? source i slots).bind (fromMembers? fields rest)

/-- The slots of a record's fields. -/
def slots? (fields : List Field) : Source → Option Slots
  | .object members => fromMembers? fields members (fields.map fun _ => none)
  | .list items =>
    if items.length ≤ fields.length then
      some (items.map some ++ List.replicate (fields.length - items.length) none)
    else none
  | _ => none

/-- A field that must be given. -/
def required {α : Type} (read : Source → Option α) (slot : Option Source) : Option α :=
  slot.bind read

/-- A field that stands at its default when it is left out. -/
def defaulted {α : Type} (fallback : α) (read : Source → Option α) (slot : Option Source) :
    Option α :=
  match slot with
  | some source => read source
  | none => some fallback

/-! ## Readers -/

/-- A text. -/
def text : Source → Option String
  | .text s => some s
  | _ => none

/-- A truth value. -/
def bool : Source → Option Bool
  | .bool b => some b
  | _ => none

/-- A value that may be `null`. -/
def optional {α : Type} (read : Source → Option α) : Source → Option (Option α)
  | .null => some none
  | source => (read source).map some

/-- A list, each item read by the same reader. -/
def list {α : Type} (read : Source → Option α) : Source → Option (List α)
  | .list items => items.mapM read
  | _ => none

/-- One of a closed set of words: the word itself, or an object with the word as its only
member, whose value is `null`. -/
def word {α : Type} (ofWord : String → Option α) : Source → Option α
  | .text s => ofWord s
  | .object [(some s, .null)] => ofWord s
  | _ => none

end Record

end Pushdown
