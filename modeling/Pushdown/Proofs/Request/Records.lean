import Mathlib.Data.List.Pairwise
import Pushdown.Proofs.Json.Trees
import Pushdown.Request.Record

/-!
# Records that are edited

`Record.slots?` reads an object member by member. `Record.slots?_object_iff` says what it reads
apart from their order: the members of each field, whatever it is called, are one or none, and the
slot of the field holds what was given.

`Record.Edit` is one change of how a record is written: its members are put in another order, a
member of an unknown name is added, a field is called by another of its names, a default is left
out, or what is given for a field is itself written in another way. `Record.Edit.slots?` is that an
object that can be read can still be read after an edit, and that at most one slot of it has changed
(`Record.Part.Moves`).
-/

namespace Pushdown

namespace Record

open Json (Source)

/-! ## What is given for a field -/

/-- The trees that the members of an object give for a field, in order. -/
def Field.given (field : Field) (members : List (Option String × Source)) : List Source :=
  members.filterMap fun m => if m.1.any field.names.contains then some m.2 else none

/-- Fields of which no two are written under one name. -/
def Distinct (fields : List Field) : Prop :=
  fields.Pairwise fun field other => ∀ name ∈ field.names, name ∉ other.names

instance (fields : List Field) : Decidable (Distinct fields) :=
  inferInstanceAs (Decidable (fields.Pairwise _))

section
variable {field : Field} {fields : List Field} {name : String} {source : Source}
  {members members' : List (Option String × Source)} {slots slots' : Slots}

theorem given_cons_of_mem (h : name ∈ field.names) :
    field.given ((some name, source) :: members) = source :: field.given members :=
  List.filterMap_cons_some (by simp [h])

theorem given_cons_of_notMem (h : name ∉ field.names) :
    field.given ((some name, source) :: members) = field.given members :=
  List.filterMap_cons_none (by simp [h])

theorem given_append (field : Field) (members members' : List (Option String × Source)) :
    field.given (members ++ members') = field.given members ++ field.given members' :=
  List.filterMap_append

/-- A slot holds one tree at most. -/
theorem toList_perm {slot : Option Source} {sources : List Source}
    (h : slot.toList.Perm sources) : sources = slot.toList := by
  cases slot with
  | none => exact h.nil_eq.symm
  | some source => exact List.perm_singleton.1 h.symm

theorem eq_of_toList {slot slot' : Option Source} (h : slot.toList = slot'.toList) :
    slot = slot' := by
  cases slot <;> cases slot' <;> simp_all

/-- A slot that holds a tree holds nothing else. -/
theorem eq_some_of_given {slot : Option Source} {sources sources' : List Source}
    (h : sources ++ source :: sources' = slot.toList) :
    sources = [] ∧ sources' = [] ∧ slot = some source := by
  cases slot with
  | none => simp at h
  | some other =>
    cases sources with
    | nil =>
      obtain ⟨rfl, rfl⟩ := List.cons.inj h
      exact ⟨rfl, rfl, rfl⟩
    | cons first rest => simp at h

/-! ## Reading the members -/

/-- The slots with a member put into the one of its field, or as they are if no field is written
under its name. -/
def put? (fields : List Field) (name : String) (source : Source) (slots : Slots) : Option Slots :=
  match fields.findIdx? fun field => field.names.contains name with
  | none => some slots
  | some i => fill? source i slots

theorem fromMembers?_cons (rest : List (Option String × Source)) :
    fromMembers? fields ((some name, source) :: rest) slots
      = (put? fields name source slots).bind (fromMembers? fields rest) := by
  rw [fromMembers?, put?]
  cases fields.findIdx? fun field => field.names.contains name <;> rfl

theorem put?_cons (slot : Option Source) :
    put? (field :: fields) name source (slot :: slots)
      = if name ∈ field.names then (if slot.isNone then some (some source :: slots) else none)
        else (put? fields name source slots).map (slot :: ·) := by
  rw [put?, put?, List.findIdx?_cons]
  by_cases h : name ∈ field.names
  · simp [h, fill?]
  · rw [if_neg h, if_neg (by simpa using h)]
    cases fields.findIdx? fun field => field.names.contains name <;> simp [fill?]

theorem length_of_fill? {i : Nat} (h : fill? source i slots = some slots') :
    slots'.length = slots.length := by
  induction slots generalizing i slots' with
  | nil => cases i <;> cases h
  | cons slot slots ih =>
    cases i with
    | zero =>
      rw [fill?] at h
      split at h
      · cases h
        rfl
      · cases h
    | succ i =>
      obtain ⟨filled, hfilled, rfl⟩ := Option.map_eq_some_iff.1 h
      exact congrArg Nat.succ (ih hfilled)

theorem length_of_put? (h : put? fields name source slots = some slots') :
    slots'.length = slots.length := by
  rw [put?] at h
  split at h
  · cases h
    rfl
  · exact length_of_fill? h

/-- The slots of some fields filled with what the members give for them. -/
inductive Fills (members : List (Option String × Source)) :
    List Field → Slots → Slots → Prop where
  | nil : Fills members [] [] []
  | cons {field : Field} {fields : List Field} {slot slot' : Option Source} {slots slots' : Slots}
    (hslot : slot.toList ++ field.given members = slot'.toList)
    (hslots : Fills members fields slots slots') :
    Fills members (field :: fields) (slot :: slots) (slot' :: slots')

theorem Fills.congr (h : Fills members fields slots slots')
    (hgiven : ∀ field ∈ fields, field.given members = field.given members') :
    Fills members' fields slots slots' := by
  induction h with
  | nil => exact .nil
  | cons hslot _ ih =>
    obtain ⟨hfield, hfields⟩ := List.forall_mem_cons.1 hgiven
    exact .cons (hfield ▸ hslot) (ih hfields)

/-- A member goes into the slot of its field, which must be empty. -/
theorem fills_cons_iff (hdistinct : Distinct fields) (hlength : slots.length = fields.length) :
    Fills ((some name, source) :: members) fields slots slots'
      ↔ ∃ filled, put? fields name source slots = some filled
        ∧ Fills members fields filled slots' := by
  induction fields generalizing slots slots' with
  | nil =>
    obtain rfl := List.length_eq_zero_iff.1 hlength
    constructor
    · rintro ⟨⟩
      exact ⟨[], rfl, .nil⟩
    · rintro ⟨_, ⟨⟩, ⟨⟩⟩
      exact .nil
  | cons field fields ih =>
    obtain ⟨slot, slots, rfl⟩ := List.exists_cons_of_length_eq_add_one hlength
    obtain ⟨hfield, hdistinct⟩ := List.pairwise_cons.1 hdistinct
    rw [put?_cons]
    by_cases hname : name ∈ field.names
    · have hother : ∀ other ∈ fields,
          other.given ((some name, source) :: members) = other.given members :=
        fun other hmem => given_cons_of_notMem (hfield other hmem name hname)
      rw [if_pos hname]
      constructor
      · rintro (_ | ⟨hslot, hslots⟩)
        rw [given_cons_of_mem hname] at hslot
        cases slot with
        | none => exact ⟨_, rfl, .cons hslot (hslots.congr hother)⟩
        | some first =>
          -- a full slot has no room for a second tree
          exact nomatch (eq_some_of_given hslot).1
      · rintro ⟨filled, hfilled, hfills⟩
        split at hfilled
        · next hnone =>
          cases hfilled
          obtain rfl := Option.isNone_iff_eq_none.1 hnone
          obtain _ | ⟨hslot, hslots⟩ := hfills
          refine .cons ?_ (hslots.congr fun other hmem => (hother other hmem).symm)
          rw [given_cons_of_mem hname]
          exact hslot
        · cases hfilled
    · rw [if_neg hname]
      constructor
      · rintro (_ | ⟨hslot, hslots⟩)
        obtain ⟨filled, hfilled, hfills⟩ := (ih hdistinct (Nat.succ.inj hlength)).1 hslots
        rw [given_cons_of_notMem hname] at hslot
        exact ⟨slot :: filled, by rw [hfilled]; rfl, .cons hslot hfills⟩
      · rintro ⟨_, hput, hfills⟩
        obtain ⟨filled, hfilled, rfl⟩ := Option.map_eq_some_iff.1 hput
        obtain _ | ⟨hslot, hslots⟩ := hfills
        refine .cons ?_ ((ih hdistinct (Nat.succ.inj hlength)).2 ⟨filled, hfilled, hslots⟩)
        rw [given_cons_of_notMem hname]
        exact hslot

theorem fills_nil_iff (hlength : slots.length = fields.length) :
    Fills [] fields slots slots' ↔ slots = slots' := by
  have hempty (field : Field) : field.given [] = [] := rfl
  constructor
  · intro h
    induction h with
    | nil => rfl
    | cons hslot _ ih =>
      rw [hempty, List.append_nil] at hslot
      rw [ih (Nat.succ.inj hlength), eq_of_toList hslot]
  · rintro rfl
    induction fields generalizing slots with
    | nil =>
      obtain rfl := List.length_eq_zero_iff.1 hlength
      exact .nil
    | cons field fields ih =>
      obtain ⟨slot, slots, rfl⟩ := List.exists_cons_of_length_eq_add_one hlength
      exact .cons (List.append_nil _) (ih (Nat.succ.inj hlength))

/-- The members fill the slots one after the other. -/
theorem fromMembers?_eq_some_iff (hdistinct : Distinct fields)
    (hlength : slots.length = fields.length) :
    fromMembers? fields members slots = some slots'
      ↔ (∀ m ∈ members, m.1.isSome) ∧ Fills members fields slots slots' := by
  induction members generalizing slots with
  | nil => simp [fromMembers?, fills_nil_iff hlength]
  | cons m rest ih =>
    obtain ⟨_ | name, source⟩ := m
    · simp [fromMembers?]
    · rw [fromMembers?_cons, Option.bind_eq_some_iff, List.forall_mem_cons,
        fills_cons_iff hdistinct hlength]
      constructor
      · rintro ⟨filled, hfilled, hrest⟩
        obtain ⟨hnames, hfills⟩ := (ih ((length_of_put? hfilled).trans hlength)).1 hrest
        exact ⟨⟨rfl, hnames⟩, filled, hfilled, hfills⟩
      · rintro ⟨⟨-, hnames⟩, filled, hfilled, hfills⟩
        exact ⟨filled, hfilled, (ih ((length_of_put? hfilled).trans hlength)).2 ⟨hnames, hfills⟩⟩

/-- Whether members give the slots of some fields: all of them have names, and what they give for a
field is what its slot holds. -/
def Gives (members : List (Option String × Source)) (fields : List Field) (slots : Slots) : Prop :=
  (∀ m ∈ members, m.1.isSome)
    ∧ List.Forall₂ (fun field slot => field.given members = slot.toList) fields slots

/-- An object is read as the slots that its members give, in whatever order they stand. -/
theorem slots?_object_iff (hdistinct : Distinct fields) :
    slots? fields (.object members) = some slots ↔ Gives members fields slots := by
  have hempty : Fills members fields (fields.map fun _ => none) slots
      ↔ List.Forall₂ (fun field slot => field.given members = slot.toList) fields slots := by
    constructor
    · intro h
      generalize hslots : fields.map (fun _ => (none : Option Source)) = empty at h
      induction h with
      | nil => exact .nil
      | cons hslot _ ih =>
        obtain ⟨hnone, hrest⟩ := List.cons.inj hslots
        subst hnone
        exact .cons hslot (ih (List.pairwise_cons.1 hdistinct).2 hrest)
    · intro h
      induction h with
      | nil => exact .nil
      | cons hslot _ ih => exact .cons hslot (ih (List.pairwise_cons.1 hdistinct).2)
  rw [slots?, fromMembers?_eq_some_iff hdistinct (by simp), hempty, Gives]

theorem Gives.exists_slot (h : Gives members fields slots) (hfield : field ∈ fields) :
    ∃ slot ∈ slots, field.given members = slot.toList := by
  obtain ⟨-, hgives⟩ := h
  induction hgives with
  | nil => cases hfield
  | cons hslot _ ih =>
    rcases List.mem_cons.1 hfield with rfl | hmem
    · exact ⟨_, List.mem_cons_self, hslot⟩
    · obtain ⟨slot, hmem, hgiven⟩ := ih hmem
      exact ⟨slot, List.mem_cons_of_mem _ hmem, hgiven⟩

end

/-- A record that gives a field twice, under one of its names or under two. -/
def GivesTwice (fields : List Field) (source : Source) : Prop :=
  ∃ members, source = .object members ∧ ∃ field ∈ fields, 2 ≤ (field.given members).length

/-- It cannot be read. -/
theorem GivesTwice.slots?_eq_none {fields : List Field} {source : Source}
    (hdistinct : Distinct fields) (h : GivesTwice fields source) : slots? fields source = none := by
  obtain ⟨members, rfl, field, hfield, htwice⟩ := h
  rw [Option.eq_none_iff_forall_not_mem]
  intro slots hslots
  obtain ⟨slot, -, hslot⟩ := ((slots?_object_iff hdistinct).1 hslots).exists_slot hfield
  rw [hslot] at htwice
  cases slot <;> simp at htwice

/-! ## Editing a record -/

/-- A field of a record, the trees that stand for its default, and the ways in which what is given
for it can be written. -/
structure Part where
  field : Field
  isDefault : Source → Prop
  rewrites : Source → Source → Prop

/-- The fields of the parts of a record. -/
abbrev fieldsOf (parts : List Part) : List Field := parts.map Part.field

/-- One change of how a record is written. -/
inductive Edit (parts : List Part) : Source → Source → Prop where
  | reorder {members members' : List (Option String × Source)} (h : members.Perm members') :
    Edit parts (.object members) (.object members')
  | unknown {before after : List (Option String × Source)} {name : String} {source : Source}
    (h : ∀ part ∈ parts, name ∉ part.field.names) :
    Edit parts (.object (before ++ after)) (.object (before ++ (some name, source) :: after))
  | rename {before after : List (Option String × Source)} {part : Part} {name name' : String}
    {source : Source} (hpart : part ∈ parts) (hname : name ∈ part.field.names)
    (hname' : name' ∈ part.field.names) :
    Edit parts (.object (before ++ (some name, source) :: after))
      (.object (before ++ (some name', source) :: after))
  | leaveOut {before after : List (Option String × Source)} {part : Part} {name : String}
    {source : Source} (hpart : part ∈ parts) (hname : name ∈ part.field.names)
    (hdefault : part.isDefault source) :
    Edit parts (.object (before ++ (some name, source) :: after)) (.object (before ++ after))
  | rewrite {before after : List (Option String × Source)} {part : Part} {name : String}
    {source source' : Source} (hpart : part ∈ parts) (hname : name ∈ part.field.names)
    (h : part.rewrites source source') :
    Edit parts (.object (before ++ (some name, source) :: after))
      (.object (before ++ (some name, source') :: after))

/-- How an edit may change the slot of a field. -/
def Part.Moves (part : Part) (slot slot' : Option Source) : Prop :=
  slot' = slot
    ∨ (∃ source, slot = some source ∧ slot' = none ∧ part.isDefault source)
    ∨ ∃ source source', slot = some source ∧ slot' = some source' ∧ part.rewrites source source'

/-- How an edit may change the slots of a record. -/
inductive Moves : List Part → Slots → Slots → Prop where
  | nil : Moves [] [] []
  | cons {part : Part} {parts : List Part} {slot slot' : Option Source} {slots slots' : Slots}
    (hslot : part.Moves slot slot') (hslots : Moves parts slots slots') :
    Moves (part :: parts) (slot :: slots) (slot' :: slots')

section
variable {part : Part} {parts : List Part} {members members' : List (Option String × Source)}
  {slots : Slots} {source source' : Source}

/-- An object can still be read if every field is given what its slot may be changed to. -/
theorem exists_moves (hdistinct : Distinct (fieldsOf parts))
    (h : slots? (fieldsOf parts) (.object members) = some slots)
    (hnames : ∀ m ∈ members', m.1.isSome)
    (hmoves : ∀ part ∈ parts, ∀ slot : Option Source, part.field.given members = slot.toList →
      ∃ slot', part.field.given members' = slot'.toList ∧ part.Moves slot slot') :
    ∃ slots', slots? (fieldsOf parts) (.object members') = some slots'
      ∧ Moves parts slots slots' := by
  obtain ⟨-, hgives⟩ := (slots?_object_iff hdistinct).1 h
  -- the names were judged for all members at once, so the fields are taken one by one without them
  have hgiven : ∃ slots', List.Forall₂ (fun field slot => field.given members' = slot.toList)
      (fieldsOf parts) slots' ∧ Moves parts slots slots' := by
    clear h hdistinct
    induction parts generalizing slots with
    | nil =>
      cases hgives
      exact ⟨[], .nil, .nil⟩
    | cons part parts ih =>
      obtain ⟨hpart, hparts⟩ := List.forall_mem_cons.1 hmoves
      obtain _ | ⟨hslot, hslots⟩ := hgives
      obtain ⟨slot', hslot', hmove⟩ := hpart _ hslot
      obtain ⟨slots', hslots', hmoves⟩ := ih hparts hslots
      exact ⟨slot' :: slots', .cons hslot' hslots', .cons hmove hmoves⟩
  obtain ⟨slots', hslots', hmoves⟩ := hgiven
  exact ⟨slots', (slots?_object_iff hdistinct).2 ⟨hnames, hslots'⟩, hmoves⟩

/-- A name belongs to one part. -/
theorem eq_of_mem_names (hdistinct : Distinct (fieldsOf parts)) {part other : Part} {name : String}
    (hpart : part ∈ parts) (hother : other ∈ parts) (hname : name ∈ part.field.names)
    (hname' : name ∈ other.field.names) : part = other := by
  by_contra hne
  have : Std.Symm fun part other : Part => ∀ name ∈ part.field.names, name ∉ other.field.names :=
    ⟨fun _ _ h name hname hname' => h name hname' hname⟩
  exact (List.pairwise_map.1 hdistinct).forall hpart hother hne name hname hname'

/-- What a part is given by a member under one of its names. -/
theorem given_of_mem {before after : List (Option String × Source)} {name : String}
    (hname : name ∈ part.field.names) :
    part.field.given (before ++ (some name, source) :: after)
      = part.field.given before ++ source :: part.field.given after := by
  rw [given_append, given_cons_of_mem hname]

/-- A member under another name gives it nothing. -/
theorem given_of_notMem {before after : List (Option String × Source)} {name : String}
    (hname : name ∉ part.field.names) :
    part.field.given (before ++ (some name, source) :: after)
      = part.field.given (before ++ after) := by
  rw [given_append, given_append, given_cons_of_notMem hname]

/-- A member with a name may be added or taken away where all members are to have names. -/
theorem named_insert_iff {before after : List (Option String × Source)} {name : String} :
    (∀ m ∈ before ++ (some name, source) :: after, m.1.isSome)
      ↔ ∀ m ∈ before ++ after, m.1.isSome := by
  simp only [List.forall_mem_append, List.forall_mem_cons, Option.isSome_some, true_and]

/-- **An object that can be read can still be read after an edit**, and its slots are changed as the
edit may change them. -/
theorem Edit.slots? {fields : List Field} (hfields : fieldsOf parts = fields)
    (hdistinct : Distinct fields) (h : Edit parts source source')
    (hread : Record.slots? fields source = some slots) :
    ∃ slots', Record.slots? fields source' = some slots' ∧ Moves parts slots slots' := by
  subst hfields
  have hnames {members : List (Option String × Source)}
      (hread : Record.slots? (fieldsOf parts) (.object members) = some slots) :
      ∀ m ∈ members, m.1.isSome := ((slots?_object_iff hdistinct).1 hread).1
  cases h with
  | reorder hperm =>
    refine exists_moves hdistinct hread (fun m hm => hnames hread m (hperm.mem_iff.2 hm))
      fun part _ slot hslot => ⟨slot, ?_, .inl rfl⟩
    exact toList_perm (hslot ▸ hperm.filterMap _)
  | unknown hunknown =>
    refine exists_moves hdistinct hread (named_insert_iff.2 (hnames hread))
      fun part hpart slot hslot => ⟨slot, ?_, .inl rfl⟩
    rw [given_of_notMem (hunknown part hpart), hslot]
  | @rename before after part name name' member hpart hname hname' =>
    have hrest := named_insert_iff.1 (hnames hread)
    refine exists_moves hdistinct hread (named_insert_iff.2 hrest)
      fun other hother slot hslot => ⟨slot, ?_, .inl rfl⟩
    rw [← hslot]
    by_cases heq : part = other
    · rw [given_of_mem (heq ▸ hname'), given_of_mem (heq ▸ hname)]
    · have hnot {name : String} (hname : name ∈ part.field.names) : name ∉ other.field.names :=
        fun h => heq (eq_of_mem_names hdistinct hpart hother hname h)
      rw [given_of_notMem (hnot hname'), given_of_notMem (hnot hname)]
  | @leaveOut before after part name member hpart hname hdefault =>
    refine exists_moves hdistinct hread (named_insert_iff.1 (hnames hread))
      fun other hother slot hslot => ?_
    by_cases heq : part = other
    · subst heq
      rw [given_of_mem hname] at hslot
      obtain ⟨hbefore, hafter, rfl⟩ := eq_some_of_given hslot
      refine ⟨none, ?_, .inr (.inl ⟨member, rfl, rfl, hdefault⟩)⟩
      rw [given_append, hbefore, hafter]
      rfl
    · have hnot : name ∉ other.field.names :=
        fun h => heq (eq_of_mem_names hdistinct hpart hother hname h)
      exact ⟨slot, by rw [← hslot, given_of_notMem hnot], .inl rfl⟩
  | @rewrite before after part name member member' hpart hname hrewrites =>
    have hrest := named_insert_iff.1 (hnames hread)
    refine exists_moves hdistinct hread (named_insert_iff.2 hrest) fun other hother slot hslot => ?_
    by_cases heq : part = other
    · subst heq
      rw [given_of_mem hname] at hslot
      obtain ⟨hbefore, hafter, rfl⟩ := eq_some_of_given hslot
      refine ⟨some member', ?_, .inr (.inr ⟨member, member', rfl, rfl, hrewrites⟩)⟩
      rw [given_of_mem hname, hbefore, hafter]
      rfl
    · have hnot : name ∉ other.field.names :=
        fun h => heq (eq_of_mem_names hdistinct hpart hother hname h)
      refine ⟨slot, ?_, .inl rfl⟩
      rw [← hslot, given_of_notMem hnot, given_of_notMem hnot]

end

/-! ## What is read after an edit -/

section
variable {α : Type} {part : Part} {read : Source → Option α} {slot slot' : Option Source} {a : α}

/-- A field that must be given is read as before. -/
theorem required_of_moves (h : part.Moves slot slot') (hdefault : ∀ source, ¬ part.isDefault source)
    (hread : Source.Respects part.rewrites read) (ha : required read slot = some a) :
    required read slot' = some a := by
  rcases h with rfl | ⟨source, -, -, h⟩ | ⟨source, source', rfl, rfl, h⟩
  · exact ha
  · exact absurd h (hdefault source)
  · exact hread source source' a h ha

/-- A field that may be left out is read as before, if its default is read as what it falls back
to. -/
theorem defaulted_of_moves {fallback : α} (h : part.Moves slot slot')
    (hdefault : ∀ source, part.isDefault source → read source = some fallback)
    (hread : Source.Respects part.rewrites read) (ha : defaulted fallback read slot = some a) :
    defaulted fallback read slot' = some a := by
  rcases h with rfl | ⟨source, rfl, rfl, h⟩ | ⟨source, source', rfl, rfl, h⟩
  · exact ha
  · exact (hdefault source h).symm.trans ha
  · exact hread source source' a h ha

/-- A list of which one item is written in another way. -/
inductive RewritesItem (rewrites : Source → Source → Prop) : Source → Source → Prop where
  | item {before after : List Source} {source source' : Source} (h : rewrites source source') :
    RewritesItem rewrites (.list (before ++ source :: after)) (.list (before ++ source' :: after))

/-- A list is read as before if its items are. -/
theorem respects_list {rewrites : Source → Source → Prop} (h : Source.Respects rewrites read) :
    Source.Respects (RewritesItem rewrites) (list read) := by
  rintro _ _ as ⟨hitem⟩ hread
  exact Source.mapM_replace (fun a => h _ _ a hitem) hread

/-- What is read in a list was read from one of its items. -/
theorem exists_of_mem_list {as : List α} (h : defaulted [] (list read) slot = some as)
    (ha : a ∈ as) : ∃ source, read source = some a := by
  cases slot with
  | none =>
    cases h
    cases ha
  | some source =>
    cases source with
    | list items =>
      have hitems := Source.mapM_eq_some_iff.1 h
      clear h
      induction hitems with
      | nil => cases ha
      | cons hfirst _ ih =>
        rcases List.mem_cons.1 ha with rfl | ha
        · exact ⟨_, hfirst⟩
        · exact ih ha
    | _ => cases h

end

end Record

end Pushdown
