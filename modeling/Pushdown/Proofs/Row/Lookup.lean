import Pushdown.Proofs.Document.Sampling
import Pushdown.Row.Normalize

/-!
# Lists in the fields of documents

A path leads through objects by the names of their members, and through lists by any of their items
(`Document.LeadsTo`). What is found is a list where a list stands at the end of the path or on the
way (`Document.Gathers`), and a list of one value is taken for that value. This is done once: if the
one value is a list again (`Document.Stacks`), that list is what a cell gets, whatever its type.

`Document.lookupPath_single` says that this is the only way in which a list gets into a cell that is
no label, and `Document.not_lookupPath_single_pairFields` that it happens.
-/

namespace Pushdown

namespace Document

/-! ## Where a path leads -/

/-- A path leads to a value: by names through objects, and through lists by their items. -/
inductive LeadsTo : List String → Json → Json → Prop
  | here (j : Json) : LeadsTo [] j j
  | member {step : String} {rest : List String} {members : Members} {value found : Json}
      (hmember : Json.lookup step members = some value) (h : LeadsTo rest value found) :
      LeadsTo (step :: rest) (.object members) found
  | item {step : String} {rest : List String} {items : List Json} {item found : Json}
      (hitem : item ∈ items) (h : LeadsTo (step :: rest) item found) :
      LeadsTo (step :: rest) (.list items) found

/-- A path leads to a value that is not `null`. -/
def Leads (path : List String) (j : Json) : Prop :=
  ∃ found, LeadsTo path j found ∧ found ≠ .null

/-- A path finds a list: the one it ends at, or what it leads to by the items of one on its way. -/
inductive Gathers : List String → Json → Prop
  | here (items : List Json) : Gathers [] (.list items)
  | member {step : String} {rest : List String} {members : Members} {value : Json}
      (hmember : Json.lookup step members = some value) (h : Gathers rest value) :
      Gathers (step :: rest) (.object members)
  | item {step : String} {rest : List String} {items : List Json} {item : Json}
      (hitem : item ∈ items) (h : Leads (step :: rest) item) :
      Gathers (step :: rest) (.list items)

/-- A path finds a list of one list: the one it ends at, or, of the items of a list on its way, it
leads somewhere by a single one and finds a list there. -/
inductive Stacks : List String → Json → Prop
  | here (items : List Json) : Stacks [] (.list [.list items])
  | member {step : String} {rest : List String} {members : Members} {value : Json}
      (hmember : Json.lookup step members = some value) (h : Stacks rest value) :
      Stacks (step :: rest) (.object members)
  | item {step : String} {rest : List String} {before after : List Json} {item : Json}
      (h : Gathers (step :: rest) item)
      (hothers : ∀ other ∈ before ++ after, ¬Leads (step :: rest) other) :
      Stacks (step :: rest) (.list (before ++ item :: after))

section

variable {rest : List String} {step : String} {members : Members} {items : List Json}
  {j found : Json}

theorem leads_nil : Leads [] j ↔ j ≠ .null := by
  constructor
  · rintro ⟨_, ⟨⟩, h⟩
    exact h
  · intro h
    exact ⟨j, .here j, h⟩

theorem leads_object : Leads (step :: rest) (.object members)
    ↔ ∃ value, Json.lookup step members = some value ∧ Leads rest value := by
  constructor
  · rintro ⟨found, ⟨⟩ | ⟨hmember, h⟩, hfound⟩
    exact ⟨_, hmember, found, h, hfound⟩
  · rintro ⟨value, hmember, found, h, hfound⟩
    exact ⟨found, .member hmember h, hfound⟩

theorem leads_list : Leads (step :: rest) (.list items)
    ↔ ∃ item ∈ items, Leads (step :: rest) item := by
  constructor
  · rintro ⟨found, ⟨⟩ | ⟨⟩ | ⟨hitem, h⟩, hfound⟩
    exact ⟨_, hitem, found, h, hfound⟩
  · rintro ⟨item, hitem, found, h, hfound⟩
    exact ⟨found, .item hitem h, hfound⟩

theorem gathers_nil : Gathers [] j ↔ ∃ items, j = .list items := by
  constructor
  · rintro ⟨items⟩
    exact ⟨items, rfl⟩
  · rintro ⟨items, rfl⟩
    exact .here items

theorem gathers_object : Gathers (step :: rest) (.object members)
    ↔ ∃ value, Json.lookup step members = some value ∧ Gathers rest value := by
  constructor
  · rintro (_ | ⟨hmember, h⟩)
    exact ⟨_, hmember, h⟩
  · rintro ⟨value, hmember, h⟩
    exact .member hmember h

theorem gathers_list : Gathers (step :: rest) (.list items)
    ↔ ∃ item ∈ items, Leads (step :: rest) item := by
  constructor
  · rintro (_ | _ | ⟨hitem, h⟩)
    exact ⟨_, hitem, h⟩
  · rintro ⟨item, hitem, h⟩
    exact .item hitem h

theorem stacks_nil : Stacks [] j ↔ ∃ items, j = .list [.list items] := by
  constructor
  · rintro ⟨items⟩
    exact ⟨items, rfl⟩
  · rintro ⟨items, rfl⟩
    exact .here items

theorem stacks_object : Stacks (step :: rest) (.object members)
    ↔ ∃ value, Json.lookup step members = some value ∧ Stacks rest value := by
  constructor
  · rintro (_ | ⟨hmember, h⟩)
    exact ⟨_, hmember, h⟩
  · rintro ⟨value, hmember, h⟩
    exact .member hmember h

theorem stacks_list : Stacks (step :: rest) (.list items)
    ↔ ∃ before item after, items = before ++ item :: after ∧ Gathers (step :: rest) item
        ∧ ∀ other ∈ before ++ after, ¬Leads (step :: rest) other := by
  constructor
  · rintro (_ | _ | ⟨h, hothers⟩)
    exact ⟨_, _, _, rfl, h, hothers⟩
  · rintro ⟨before, item, after, rfl, h, hothers⟩
    exact .item h hothers

/-! ## What is found on the way -/

/-- A walk takes a step into an object and stays with the path in a list. -/
@[elab_as_elim]
theorem walkInduction {motive : List String → Json → Prop} (here : ∀ j, motive [] j)
    (object : ∀ step rest members,
      (∀ value, Json.lookup step members = some value → motive rest value) →
        motive (step :: rest) (.object members))
    (list : ∀ step rest items, (∀ item ∈ items, motive (step :: rest) item) →
      motive (step :: rest) (.list items))
    (scalar : ∀ step rest j, j.members? = none → NotList j → motive (step :: rest) j)
    : ∀ path j, motive path j
  | [], j => here j
  | step :: rest, .object members => object step rest members fun value _ =>
    walkInduction here object list scalar rest value
  | step :: rest, .list items => list step rest items fun item _ =>
    walkInduction here object list scalar (step :: rest) item
  | step :: rest, .null | step :: rest, .bool _ | step :: rest, .int _ | step :: rest, .float _
  | step :: rest, .text _ => scalar step rest _ rfl rfl
termination_by path j => (path.length, sizeOf j)
decreasing_by
  · exact .left _ _ (Nat.lt_succ_self rest.length)
  · next hitem =>
    have hlt := List.sizeOf_lt_of_mem hitem
    refine .right _ ?_
    rw [Json.list.sizeOf_spec]
    omega

theorem walk_nil (j : Json) : walk j [] = j := by
  cases j <;> rfl

theorem walk_object (step : String) (rest : List String) (members : Members) :
    walk (.object members) (step :: rest)
      = ((Json.lookup step members).map fun value => walk value rest).getD .null := by
  rw [walk]
  induction members with
  | nil => rfl
  | cons member others ih =>
    rw [walkMembers, Json.lookup]
    split
    · rfl
    · exact ih

theorem walk_object_eq_iff (hfound : found ≠ .null) :
    walk (.object members) (step :: rest) = found
      ↔ ∃ value, Json.lookup step members = some value ∧ walk value rest = found := by
  rw [walk_object]
  cases Json.lookup step members with
  | none => simp [Ne.symm hfound]
  | some value => simp

theorem walkItems_eq (path : List String) (items : List Json) :
    walkItems items path
      = (items.filter fun item => walk item path ≠ .null).map fun item => walk item path := by
  induction items with
  | nil => rfl
  | cons item others ih =>
    rw [walkItems]
    split
    · next hnull =>
      rw [List.filter_cons_of_neg (by simpa using hnull), ih]
    · next hfound =>
      rw [List.filter_cons_of_pos (by simpa using hfound), List.map_cons, ih]

/-- Of a list there is a list of what is found in its items, if anything is. -/
theorem walk_list_eq_list_iff {found : List Json} :
    walk (.list items) (step :: rest) = .list found
      ↔ found ≠ [] ∧ walkItems items (step :: rest) = found := by
  rw [walk]
  split
  · next hnone =>
    rw [hnone]
    constructor
    · rintro ⟨⟩
    · rintro ⟨hfound, rfl⟩
      exact absurd rfl hfound
  · next hsome =>
    constructor
    · rintro ⟨⟩
      exact ⟨hsome, rfl⟩
    · rintro ⟨-, rfl⟩
      rfl

/-- In a list nothing or a list is found. -/
theorem walk_list_cases (step : String) (rest : List String) (items : List Json) :
    walk (.list items) (step :: rest) = .null
      ∨ ∃ found, walk (.list items) (step :: rest) = .list found := by
  rw [walk]
  split
  · exact .inl rfl
  · exact .inr ⟨_, rfl⟩

theorem walk_scalar (step : String) (rest : List String) (hmembers : j.members? = none)
    (hitems : NotList j) : walk j (step :: rest) = .null := by
  cases j with
  | object => cases hmembers
  | list => cases hitems
  | null | bool | int | float | text => rfl

/-- In a list something is found if something is found in an item. -/
theorem exists_walk_list_iff :
    (∃ found, walk (.list items) (step :: rest) = .list found)
      ↔ ∃ item ∈ items, walk item (step :: rest) ≠ .null := by
  constructor
  · rintro ⟨found, h⟩
    obtain ⟨hfound, hitems⟩ := walk_list_eq_list_iff.1 h
    rw [walkItems_eq] at hitems
    obtain ⟨x, hx⟩ := List.exists_mem_of_ne_nil _ (hitems ▸ hfound)
    obtain ⟨item, hitem, -⟩ := List.mem_map.1 hx
    obtain ⟨hmem, hnull⟩ := List.mem_filter.1 hitem
    exact ⟨item, hmem, by simpa using hnull⟩
  · rintro ⟨item, hitem, hnull⟩
    have hfound : walk item (step :: rest) ∈ walkItems items (step :: rest) := by
      rw [walkItems_eq]
      exact List.mem_map.2 ⟨item, List.mem_filter.2 ⟨hitem, by simpa using hnull⟩, rfl⟩
    exact ⟨_, walk_list_eq_list_iff.2 ⟨List.ne_nil_of_mem hfound, rfl⟩⟩

/-- Something is found where the path leads somewhere. -/
theorem walk_ne_null_iff (path : List String) (j : Json) : walk j path ≠ .null ↔ Leads path j := by
  induction path, j using walkInduction with
  | here j => rw [walk_nil, leads_nil]
  | object step rest members ih =>
    rw [walk_object, leads_object]
    cases hmember : Json.lookup step members with
    | none => simp
    | some value => simpa using ih value hmember
  | list step rest items ih =>
    have hlist : walk (.list items) (step :: rest) ≠ .null
        ↔ ∃ found, walk (.list items) (step :: rest) = .list found := by
      rcases walk_list_cases step rest items with h | ⟨found, h⟩ <;> simp [h]
    rw [hlist, exists_walk_list_iff, leads_list]
    exact exists_congr fun item => and_congr_right fun hitem => ih item hitem
  | scalar step rest j hmembers hitems =>
    refine iff_of_false (fun h => h (walk_scalar step rest hmembers hitems)) ?_
    rintro ⟨_, ⟨⟩ | ⟨⟩ | ⟨⟩, -⟩
    · cases hmembers
    · cases hitems

/-- A list is found where the path gathers one. -/
theorem walk_eq_list_iff (path : List String) (j : Json) :
    (∃ found, walk j path = .list found) ↔ Gathers path j := by
  induction path, j using walkInduction with
  | here j => rw [walk_nil, gathers_nil]
  | object step rest members ih =>
    rw [walk_object, gathers_object]
    cases hmember : Json.lookup step members with
    | none => simp
    | some value => simpa using ih value hmember
  | list step rest items =>
    rw [exists_walk_list_iff, gathers_list]
    exact exists_congr fun item => and_congr_right fun _ => walk_ne_null_iff _ item
  | scalar step rest j hmembers hitems =>
    refine iff_of_false ?_ ?_
    · rintro ⟨found, h⟩
      rw [walk_scalar step rest hmembers hitems] at h
      cases h
    · rintro (_ | _ | _)
      · cases hmembers
      · cases hitems

/-- In a list a single value is found if it is found in just one of the items. -/
theorem walk_list_eq_singleton_iff :
    walk (.list items) (step :: rest) = .list [found]
      ↔ ∃ before item after, items = before ++ item :: after ∧ walk item (step :: rest) = found
        ∧ found ≠ .null ∧ ∀ other ∈ before ++ after, walk other (step :: rest) = .null := by
  rw [walk_list_eq_list_iff, walkItems_eq, and_iff_right (List.cons_ne_nil _ _),
    List.map_eq_singleton_iff]
  constructor
  · rintro ⟨item, hfilter, hwalk⟩
    obtain ⟨before, after, rfl, hbefore, hitem, hafter⟩ := List.filter_eq_cons_iff.1 hfilter
    rw [List.filter_eq_nil_iff] at hafter
    refine ⟨before, item, after, rfl, hwalk, by simpa [hwalk] using hitem, fun other hother => ?_⟩
    rcases List.mem_append.1 hother with hother | hother
    · simpa using hbefore other hother
    · simpa using hafter other hother
  · rintro ⟨before, item, after, rfl, hwalk, hfound, hothers⟩
    refine ⟨item, List.filter_eq_cons_iff.2 ⟨before, after, rfl, fun other hother => ?_, ?_, ?_⟩,
      hwalk⟩
    · simpa using hothers other (List.mem_append_left _ hother)
    · simpa [hwalk] using hfound
    · refine List.filter_eq_nil_iff.2 fun other hother => ?_
      simpa using hothers other (List.mem_append_right _ hother)

/-- A list of one list is found where the path stacks one. -/
theorem walk_eq_stack_iff (path : List String) (j : Json) :
    (∃ found, walk j path = .list [.list found]) ↔ Stacks path j := by
  induction path, j using walkInduction with
  | here j => rw [walk_nil, stacks_nil]
  | object step rest members ih =>
    rw [walk_object, stacks_object]
    cases hmember : Json.lookup step members with
    | none => simp
    | some value => simpa using ih value hmember
  | list step rest items =>
    rw [stacks_list]
    constructor
    · rintro ⟨found, h⟩
      obtain ⟨before, item, after, heq, hwalk, -, hothers⟩ := walk_list_eq_singleton_iff.1 h
      refine ⟨before, item, after, heq, (walk_eq_list_iff _ item).1 ⟨found, hwalk⟩, ?_⟩
      exact fun other hother hleads => (walk_ne_null_iff _ other).2 hleads (hothers other hother)
    · rintro ⟨before, item, after, heq, hgathers, hothers⟩
      obtain ⟨found, hwalk⟩ := (walk_eq_list_iff _ item).2 hgathers
      refine ⟨found, walk_list_eq_singleton_iff.2 ⟨_, _, _, heq, hwalk, Json.noConfusion, ?_⟩⟩
      intro other hother
      exact not_not.1 (mt (walk_ne_null_iff _ other).1 (hothers other hother))
  | scalar step rest j hmembers hitems =>
    refine iff_of_false ?_ ?_
    · rintro ⟨found, h⟩
      rw [walk_scalar step rest hmembers hitems] at h
      cases h
    · rintro (_ | _ | _)
      · cases hmembers
      · cases hitems

/-- A value that is found and is no list is where the path leads to. -/
theorem leadsTo_of_walk_eq {path : List String} (h : walk j path = found) (hfound : found ≠ .null)
    (hitems : NotList found) : LeadsTo path j found := by
  induction path, j using walkInduction with
  | here j =>
    rw [walk_nil] at h
    exact h ▸ .here j
  | object step rest members ih =>
    obtain ⟨value, hmember, h⟩ := (walk_object_eq_iff hfound).1 h
    exact .member hmember (ih value hmember h)
  | list step rest items =>
    rcases walk_list_cases step rest items with hnull | ⟨gathered, hgathered⟩
    · exact absurd (h.symm.trans hnull) hfound
    · rw [← h, hgathered] at hitems
      cases hitems
  | scalar step rest j hmembers hscalar =>
    exact absurd (h.symm.trans (walk_scalar step rest hmembers hscalar)) hfound

/-- The single value of a list that is found is where the path leads to, or that list is. -/
theorem leadsTo_of_walk_eq_singleton {path : List String} (h : walk j path = .list [found])
    (hitems : NotList found) : LeadsTo path j found ∨ LeadsTo path j (.list [found]) := by
  induction path, j using walkInduction with
  | here j =>
    rw [walk_nil] at h
    exact .inr (h ▸ .here j)
  | object step rest members ih =>
    obtain ⟨value, hmember, h⟩ := (walk_object_eq_iff Json.noConfusion).1 h
    exact (ih value hmember h).imp (.member hmember) (.member hmember)
  | list step rest items =>
    obtain ⟨before, item, after, rfl, hwalk, hfound, -⟩ := walk_list_eq_singleton_iff.1 h
    have hitem : item ∈ before ++ item :: after := List.mem_append_right _ List.mem_cons_self
    exact .inl (.item hitem (leadsTo_of_walk_eq hwalk hfound hitems))
  | scalar step rest j hmembers hscalar =>
    rw [walk_scalar step rest hmembers hscalar] at h
    cases h

end

/-! ## Values of columns -/

section

variable {fields : Members} {path : String} {type : ColumnType} {j : Json}

/-- The way to the value of a column: the field of that very name, or else the steps of the path
through the document. -/
def way (fields : Members) (path : String) : List String × Json :=
  match Json.lookup path fields with
  | some value => ([], value)
  | none => (Text.split '.' path, .object fields)

/-- The value of a column is a list of one list. -/
def StacksAt (fields : Members) (path : String) : Prop :=
  Stacks (way fields path).1 (way fields path).2

theorem lookupPath_eq (fields : Members) (path : String) (type : ColumnType) :
    lookupPath fields path type
      = unwrapList type (walk (way fields path).2 (way fields path).1) := by
  rw [lookupPath, way]
  cases Json.lookup path fields with
  | some value => exact congrArg (unwrapList type) (walk_nil value).symm
  | none =>
    dsimp only
    split
    · next hsplit =>
      exact absurd (List.map_eq_nil_iff.1 hsplit) (Text.splitChars_ne_nil _ _)
    · next hsplit => rw [hsplit, walk]

/-- A list that does not become a label is taken for its single value, so it stays a list if that
value is one. -/
theorem unwrapList_eq_list_iff (htype : type ≠ .hierarchy) {items : List Json} :
    unwrapList type j = .list items ↔ j = .list [.list items] := by
  cases j with
  | list values =>
    match values with
    | [] => simp [unwrapList]
    | [value] => simp [unwrapList]
    | _ :: _ :: _ => simp [unwrapList, htype]
  | null | bool | int | float | text | object => simp [unwrapList]

theorem unwrapList_cases (htype : type ≠ .hierarchy) (j : Json) :
    unwrapList type j = .null ∨ j = unwrapList type j ∨ j = .list [unwrapList type j] := by
  cases j with
  | list values =>
    match values with
    | [] => exact .inl rfl
    | [value] => exact .inr (.inr rfl)
    | _ :: _ :: _ => exact .inl (if_neg htype)
  | null | bool | int | float | text | object => exact .inr (.inl rfl)

theorem exists_lookupPath_eq_list_iff (htype : type ≠ .hierarchy) :
    (∃ items, lookupPath fields path type = .list items) ↔ StacksAt fields path := by
  rw [lookupPath_eq, StacksAt, ← walk_eq_stack_iff]
  exact exists_congr fun items => unwrapList_eq_list_iff htype

/-- What is handed out is `null`, a list, or a value the path leads to, perhaps as the only one of a
list. -/
theorem leadsTo_lookupPath (htype : type ≠ .hierarchy)
    (hnull : lookupPath fields path type ≠ .null) (hitems : NotList (lookupPath fields path type)) :
    LeadsTo (way fields path).1 (way fields path).2 (lookupPath fields path type)
      ∨ LeadsTo (way fields path).1 (way fields path).2
          (.list [lookupPath fields path type]) := by
  rw [lookupPath_eq] at hnull hitems ⊢
  rcases unwrapList_cases htype (walk (way fields path).2 (way fields path).1) with h | h | h
  · exact absurd h hnull
  · exact .inl (leadsTo_of_walk_eq h hnull hitems)
  · exact leadsTo_of_walk_eq_singleton h hitems

/-! ## Cells -/

theorem notList_of_ne_list (h : ¬∃ items, j = .list items) : NotList j := by
  cases j with
  | list items => exact absurd ⟨items, rfl⟩ h
  | null | bool | int | float | text | object => rfl

theorem normalizeNumber_eq_list_iff {items : List Json} :
    normalizeNumber j = .list items ↔ j = .list items := by
  cases j with
  | text s =>
    rw [normalizeNumber]
    split
    · next x _ =>
      have hnumber : Json.ofNumber x ≠ .list items := by
        rw [Json.ofNumber]
        split
        · exact Json.noConfusion
        · split <;> exact Json.noConfusion
      exact iff_of_false hnumber Json.noConfusion
    · exact iff_of_false Json.noConfusion Json.noConfusion
  | null | bool | int | float | list | object => rfl

theorem normalizeInstant_ne_list (value : Json) (items : List Json) :
    normalizeInstant value ≠ .list items := by
  rw [normalizeInstant]
  split <;> exact Json.noConfusion

/-- The cell of a document that is no label is a list only if it is a number, and the value of the
column a list of one list. -/
theorem stacksAt_of_cell_eq_list {output : OutputColumn} (htype : output.type ≠ .hierarchy)
    {place : Nat} {items : List Json}
    (h : (NativeRow.document fields).cell output place = .list items) :
    output.type = .numeric ∧ StacksAt fields output.key := by
  have hvalue : normalizeValue output.type (lookupPath fields output.key output.type)
      = .list items := by
    rw [NativeRow.cell] at h
    split at h
    · cases h
    · exact h
    · exact h
    · exact h
  cases hkind : output.type with
  | hierarchy => exact absurd hkind htype
  | datetime =>
    rw [hkind] at hvalue
    exact absurd hvalue (normalizeInstant_ne_list _ _)
  | numeric =>
    rw [hkind] at hvalue
    rw [hkind] at htype
    exact ⟨rfl, (exists_lookupPath_eq_list_iff htype).1
      ⟨items, normalizeNumber_eq_list_iff.1 hvalue⟩⟩

theorem forall₂_normalize {R : OutputColumn → Json → Prop} {row : NativeRow}
    (h : ∀ output place, R output (row.cell output place)) (outputs : List OutputColumn) :
    List.Forall₂ R outputs (normalize outputs row) := by
  rw [normalize]
  generalize 0 = n
  induction outputs generalizing n with
  | nil => exact .nil
  | cons output rest ih => exact .cons (h output n) (ih (n + 1))

/-- **Several values and a cell that holds one.** For a column that is no label, what is handed out
of a document is a list just when the value of the column is a list of one list. Otherwise it is
`null` or a value the path of the column leads to, which may stand there as the only one of a list.
And of the cells of a document that are no labels, only one of a number is a list, and only then. -/
theorem lookupPath_single (htype : type ≠ .hierarchy) (fields : Members) (path : String) :
    ((∃ items, lookupPath fields path type = .list items) ↔ StacksAt fields path)
      ∧ (StacksAt fields path ∨ lookupPath fields path type = .null
          ∨ ∃ found, LeadsTo (way fields path).1 (way fields path).2 found
              ∧ (found = lookupPath fields path type
                  ∨ found = .list [lookupPath fields path type]))
      ∧ ∀ outputs, List.Forall₂ (fun output cell => output.type ≠ .hierarchy →
          ∀ items, cell = .list items → output.type = .numeric ∧ StacksAt fields output.key)
          outputs (normalize outputs (.document fields)) := by
  refine ⟨exists_lookupPath_eq_list_iff htype, ?_, forall₂_normalize fun output place hlabel items
    hcell => stacksAt_of_cell_eq_list hlabel hcell⟩
  by_cases hstacks : StacksAt fields path
  · exact .inl hstacks
  by_cases hnull : lookupPath fields path type = .null
  · exact .inr (.inl hnull)
  have hitems := notList_of_ne_list (mt (exists_lookupPath_eq_list_iff htype).1 hstacks)
  rcases leadsTo_lookupPath htype hnull hitems with h | h
  · exact .inr (.inr ⟨_, h, .inl rfl⟩)
  · exact .inr (.inr ⟨_, h, .inr rfl⟩)

end

section

/-- The fields of an order of two lines, one of which has no quantity. -/
def lineFields : Members :=
  [("lines", .list [.single "qty" (.int 2), .single "sku" (.text "a")])]

/-- The one quantity is found in the list of lines. -/
theorem lookupPath_single_lineFields :
    ColumnType.numeric ≠ .hierarchy ∧ lookupPath lineFields "lines.qty" .numeric = .int 2
      ∧ ¬StacksAt lineFields "lines.qty" := by
  have htype : ColumnType.numeric ≠ .hierarchy := nofun
  have hvalue : lookupPath lineFields "lines.qty" .numeric = .int 2 := by decide +kernel
  refine ⟨htype, hvalue, fun hstacks => ?_⟩
  obtain ⟨items, hitems⟩ := (lookupPath_single htype lineFields "lines.qty").1.2 hstacks
  rw [hvalue] at hitems
  cases hitems

/-- The fields of an order of one line with two quantities. -/
def pairFields : Members :=
  [("lines", .list [.single "qty" (.list [.int 1, .int 2])])]

/-- Two values below a list of objects come out together, in a cell that is to hold a number. -/
theorem not_lookupPath_single_pairFields :
    lookupPath pairFields "lines.qty" .numeric = .list [.int 1, .int 2]
      ∧ normalize [{ key := "lines.qty", type := .numeric, role := .value }] (.document pairFields)
        = [.list [.int 1, .int 2]] := by
  constructor <;> decide +kernel

end

end Document

end Pushdown
