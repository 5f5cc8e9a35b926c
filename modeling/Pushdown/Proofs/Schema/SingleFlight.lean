import Pushdown.Proofs.Schema.Ledger
import Pushdown.Proofs.Schema.Turns

/-!
# One fetch for all who ask

When calls for an identity that want any fresh snapshot run at the same time, one of them fetches
and all are given what it stored. The run of such calls is in one of three phases (`Phase`): no
fetch was begun, one is under way, or it has brought the snapshot that is kept from then on. In each
phase only some stages are possible for the calls (`Phase.Admits`), and what a call sees when it
looks tells it the phase (`Traffic.Flight`).

`SharedCache.single_flight` says this with what holds of any calls: no two of them fetch for one
identity, a caller who wants a newer snapshot takes one that has come in the meantime, and all calls
can be run to their end. A call that has the cache to itself does what `SchemaCache.serve` says
(`Traffic.serve_alone`).
-/

namespace Pushdown

/-! ## What a call does to the entry of an identity -/

namespace SchemaCache

variable {c : SchemaCache} {errand : Errand} {identity : Identity}

/-- A look leaves the entries of other identities alone. -/
theorem find?_consult_of_ne (hne : identity ≠ errand.identity) (now : Nat) :
    (c.consult errand now).2.entries.find? identity = c.entries.find? identity := by
  rw [consult]
  cases errand.aim with
  | newerThan => rfl
  | fresh =>
    obtain ⟨-, hget⟩ | ⟨entry, -, -, hget⟩ | ⟨entry, -, -, hget⟩ := get_cases c errand.identity now
    · simp only [hget]
      rfl
    · simp only [hget]
      exact Recent.find?_erase_of_ne hne
    · simp only [hget]
      exact Recent.find?_touch ..

/-- A look for any fresh snapshot finds the entry, as long as that has not expired. -/
theorem consult_fresh (now : Nat) (haim : errand.aim = .fresh)
    (hlasting : ∀ entry ∈ c.entries.find? errand.identity, entry.isExpired now = false) :
    (c.consult errand now).1 = (c.entries.find? errand.identity).map (·.snapshot)
      ∧ (c.consult errand now).2.entries.find? errand.identity
        = c.entries.find? errand.identity := by
  rw [consult, haim]
  obtain ⟨hfind, hget⟩ | ⟨entry, hfind, hexpired, hget⟩ | ⟨entry, hfind, -, hget⟩ :=
    get_cases c errand.identity now
  · simp only [hget, hfind]
    exact ⟨rfl, hfind⟩
  · rw [hlasting entry hfind] at hexpired
    cases hexpired
  · simp only [hget, hfind]
    exact ⟨rfl, (Recent.find?_touch ..).trans hfind⟩

/-- The second look leaves all entries alone. -/
theorem find?_recheck (c : SchemaCache) (errand : Errand) (now : Nat) (identity : Identity) :
    (c.recheck errand now).2.entries.find? identity = c.entries.find? identity := by
  rw [entries_recheck, Recent.find?_touch]

/-- So does the second look. -/
theorem recheck_fresh (now : Nat) (haim : errand.aim = .fresh)
    (hlasting : ∀ entry ∈ c.entries.find? errand.identity, entry.isExpired now = false) :
    (c.recheck errand now).1 = (c.entries.find? errand.identity).map (·.snapshot) := by
  have hfound : (c.peekFresh errand.identity now).1.filter errand.aim.accepts
      = (c.entries.find? errand.identity).map (·.snapshot) := by
    cases hfind : c.entries.find? errand.identity with
    | none => simp [peekFresh, hfind]
    | some entry => simp [peekFresh, hfind, hlasting entry hfind, haim, Aim.accepts]
  simp only [recheck, hfound]
  cases c.entries.find? errand.identity <;> rfl

/-- A caller who wants a newer snapshot is given one that has come in the meantime. -/
theorem recheck_newer {stale : Snapshot} {entry : Entry} {now : Nat}
    (haim : errand.aim = .newerThan (some stale))
    (hfind : c.entries.find? errand.identity = some entry) (hfresh : entry.isExpired now = false)
    (hnewer : stale.serial ≠ entry.snapshot.serial) :
    (c.recheck errand now).1 = some entry.snapshot
      ∧ (c.recheck errand now).2.stats = c.stats := by
  have hfound : (c.peekFresh errand.identity now).1.filter errand.aim.accepts
      = some entry.snapshot := by
    simp [peekFresh, hfind, hfresh, haim, Aim.accepts, hnewer]
  refine ⟨?_, ?_⟩
  · simp only [recheck, hfound]
  · simp only [recheck, hfound]
    rfl

/-- The end of a fetch stores under its own identity, and may cost another one its entry. -/
theorem find?_settle_of_ne (hne : identity ≠ errand.identity) (fetched : Except Failure Schema)
    (now : Nat) :
    (c.settle errand fetched now).2.entries.find? identity = c.entries.find? identity
      ∨ (c.settle errand fetched now).2.entries.find? identity = none := by
  cases fetched with
  | error cause => exact .inl rfl
  | ok schema => exact Recent.find?_put_or_none hne ..

end SchemaCache

namespace SharedCache

open SchemaCache (Errand Aim)

/-! ## Runs without disturbance -/

/-- Whether a fetch has ended. -/
def Event.isEnded : Event → Bool
  | .began => false
  | .ended _ => true

/-- The errand of a call that begins. -/
def Act.errand? : Act → Option Errand
  | .start errand => some errand
  | .move .. => none

/-- The time at which a call looks at the cache. -/
def Act.looksAt? : Act → Option Nat
  | .move _ (.look now) | .move _ (.resume now) => some now
  | _ => none

namespace Traffic

/-- The fetches for an identity. -/
def fetches (t : Traffic) (identity : Identity) : List Event :=
  t.events.filterMap fun event => if event.1 = identity then some event.2 else none

/-- The call that is dropped. -/
def dropped? (t : Traffic) : Act → Option Call
  | .move i .drop => t.calls[i]?
  | _ => none

/-- The call whose fetch fails. -/
def failing? (t : Traffic) : Act → Option Call
  | .move i (.finish (.error _) _) => t.calls[i]?
  | _ => none

/-- The entry of an identity. -/
def entryOf? (t : Traffic) (identity : Identity) : Option SchemaCache.Entry :=
  t.shared.cache.entries.find? identity

/-- Nothing gets in the way of the calls for an identity: those that begin want any fresh snapshot,
none of them is dropped, the entry lasts, and the first fetch does not fail. -/
structure Regular (identity : Identity) (t : Traffic) (a : Act) : Prop where
  fresh : ∀ errand ∈ a.errand?, errand.identity = identity → errand.aim = .fresh
  kept : ∀ call ∈ t.dropped? a, call.errand.identity = identity → call.stage.isOver = true
  lasting : ∀ entry ∈ t.entryOf? identity, ∀ now ∈ a.looksAt?, entry.isExpired now = false
  staying : (t.entryOf? identity).isSome → ((t.act a).entryOf? identity).isSome
  first : ∀ call ∈ t.failing? a, call.errand.identity = identity →
    (t.fetches identity).any Event.isEnded = true

instance (identity : Identity) (t : Traffic) (a : Act) : Decidable (Regular identity t a) :=
  decidable_of_iff
    ((∀ errand ∈ a.errand?, errand.identity = identity → errand.aim = .fresh)
      ∧ (∀ call ∈ t.dropped? a, call.errand.identity = identity → call.stage.isOver = true)
      ∧ (∀ entry ∈ t.entryOf? identity, ∀ now ∈ a.looksAt?, entry.isExpired now = false)
      ∧ ((t.entryOf? identity).isSome → ((t.act a).entryOf? identity).isSome)
      ∧ ∀ call ∈ t.failing? a, call.errand.identity = identity →
        (t.fetches identity).any Event.isEnded = true)
    ⟨fun ⟨h₁, h₂, h₃, h₄, h₅⟩ => ⟨h₁, h₂, h₃, h₄, h₅⟩,
      fun ⟨h₁, h₂, h₃, h₄, h₅⟩ => ⟨h₁, h₂, h₃, h₄, h₅⟩⟩

/-- Nothing gets in the way as long as some acts go on. -/
def Undisturbed (identity : Identity) : Traffic → List Act → Prop
  | _, [] => True
  | t, a :: acts => t.Regular identity a ∧ Undisturbed identity (t.act a) acts

instance decidableUndisturbed (identity : Identity) :
    (t : Traffic) → (acts : List Act) → Decidable (Undisturbed identity t acts)
  | _, [] => .isTrue trivial
  | t, a :: acts =>
    have := decidableUndisturbed identity (t.act a) acts
    inferInstanceAs (Decidable (Regular identity t a ∧ Undisturbed identity (t.act a) acts))

end Traffic

/-! ## Phases -/

/-- How far the calls for an identity have got. -/
inductive Phase where
  | ahead
  | under
  /-- The fetch has brought a snapshot. -/
  | landed (snapshot : Snapshot)

namespace Phase

/-- What was heard of fetches. -/
def events : Phase → List Event
  | .ahead => []
  | .under => [.began]
  | .landed snapshot => [.began, .ended (.ok snapshot)]

/-- The snapshot that is kept. -/
def kept? : Phase → Option Snapshot
  | .ahead | .under => none
  | .landed snapshot => some snapshot

/-- Where a call can have got to. -/
def Admits (phase : Phase) : Stage → Prop
  | .beginning | .missed | .waiting => True
  | .fetching => phase = .under
  | .ended outcome => ∃ snapshot, phase = .landed snapshot ∧ outcome = .ok snapshot
  | .dropped => False

/-- A call that does not fetch has got nowhere before a snapshot is kept, and so can be there in any
phase. -/
theorem admits_of_kept?_eq_none {phase : Phase} {stage : Stage} (h : phase.Admits stage)
    (hnone : phase.kept? = none) (hgrounded : stage ≠ .fetching) (phase' : Phase) :
    phase'.Admits stage := by
  cases stage with
  | beginning | missed | waiting => trivial
  | fetching => exact absurd rfl hgrounded
  | ended outcome =>
    obtain ⟨snapshot, rfl, -⟩ := h
    cases hnone
  | dropped => exact h.elim

/-- A call that looks ends if there is a snapshot to be found. -/
theorem admits_ofLook (phase : Phase) : phase.Admits (.ofLook phase.kept?) := by
  cases phase with
  | landed snapshot => exact ⟨snapshot, rfl, rfl⟩
  | _ => trivial

end Phase

namespace Traffic

variable {t : Traffic} {identity : Identity} {old : Nat} {phase : Phase}

/-- The calls for an identity are in a phase: those from before are over, and the others have got to
where one can get in it. -/
structure Flight (identity : Identity) (old : Nat) (phase : Phase) (t : Traffic) : Prop where
  fetches : t.fetches identity = phase.events
  kept : (t.entryOf? identity).map (·.snapshot) = phase.kept?
  began : old ≤ t.calls.length
  before : ∀ i call, i < old → t.calls[i]? = some call → call.errand.identity = identity →
    call.stage.isOver = true
  after : ∀ i call, old ≤ i → t.calls[i]? = some call → call.errand.identity = identity →
    call.errand.aim = .fresh ∧ phase.Admits call.stage
  under : phase = .under → ∃ (i : Nat) (call : Call), t.calls[i]? = some call
    ∧ call.errand.identity = identity ∧ call.stage = .fetching

/-- A call for the identity that is not over is one of the new ones. -/
theorem Flight.of_busy (h : t.Flight identity old phase) {i : Nat} {call : Call}
    (hcall : t.calls[i]? = some call) (hidentity : call.errand.identity = identity)
    (hbusy : call.stage.isOver = false) :
    old ≤ i ∧ call.errand.aim = .fresh ∧ phase.Admits call.stage := by
  have hnew : old ≤ i := by
    by_contra hlt
    rw [h.before i call (Nat.not_le.1 hlt) hcall hidentity] at hbusy
    cases hbusy
  exact ⟨hnew, h.after i call hnew hcall hidentity⟩

section

variable {t' : Traffic} {i : Nat} {call : Call} {stage : Stage}

/-- What calls for other identities do leaves the phase as it is. -/
theorem Flight.aside (h : t.Flight identity old phase) (hcall : t.calls[i]? = some call)
    (hcalls : t'.calls = (t.put i call stage).calls) (hne : call.errand.identity ≠ identity)
    (hfetches : t'.fetches identity = t.fetches identity)
    (hentry : t'.entryOf? identity = t.entryOf? identity) : t'.Flight identity old phase := by
  have hother {j : Nat} {other : Call} (hother : t'.calls[j]? = some other)
      (hidentity : other.errand.identity = identity) : t.calls[j]? = some other := by
    obtain ⟨-, rfl⟩ | ⟨-, hother⟩ := getElem?_put_cases hcall hcalls hother
    · exact absurd hidentity hne
    · exact hother
  refine ⟨hfetches.trans h.fetches, hentry ▸ h.kept, ?_, fun j other hlt hj hidentity => ?_,
    fun j other hle hj hidentity => ?_, fun hphase => ?_⟩
  · rw [hcalls, Traffic.put, List.length_set]
    exact h.began
  · exact h.before j other hlt (hother hj hidentity) hidentity
  · exact h.after j other hle (hother hj hidentity) hidentity
  · obtain ⟨j, other, hj, hidentity, hstage⟩ := h.under hphase
    have hji : j ≠ i := by
      rintro rfl
      cases hcall.symm.trans hj
      exact hne hidentity
    exact ⟨j, other, (getElem?_put_of_ne hcalls hji).trans hj, hidentity, hstage⟩

/-- A call for the identity moves on, in one phase or from one to the next. -/
theorem Flight.put (h : t.Flight identity old phase) {phase' : Phase}
    (hcall : t.calls[i]? = some call) (hidentity : call.errand.identity = identity)
    (hbusy : call.stage.isOver = false) (hcalls : t'.calls = (t.put i call stage).calls)
    (hfetches : t'.fetches identity = phase'.events)
    (hkept : (t'.entryOf? identity).map (·.snapshot) = phase'.kept?) (hadmits : phase'.Admits stage)
    (hothers : ∀ j other, j ≠ i → old ≤ j → t.calls[j]? = some other →
      other.errand.identity = identity → phase'.Admits other.stage)
    (hunder : phase' = .under → ∃ (j : Nat) (other : Call), t'.calls[j]? = some other
      ∧ other.errand.identity = identity ∧ other.stage = .fetching) :
    t'.Flight identity old phase' := by
  obtain ⟨hnew, haim, -⟩ := h.of_busy hcall hidentity hbusy
  refine ⟨hfetches, hkept, ?_, fun j other hlt hj hother => ?_, fun j other hle hj hother => ?_,
    hunder⟩
  · rw [hcalls, Traffic.put, List.length_set]
    exact h.began
  · obtain ⟨rfl, -⟩ | ⟨-, hj⟩ := getElem?_put_cases hcall hcalls hj
    · exact absurd hnew (Nat.not_le.2 hlt)
    · exact h.before j other hlt hj hother
  · obtain ⟨-, rfl⟩ | ⟨hji, hj⟩ := getElem?_put_cases hcall hcalls hj
    · exact ⟨haim, hadmits⟩
    · exact ⟨(h.after j other hle hj hother).1, hothers j other hji hle hj hother⟩

/-- It moves on without fetching. -/
theorem Flight.put_same (h : t.Flight identity old phase)
    (hcall : t.calls[i]? = some call) (hidentity : call.errand.identity = identity)
    (hbusy : call.stage.isOver = false) (hgrounded : call.stage ≠ .fetching)
    (hcalls : t'.calls = (t.put i call stage).calls)
    (hfetches : t'.fetches identity = t.fetches identity)
    (hentry : t'.entryOf? identity = t.entryOf? identity) (hadmits : phase.Admits stage) :
    t'.Flight identity old phase := by
  refine h.put hcall hidentity hbusy hcalls (hfetches.trans h.fetches) (hentry ▸ h.kept) hadmits
    (fun j other _ hle hj hother => (h.after j other hle hj hother).2) fun hphase => ?_
  obtain ⟨j, other, hj, hother, hstage⟩ := h.under hphase
  have hji : j ≠ i := by
    rintro rfl
    cases hcall.symm.trans hj
    exact hgrounded hstage
  exact ⟨j, other, (getElem?_put_of_ne hcalls hji).trans hj, hother, hstage⟩

end

theorem fetches_concat {t' : Traffic} {own : Identity} {event : Event}
    (hevents : t'.events = t.events ++ [(own, event)]) (identity : Identity) :
    t'.fetches identity = t.fetches identity ++ if own = identity then [event] else [] := by
  rw [fetches, hevents, List.filterMap_append, fetches]
  by_cases h : own = identity <;> simp [h]

section

variable {t' : Traffic} {i : Nat} {call : Call} {a : Act}

/-- What a call for the identity finds when it looks, first or again, is what is kept. -/
theorem Flight.found_eq (h : t.Flight identity old phase) (hregular : t.Regular identity a)
    {now : Nat} (hlooks : now ∈ a.looksAt?) (hcall : t.calls[i]? = some call)
    (hidentity : call.errand.identity = identity) (hbusy : call.stage.isOver = false) :
    ((t.shared.look call.errand now).1 = phase.kept?
        ∧ (t.shared.look call.errand now).2.cache.entries.find? identity = t.entryOf? identity)
      ∧ (t.shared.cache.recheck call.errand now).1 = phase.kept? := by
  obtain ⟨-, haim, -⟩ := h.of_busy hcall hidentity hbusy
  have hlasting := fun entry hentry => hregular.lasting entry hentry now hlooks
  subst hidentity
  obtain ⟨hfound, hentry⟩ := SchemaCache.consult_fresh now haim hlasting
  exact ⟨⟨hfound.trans h.kept, hentry⟩, (SchemaCache.recheck_fresh now haim hlasting).trans h.kept⟩

/-- The first fetch begins. -/
theorem Flight.begin (h : t.Flight identity old .ahead) (hcall : t.calls[i]? = some call)
    (hidentity : call.errand.identity = identity) (hbusy : call.stage.isOver = false)
    (hcalls : t'.calls = (t.put i call .fetching).calls)
    (hevents : t'.events = t.events ++ [(call.errand.identity, .began)])
    (hentry : t'.entryOf? identity = t.entryOf? identity) : t'.Flight identity old .under := by
  refine h.put hcall hidentity hbusy hcalls ?_ (hentry ▸ h.kept) rfl ?_ fun _ =>
    ⟨i, _, getElem?_put_self hcall hcalls, hidentity, rfl⟩
  · rw [fetches_concat hevents, h.fetches, if_pos hidentity]
    rfl
  · intro j other _ hle hj hother
    have hadmits := (h.after j other hle hj hother).2
    refine Phase.admits_of_kept?_eq_none hadmits rfl (fun hfetching => ?_) .under
    rw [hfetching] at hadmits
    cases hadmits

/-- No other call for the identity can have come to fetch while one fetches. -/
theorem Flight.not_mayGo (h : t.Flight identity old .under) (horderly : t.Orderly)
    (hcall : t.calls[i]? = some call) (hidentity : call.errand.identity = identity)
    (hstage : call.stage = .waiting) : t.shared.locks.mayGo i = false := by
  refine Bool.eq_false_iff.2 fun hgo => ?_
  obtain ⟨j, other, hother, hsame, hfetching⟩ := h.under rfl
  have hji := horderly.eq_of_fetching hother hfetching hcall hgo (by rw [hstage]; rfl)
    (hsame.trans hidentity.symm)
  subst hji
  cases hcall.symm.trans hother
  rw [hstage] at hfetching
  cases hfetching

/-- The first fetch ends, and what it brought is kept. -/
theorem Flight.land (h : t.Flight identity old .under) (horderly : t.Orderly) {snapshot : Snapshot}
    (hcall : t.calls[i]? = some call) (hidentity : call.errand.identity = identity)
    (hstage : call.stage = .fetching)
    (hcalls : t'.calls = (t.put i call (.ended (.ok snapshot))).calls)
    (hevents : t'.events = t.events ++ [(call.errand.identity, .ended (.ok snapshot))])
    (hkept : (t'.entryOf? identity).map (·.snapshot) = some snapshot) :
    t'.Flight identity old (.landed snapshot) := by
  refine h.put hcall hidentity (by rw [hstage]; rfl) hcalls ?_ hkept ⟨_, rfl, rfl⟩ ?_ nofun
  · rw [fetches_concat hevents, h.fetches, if_pos hidentity]
    rfl
  · intro j other hji hle hj hother
    refine Phase.admits_of_kept?_eq_none (h.after j other hle hj hother).2 rfl
      (fun hfetching => hji ?_) _
    exact horderly.eq_of_fetching hj hfetching hcall (horderly.first i call hcall hstage)
      (by rw [hstage]; rfl) (hother.trans hidentity.symm)

/-- A call begins. -/
theorem Flight.start (h : t.Flight identity old phase) {errand : Errand}
    (hfresh : errand.identity = identity → errand.aim = .fresh) :
    Flight identity old phase { t with calls := t.calls ++ [⟨errand, .beginning⟩] } := by
  refine ⟨h.fetches, h.kept, ?_, fun i call hlt hcall => ?_, fun i call hle hcall => ?_,
    fun hphase => ?_⟩
  · rw [List.length_append]
    exact Nat.le_add_right_of_le h.began
  · exact h.before i call hlt
      (List.getElem?_append_left (Nat.lt_of_lt_of_le hlt h.began) ▸ hcall)
  · rw [List.getElem?_append] at hcall
    split at hcall
    · exact h.after i call hle hcall
    · cases List.mem_singleton.1 (List.mem_of_getElem? hcall)
      exact fun hidentity => ⟨hfresh hidentity, trivial⟩
  · obtain ⟨i, call, hcall, hfetching⟩ := h.under hphase
    have hlt := (List.getElem?_eq_some_iff.1 hcall).1
    exact ⟨i, call, (List.getElem?_append_left hlt).trans hcall, hfetching⟩

end

/-- Whatever phase the calls for an identity are in, they are in one after the next act, as long as
nothing gets in their way. -/
theorem Flight.act (h : t.Flight identity old phase) (horderly : t.Orderly) {a : Act}
    (hregular : t.Regular identity a) : ∃ phase', (t.act a).Flight identity old phase' := by
  have hstep := step_act t a
  have hstaying := hregular.staying
  generalize t.act a = t' at hstep hstaying ⊢
  have hrecheck {call : Call} {now : Nat} {found : Option Snapshot} {cache : SchemaCache}
      (hfound : t.shared.cache.recheck call.errand now = (found, cache)) :
      cache.entries.find? identity = t.entryOf? identity := by
    rw [entryOf?, ← SchemaCache.find?_recheck t.shared.cache call.errand now identity, hfound]
  cases hstep with
  | idle => exact ⟨phase, h⟩
  | started errand => exact ⟨phase, h.start (hregular.fresh errand rfl)⟩
  | @looked i call hcall hstage now =>
    refine ⟨phase, ?_⟩
    by_cases hidentity : call.errand.identity = identity
    · have hbusy : call.stage.isOver = false := by rw [hstage]; rfl
      obtain ⟨⟨hfound, hentry⟩, -⟩ := h.found_eq hregular rfl hcall hidentity hbusy
      refine h.put_same hcall hidentity hbusy (by rw [hstage]; exact nofun) rfl rfl hentry ?_
      rw [hfound]
      exact phase.admits_ofLook
    · exact h.aside hcall rfl hidentity rfl
        (SchemaCache.find?_consult_of_ne (Ne.symm hidentity) now)
  | @joined i call hcall hstage =>
    refine ⟨phase, ?_⟩
    by_cases hidentity : call.errand.identity = identity
    · exact h.put_same hcall hidentity (by rw [hstage]; rfl) (by rw [hstage]; exact nofun) rfl rfl
        rfl trivial
    · exact h.aside hcall rfl hidentity rfl rfl
  | @served i call snapshot cache hcall hstage hgo now hfound =>
    refine ⟨phase, ?_⟩
    by_cases hidentity : call.errand.identity = identity
    · have hbusy : call.stage.isOver = false := by rw [hstage]; rfl
      obtain ⟨-, hkept⟩ := h.found_eq hregular rfl hcall hidentity hbusy
      rw [hfound] at hkept
      refine h.put_same hcall hidentity hbusy (by rw [hstage]; exact nofun) rfl rfl
        (hrecheck hfound) ?_
      cases phase with
      | landed kept =>
        cases hkept
        exact ⟨snapshot, rfl, rfl⟩
      | _ => cases hkept
    · exact h.aside hcall rfl hidentity rfl (hrecheck hfound)
  | @began i call cache hcall hstage hgo now hmissed =>
    by_cases hidentity : call.errand.identity = identity
    · have hbusy : call.stage.isOver = false := by rw [hstage]; rfl
      obtain ⟨-, hkept⟩ := h.found_eq hregular rfl hcall hidentity hbusy
      rw [hmissed] at hkept
      cases phase with
      | ahead => exact ⟨.under, h.begin hcall hidentity hbusy rfl rfl (hrecheck hmissed)⟩
      | under =>
        rw [h.not_mayGo horderly hcall hidentity hstage] at hgo
        cases hgo
      | landed kept => cases hkept
    · refine ⟨phase, h.aside hcall rfl hidentity ?_ (hrecheck hmissed)⟩
      rw [fetches_concat rfl, if_neg hidentity, List.append_nil]
  | @finished i call hcall hstage fetched now =>
    by_cases hidentity : call.errand.identity = identity
    · obtain ⟨-, -, hadmits⟩ := h.of_busy hcall hidentity (by rw [hstage]; rfl)
      rw [hstage] at hadmits
      obtain rfl : phase = .under := hadmits
      cases fetched with
      | error cause =>
        have hended := hregular.first call hcall hidentity
        rw [h.fetches] at hended
        cases hended
      | ok schema =>
        refine ⟨_, h.land horderly hcall hidentity hstage rfl rfl ?_⟩
        subst hidentity
        exact congrArg (Option.map _) (Recent.find?_put_self ..)
    · refine ⟨phase, h.aside hcall rfl hidentity ?_ ?_⟩
      · rw [fetches_concat rfl, if_neg hidentity, List.append_nil]
      · obtain hsame | hnone := SchemaCache.find?_settle_of_ne (c := t.shared.cache)
          (Ne.symm hidentity) fetched now
        · exact hsame
        · cases hentry : t.entryOf? identity with
          | none => exact hnone
          | some entry =>
            have hsome := hstaying (by rw [hentry]; rfl)
            exact absurd (hnone ▸ hsome : (none : Option SchemaCache.Entry).isSome = true) nofun
  | @dropped i call hcall hbusy =>
    by_cases hidentity : call.errand.identity = identity
    · rw [hregular.kept call hcall hidentity] at hbusy
      cases hbusy
    · exact ⟨phase, h.aside hcall rfl hidentity rfl rfl⟩

/-- They are in some phase at every point of a run in which nothing gets in their way. -/
theorem Flight.foldl (h : t.Flight identity old phase) (horderly : t.Orderly) {acts : List Act}
    (hundisturbed : Undisturbed identity t acts) :
    ∃ phase', (acts.foldl Traffic.act t).Flight identity old phase' := by
  induction acts generalizing t phase with
  | nil => exact ⟨phase, h⟩
  | cons a acts ih =>
    obtain ⟨hregular, hundisturbed⟩ := hundisturbed
    obtain ⟨phase', h⟩ := h.act horderly hregular
    exact ih h (horderly.act a) hundisturbed

/-- Before the first of them nothing is kept for the identity. -/
theorem flight_ahead (hnone : t.entryOf? identity = none)
    (hover : ∀ call ∈ t.calls, call.errand.identity = identity → call.stage.isOver = true) :
    Flight identity t.calls.length .ahead { t with events := [] } where
  fetches := rfl
  kept := congrArg (Option.map _) hnone
  began := Nat.le_refl _
  before _ call _ hcall := hover call (List.mem_of_getElem? hcall)
  after i call hle hcall := by
    have hout : t.calls[i]? = none := List.getElem?_eq_none hle
    cases hout.symm.trans hcall
  under := nofun

/-! ## No call is stuck -/

end Traffic

/-- How much a call still has to do. -/
def Stage.rank : Stage → Nat
  | .beginning => 4
  | .missed => 3
  | .waiting => 2
  | .fetching => 1
  | .ended _ | .dropped => 0

/-- How calls move on when nobody drops them and fetches bring a schema. -/
def steadyMoves (schema : Schema) (now : Nat) : List Move :=
  [.look now, .join, .resume now, .finish (.ok schema) now]

namespace Traffic

variable {t : Traffic}

/-- How much all calls still have to do. -/
def rank (t : Traffic) : Nat := (t.calls.map (·.stage.rank)).sum

/-- There is less to do when a call has moved on. -/
theorem rank_lt {t' : Traffic} {i : Nat} {call : Call} {stage : Stage}
    (hcall : t.calls[i]? = some call) (hcalls : t'.calls = (t.put i call stage).calls)
    (hlt : stage.rank < call.stage.rank) : t'.rank < t.rank := by
  have hset : ((t.put i call stage).calls.map (·.stage.rank)).sum + call.stage.rank
      = (t.calls.map (·.stage.rank)).sum + stage.rank :=
    sum_map_set hcall ⟨call.errand, stage⟩ (·.stage.rank)
  rw [rank, rank, hcalls]
  omega

/-- A call whose turn has come moves on. -/
theorem rank_lt_of_mayGo (schema : Schema) (now : Nat) {i : Nat} {call : Call}
    (hcall : t.calls[i]? = some call) (hline : call.stage.isInLine = true)
    (hgo : t.shared.locks.mayGo i = true) :
    ∃ m ∈ steadyMoves schema now, (t.act (.move i m)).rank < t.rank := by
  cases hstage : call.stage with
  | waiting =>
    refine ⟨.resume now, by simp [steadyMoves], ?_⟩
    rw [act_resume hcall hstage]
    refine rank_lt hcall rfl ?_
    cases hrecheck : t.shared.cache.recheck call.errand now with
    | mk found cache =>
      cases found <;> simp [resume, hgo, hrecheck, Stage.ofProgress, hstage, Stage.rank]
  | fetching =>
    refine ⟨.finish (.ok schema) now, by simp [steadyMoves], ?_⟩
    rw [act_finish hcall hstage]
    exact rank_lt hcall rfl (by rw [hstage]; exact Nat.zero_lt_one)
  | beginning | missed | ended | dropped =>
    rw [hstage] at hline
    cases hline

/-- As long as some call is not over, some call can move on. -/
theorem Orderly.exists_rank_lt (h : t.Orderly) (schema : Schema) (now : Nat) {call : Call}
    (hmem : call ∈ t.calls) (hbusy : call.stage.isOver = false) :
    ∃ i, ∃ m ∈ steadyMoves schema now, (t.act (.move i m)).rank < t.rank := by
  obtain ⟨i, hcall⟩ := List.mem_iff_getElem?.1 hmem
  cases hstage : call.stage with
  | beginning =>
    refine ⟨i, .look now, by simp [steadyMoves], ?_⟩
    rw [act_look hcall hstage]
    refine rank_lt hcall rfl ?_
    cases (t.shared.look call.errand now).1 <;> simp [Stage.ofLook, hstage, Stage.rank]
  | missed =>
    refine ⟨i, .join, by simp [steadyMoves], ?_⟩
    rw [act_join hcall hstage]
    exact rank_lt hcall rfl (by rw [hstage]; exact Nat.lt_succ_self 2)
  | waiting =>
    -- the call itself may have to wait, but then the first in its line does not
    obtain ⟨lock, hheld, -⟩ := h.held i call hcall (by rw [hstage]; rfl)
    obtain ⟨j, hfirst⟩ := FetchLocks.exists_first? hheld
    have hheld' := FetchLocks.heldBy?_of_first? h.once hfirst
    obtain ⟨other, hother, hline⟩ := h.inLine j lock hheld'
    exact ⟨j, rank_lt_of_mayGo schema now hother hline
      (FetchLocks.mayGo_iff.2 ⟨lock, hheld', hfirst⟩)⟩
  | fetching =>
    exact ⟨i, rank_lt_of_mayGo schema now hcall (by rw [hstage]; rfl) (h.first i call hcall hstage)⟩
  | ended | dropped =>
    rw [hstage] at hbusy
    cases hbusy

/-- All calls can be run to their end. -/
theorem Orderly.exists_over (h : t.Orderly) (schema : Schema) (now : Nat) :
    ∃ later : List Act, (∀ a ∈ later, ∃ i, ∃ m ∈ steadyMoves schema now, a = .move i m)
      ∧ ∀ call ∈ (later.foldl Traffic.act t).calls, call.stage.isOver = true := by
  induction hrank : t.rank using Nat.strongRecOn generalizing t with
  | ind rank ih =>
    by_cases hover : ∀ call ∈ t.calls, call.stage.isOver = true
    · exact ⟨[], List.forall_mem_nil _, hover⟩
    · push Not at hover
      obtain ⟨call, hmem, hbusy⟩ := hover
      obtain ⟨i, m, hm, hlt⟩ := h.exists_rank_lt schema now hmem (Bool.eq_false_iff.2 hbusy)
      obtain ⟨later, hlater, hover⟩ := ih _ (hrank ▸ hlt) (h.act (.move i m)) rfl
      exact ⟨.move i m :: later, List.forall_mem_cons.2 ⟨⟨i, m, hm, rfl⟩, hlater⟩, hover⟩

/-! ## A call that has the cache to itself -/

/-- A call that is over does not move on. -/
theorem act_of_isOver {i : Nat} {call : Call} (hcall : t.calls[i]? = some call)
    (hover : call.stage.isOver = true) (m : Move) : t.act (.move i m) = t := by
  rw [act_move hcall]
  cases hstage : call.stage with
  | ended | dropped => cases m <;> simp [move, hstage, Stage.isOver]
  | _ =>
    rw [hstage] at hover
    cases hover

/-- Nobody holds on to a lock when all calls are over. -/
theorem Orderly.holders_eq_nil (h : t.Orderly)
    (hquiet : ∀ call ∈ t.calls, call.stage.isOver = true) :
    t.shared.locks.holders = [] := by
  refine List.eq_nil_iff_forall_not_mem.2 fun holder hmem => ?_
  cases hheld : t.shared.locks.heldBy? holder.1 with
  | none => exact absurd rfl (bne_iff_ne.1 (List.lookup_eq_none_iff.1 hheld holder hmem))
  | some lock =>
    obtain ⟨call, hcall, hline⟩ := h.inLine _ lock hheld
    exact Bool.noConfusion
      ((Stage.isOver_of_isInLine hline).symm.trans (hquiet call (List.mem_of_getElem? hcall)))

/-- A call goes through all it can come to. -/
def alone (n : Nat) (errand : Errand) (fetched : Except Failure Schema)
    (consulted rechecked settled : Nat) : List Act :=
  [.start errand, .move n (.look consulted), .move n .join, .move n (.resume rechecked),
    .move n (.finish fetched settled)]

/-- When nobody holds on to a lock, the turn of a call has come as soon as it takes one. -/
theorem mayGo_join (s : SharedCache) (hnobody : s.locks.holders = []) (n : Nat) (errand : Errand) :
    (s.join n errand).locks.mayGo n = true := by
  obtain ⟨lock, -, hholders⟩ := FetchLocks.lockOf?_take_self s.locks errand.identity n
  have hholders : (s.join n errand).locks.holders = [(n, lock)] := by
    rw [join, hholders, hnobody, List.nil_append]
  refine FetchLocks.mayGo_iff.2 ⟨lock, ?_, ?_⟩
  · rw [FetchLocks.heldBy?, hholders, List.lookup_cons_self]
  · simp [FetchLocks.first?, hholders]

/-- When all other calls are over, a call does what `SchemaCache.serve` says. -/
theorem serve_alone (horderly : t.Orderly) (hquiet : ∀ call ∈ t.calls, call.stage.isOver = true)
    (errand : Errand) (fetched : Except Failure Schema) (consulted rechecked settled : Nat) :
    let n := t.calls.length
    let t' := (alone n errand fetched consulted rechecked settled).foldl act t
    ∃ outcome hasFetched, t'.calls[n]? = some ⟨errand, .ended outcome⟩
      ∧ t.shared.cache.serve errand fetched consulted rechecked settled
        = (.served outcome hasFetched, t'.shared.cache) := by
  intro n t'
  simp only [t', alone, List.foldl_cons, List.foldl_nil]
  have hnobody := horderly.holders_eq_nil hquiet
  have hstart : (t.act (.start errand)).calls[n]? = some ⟨errand, .beginning⟩ :=
    List.getElem?_concat_length
  have hshared : (t.act (.start errand)).shared = t.shared := rfl
  generalize t.act (.start errand) = t₁ at hstart hshared ⊢
  rw [← hshared] at hnobody ⊢
  have hlook : (t₁.act (.move n (.look consulted))).calls[n]?
      = some ⟨errand, .ofLook (t₁.shared.look errand consulted).1⟩ := by
    rw [act_look hstart rfl]
    exact getElem?_put_self hstart rfl
  have hlooked : (t₁.act (.move n (.look consulted))).shared
      = (t₁.shared.look errand consulted).2 := by rw [act_look hstart rfl]
  generalize t₁.act (.move n (.look consulted)) = t₂ at hlook hlooked ⊢
  unfold SchemaCache.serve
  split
  · next snapshot cache hconsult =>
    simp only [look, hconsult, Prod.map_fst, Prod.map_snd, id] at hlook hlooked
    iterate 3 rw [act_of_isOver hlook rfl]
    exact ⟨_, false, hlook, by rw [hlooked]⟩
  · next cache hconsult =>
    simp only [look, hconsult, Prod.map_fst, Prod.map_snd, id] at hlook hlooked
    have hjoin : (t₂.act (.move n .join)).calls[n]? = some ⟨errand, .waiting⟩ := by
      rw [act_join hlook rfl]
      exact getElem?_put_self hlook rfl
    have hjoined : (t₂.act (.move n .join)).shared = t₂.shared.join n errand := by
      rw [act_join hlook rfl]
    have hgo : (t₂.act (.move n .join)).shared.locks.mayGo n = true := by
      rw [hjoined]
      exact mayGo_join _ (by rw [hlooked]; exact hnobody) n errand
    have hcache : (t₂.act (.move n .join)).shared.cache = cache := by
      rw [hjoined, join, hlooked]
    generalize t₂.act (.move n .join) = t₃ at hjoin hgo hcache ⊢
    have hresume : (t₃.act (.move n (.resume rechecked))).calls[n]?
        = some ⟨errand, .ofProgress (t₃.shared.resume n errand rechecked).1⟩ := by
      rw [act_resume hjoin rfl]
      exact getElem?_put_self hjoin rfl
    have hresumed : (t₃.act (.move n (.resume rechecked))).shared
        = (t₃.shared.resume n errand rechecked).2 := by rw [act_resume hjoin rfl]
    generalize t₃.act (.move n (.resume rechecked)) = t₄ at hresume hresumed ⊢
    unfold SchemaCache.pursue
    split
    · next snapshot cache' hrecheck =>
      simp only [resume, hgo, hcache, hrecheck, if_true] at hresume hresumed
      rw [act_of_isOver hresume rfl]
      exact ⟨_, false, hresume, by rw [hresumed]⟩
    · next cache' hrecheck =>
      simp only [resume, hgo, hcache, hrecheck, if_true] at hresume hresumed
      rw [act_finish hresume rfl]
      refine ⟨_, true, getElem?_put_self hresume rfl, ?_⟩
      simp only [finish, hresumed]
      rfl

end Traffic

/-- In any run of any calls on a shared cache, with calls dropped anywhere, no two calls fetch for
one identity at the same time. When nothing is kept for an identity and no call for it is under way,
the calls that begin from then on and want any fresh snapshot make for one fetch at most, and all of
them that are over were given what that fetch stored, if nothing gets in their way. A call that
wants a newer snapshot than the one it found wanting is given the one that it finds when its turn
has come, without a fetch. And all calls can be run to their end. -/
theorem single_flight (cache : SchemaCache) (acts : List Act) :
    let t := Traffic.ofActs cache acts
    (∀ (i j : Nat) (call call' : Call), t.calls[i]? = some call → call.stage = .fetching →
        t.calls[j]? = some call' → call'.stage = .fetching →
        call.errand.identity = call'.errand.identity → i = j)
      ∧ (∀ identity later, t.entryOf? identity = none →
          (∀ call ∈ t.calls, call.errand.identity = identity → call.stage.isOver = true) →
          Traffic.Undisturbed identity { t with events := [] } later →
          let t' := later.foldl Traffic.act { t with events := [] }
          (t'.fetches identity = [] ∨ t'.fetches identity = [.began]
            ∨ ∃ snapshot, t'.fetches identity = [.began, .ended (.ok snapshot)])
          ∧ ∀ (i : Nat) (call : Call), t.calls.length ≤ i → t'.calls[i]? = some call →
            call.errand.identity = identity → call.stage.isOver = true →
            ∃ snapshot, call.stage = .ended (.ok snapshot)
              ∧ t'.fetches identity = [.began, .ended (.ok snapshot)])
      ∧ (∀ (i : Nat) (call : Call) (stale : Snapshot) (entry : SchemaCache.Entry) (now : Nat),
          t.calls[i]? = some call → call.stage = .waiting → t.shared.locks.mayGo i = true →
          call.errand.aim = .newerThan (some stale) →
          t.entryOf? call.errand.identity = some entry → entry.isExpired now = false →
          stale.serial ≠ entry.snapshot.serial →
          let t' := t.act (.move i (.resume now))
          t'.calls[i]? = some ⟨call.errand, .ended (.ok entry.snapshot)⟩
            ∧ t'.events = t.events ∧ t'.shared.cache.stats = t.shared.cache.stats)
      ∧ ∀ schema now, ∃ later : List Act,
          (∀ a ∈ later, ∃ i, ∃ m ∈ steadyMoves schema now, a = .move i m)
            ∧ ∀ call ∈ (later.foldl Traffic.act t).calls, call.stage.isOver = true := by
  intro t
  have horderly : t.Orderly := Traffic.orderly_ofActs cache acts
  refine ⟨?_, ?_, ?_, fun schema now => horderly.exists_over schema now⟩
  · intro i j call call' hcall hstage hcall' hstage' hidentity
    exact horderly.eq_of_fetching hcall hstage hcall' (horderly.first j call' hcall' hstage')
      (by rw [hstage']; rfl) hidentity
  · intro identity later hnone hover hundisturbed t'
    have horderly' : Traffic.Orderly { t with events := [] } :=
      ⟨horderly.once, horderly.held, horderly.inLine, horderly.first⟩
    obtain ⟨phase, hflight⟩ :=
      (Traffic.flight_ahead hnone hover).foldl horderly' hundisturbed
    have hfetches : t'.fetches identity = phase.events := hflight.fetches
    refine ⟨?_, fun i call hle hcall hidentity hended => ?_⟩
    · rw [hfetches]
      cases phase with
      | ahead => exact .inl rfl
      | under => exact .inr (.inl rfl)
      | landed snapshot => exact .inr (.inr ⟨snapshot, rfl⟩)
    · have hadmits := (hflight.after i call hle hcall hidentity).2
      cases hstage : call.stage <;> rw [hstage] at hadmits hended
      case ended outcome =>
        obtain ⟨snapshot, rfl, rfl⟩ := hadmits
        exact ⟨snapshot, rfl, hfetches⟩
      case dropped => cases hadmits
      case beginning | missed | waiting | fetching => cases hended
  · intro i call stale entry now hcall hstage hgo haim hfind hfresh hnewer t'
    obtain ⟨hfound, hstats⟩ := SchemaCache.recheck_newer haim hfind hfresh hnewer
    cases hrecheck : t.shared.cache.recheck call.errand now with
    | mk found cache' =>
      rw [hrecheck] at hfound hstats
      obtain rfl : found = some entry.snapshot := hfound
      have hresume : t.shared.resume i call.errand now
          = (.found entry.snapshot, ⟨cache', t.shared.locks.leave call.errand.identity i⟩) := by
        simp only [resume, hgo, hrecheck, if_true]
      have hact : t' = { t.put i call (.ended (.ok entry.snapshot)) with
          shared := ⟨cache', t.shared.locks.leave call.errand.identity i⟩ } := by
        simp only [t', Traffic.act_move hcall, Traffic.move, hstage, hresume, Stage.ofProgress]
        rfl
      rw [hact]
      exact ⟨Traffic.getElem?_put_self hcall rfl, rfl, hstats⟩

section

/-- Two calls for an identity look before one of them fetches, and a third begins when the fetch is
under way. -/
def threeCalls : List Act :=
  let errand : Errand := ⟨⟨"a"⟩, 60, .fresh⟩
  [.start errand, .start errand, .move 0 (.look 0), .move 1 (.look 0), .move 1 .join, .move 0 .join,
    .move 0 (.resume 1), .move 1 (.resume 1), .start errand, .move 2 (.look 2), .move 2 .join,
    .move 1 (.finish (.ok ⟨[]⟩) 3), .move 0 (.resume 3), .move 2 (.resume 4)]

/-- All of them are given the snapshot of the one fetch. -/
theorem single_flight_threeCalls :
    let t : Traffic := ⟨ofCache (.ofCapacity 4 60), [], []⟩
    let t' := threeCalls.foldl Traffic.act t
    t.Undisturbed ⟨"a"⟩ threeCalls ∧ t'.calls.length = 3
      ∧ ∀ call ∈ t'.calls, ∃ snapshot, call.stage = .ended (.ok snapshot)
        ∧ t'.fetches ⟨"a"⟩ = [.began, .ended (.ok snapshot)] := by
  intro t t'
  have hundisturbed : t.Undisturbed ⟨"a"⟩ threeCalls := by decide
  have hover : ∀ call ∈ t'.calls, call.errand.identity = ⟨"a"⟩ ∧ call.stage.isOver = true := by
    decide
  refine ⟨hundisturbed, by decide, fun call hmem => ?_⟩
  obtain ⟨i, hcall⟩ := List.mem_iff_getElem?.1 hmem
  obtain ⟨hidentity, hended⟩ := hover call hmem
  exact ((single_flight (.ofCapacity 4 60) []).2.1 ⟨"a"⟩ threeCalls rfl (List.forall_mem_nil _)
    hundisturbed).2 i call (Nat.zero_le i) hcall hidentity hended

end

end SharedCache

end Pushdown
