import Mathlib.Data.Finset.Card
import Mathlib.Data.Finset.Dedup
import Mathlib.Data.List.Induction
import Pushdown.Proofs.Schema.Turns

/-!
# Which locks are there

The first call that takes the lock of an identity sets it up, and a call that leaves the line of
the identity in good order takes it down if nobody else stands there. A call that is dropped only
lets go. So at every point of a run an identity has a lock for one of two reasons: a call for it
stands in line, or the last one that left its line was dropped (`SharedCache.Traffic.Accounted`).
Each act keeps it so (`SharedCache.Traffic.Accounted.act`), and
`SharedCache.locked_iff_inLine_or_forsaken` is what a whole run gets from that. As long as no call
is dropped out of a line, there are no more locks than identities with a call under way, and none
when no call is.

A dropped call does leave its lock behind, and nothing but a later call for the same identity takes
it down (`SharedCache.not_unlocked_dropped`). There is no bound on what dropped calls leave:
`SharedCache.exists_quiet_locked`.
-/

namespace Pushdown

/-- A member of a list with some property is the one at a given place or stands at another one. -/
theorem exists_mem_iff_at_or_elsewhere {α : Type} {l : List α} {i : Nat} {a : α}
    (h : l[i]? = some a) (p : α → Prop) :
    (∃ b ∈ l, p b) ↔ p a ∨ ∃ j b, j ≠ i ∧ l[j]? = some b ∧ p b := by
  constructor
  · rintro ⟨b, hmem, hb⟩
    obtain ⟨j, hj⟩ := List.mem_iff_getElem?.1 hmem
    by_cases hji : j = i
    · subst hji
      cases h.symm.trans hj
      exact .inl hb
    · exact .inr ⟨j, b, hji, hj, hb⟩
  · rintro (ha | ⟨j, b, -, hj, hb⟩)
    · exact ⟨a, List.mem_of_getElem? h, ha⟩
    · exact ⟨b, List.mem_of_getElem? hj, hb⟩

/-! ## The identities that have a lock -/

namespace FetchLocks

variable {l : FetchLocks} {call lock : Nat} {identity identity' : Identity}

/-- The identities that have a lock. -/
def identities (l : FetchLocks) : List Identity := l.table.map Prod.fst

/-- No identity has two locks, no two identities have the same one, and its number is used up. -/
structure Sound (l : FetchLocks) : Prop where
  identities : l.identities.Nodup
  locks : (l.table.map Prod.snd).Nodup
  numbered : ∀ entry ∈ l.table, entry.2 < l.nextLock

theorem mem_identities_iff : identity ∈ l.identities ↔ ∃ lock, l.lockOf? identity = some lock := by
  rw [identities, lockOf?, ← Option.isSome_iff_exists, List.lookup_isSome_iff, List.mem_map]
  exact exists_congr fun entry => and_congr_right fun _ => by rw [beq_iff_eq, eq_comm]

theorem mem_of_lockOf? (h : l.lockOf? identity = some lock) : (identity, lock) ∈ l.table := by
  obtain ⟨before, after, htable, -⟩ := List.lookup_eq_some_iff.1 h
  rw [htable]
  exact List.mem_append_right _ List.mem_cons_self

/-- The lock tells the identity. -/
theorem Sound.eq_of_lockOf? (hl : l.Sound) (h : l.lockOf? identity = some lock)
    (h' : l.lockOf? identity' = some lock) : identity = identity' :=
  congrArg Prod.fst
    (List.inj_on_of_nodup_map hl.locks (mem_of_lockOf? h) (mem_of_lockOf? h') rfl)

/-! ### What becomes of the locks -/

@[simp] theorem identities_quit (l : FetchLocks) (call : Nat) :
    (l.quit call).identities = l.identities := rfl

theorem mem_identities_take (identity : Identity) (call : Nat) :
    identity' ∈ (l.take identity call).identities
      ↔ identity' = identity ∨ identity' ∈ l.identities := by
  unfold take
  split
  · next lock hlock =>
    have hmem : identity ∈ l.identities := mem_identities_iff.2 ⟨lock, hlock⟩
    exact (or_iff_right_of_imp fun heq => heq ▸ hmem).symm
  · rw [identities, identities, List.map_append, List.mem_append, List.map_singleton,
      List.mem_singleton, or_comm]

/-- A lock is taken down only if it is that of the given identity and nobody holds on to it. -/
theorem mem_identities_sweep (identity : Identity) :
    identity' ∈ (l.sweep identity).identities
      ↔ identity' ∈ l.identities
        ∧ (identity' = identity → ∃ lock first, l.lockOf? identity = some lock
            ∧ l.first? lock = some first) := by
  unfold sweep
  cases hlock : l.lockOf? identity with
  | none =>
    refine (and_iff_left_of_imp ?_).symm
    rintro hmem rfl
    obtain ⟨lock, hsome⟩ := mem_identities_iff.1 hmem
    cases hlock.symm.trans hsome
  | some lock =>
    dsimp only
    split
    · next hfirst =>
      obtain ⟨first, hfirst⟩ := Option.isSome_iff_exists.1 hfirst
      exact (and_iff_left_of_imp fun _ _ => ⟨lock, first, rfl, hfirst⟩).symm
    · next hnobody =>
      have hne : (∃ lock' first, some lock = some lock' ∧ l.first? lock' = some first) ↔ False := by
        refine iff_false_intro ?_
        rintro ⟨lock', first, hlock', hfirst⟩
        cases hlock'
        exact hnobody (by rw [hfirst]; rfl)
      rw [hne, identities, identities, List.mem_map, List.mem_map]
      constructor
      · rintro ⟨entry, hentry, rfl⟩
        obtain ⟨hentry, hother⟩ := List.mem_filter.1 hentry
        exact ⟨⟨entry, hentry, rfl⟩, by simpa using hother⟩
      · rintro ⟨⟨entry, hentry, rfl⟩, hother⟩
        exact ⟨entry, List.mem_filter.2 ⟨hentry, by simpa using hother⟩, rfl⟩

theorem sound_empty : empty.Sound := ⟨.nil, .nil, List.forall_mem_nil _⟩

theorem Sound.quit (hl : l.Sound) (call : Nat) : (l.quit call).Sound :=
  ⟨hl.identities, hl.locks, hl.numbered⟩

theorem Sound.take (hl : l.Sound) (identity : Identity) (call : Nat) :
    (l.take identity call).Sound := by
  unfold FetchLocks.take
  cases hlock : l.lockOf? identity with
  | some lock => exact ⟨hl.identities, hl.locks, hl.numbered⟩
  | none =>
    have hnew : identity ∉ l.identities := by
      rw [mem_identities_iff, hlock]
      rintro ⟨lock, ⟨⟩⟩
    have hnext : l.nextLock ∉ l.table.map Prod.snd := by
      intro hmem
      obtain ⟨entry, hentry, heq⟩ := List.mem_map.1 hmem
      exact Nat.lt_irrefl _ (heq ▸ hl.numbered entry hentry)
    refine ⟨?_, ?_, fun entry hentry => ?_⟩
    · rw [FetchLocks.identities, List.map_append, List.map_singleton]
      exact List.nodup_append_comm.1 (List.nodup_cons.2 ⟨hnew, hl.identities⟩)
    · rw [List.map_append, List.map_singleton]
      exact List.nodup_append_comm.1 (List.nodup_cons.2 ⟨hnext, hl.locks⟩)
    · rcases List.mem_append.1 hentry with hentry | hentry
      · exact Nat.lt_succ_of_lt (hl.numbered entry hentry)
      · rw [List.mem_singleton.1 hentry]
        exact Nat.lt_succ_self _

theorem Sound.sweep (hl : l.Sound) (identity : Identity) : (l.sweep identity).Sound := by
  unfold FetchLocks.sweep
  split
  · split
    · exact hl
    · exact ⟨hl.identities.sublist (List.filter_sublist.map _),
        hl.locks.sublist (List.filter_sublist.map _),
        fun entry hentry => hl.numbered entry (List.mem_filter.1 hentry).1⟩
  · exact hl

theorem Sound.leave (hl : l.Sound) (identity : Identity) (call : Nat) :
    (l.leave identity call).Sound :=
  (hl.quit call).sweep identity

end FetchLocks

namespace SharedCache

open SchemaCache (Errand)

/-! ## Leaving a line -/

/-- Whether a call was dropped. -/
def Stage.isDropped : Stage → Bool
  | .dropped => true
  | _ => false

/-- A call has left the line of its identity. -/
structure Departure where
  identity : Identity
  /-- Whether the call was dropped, and did not end. -/
  dropped : Bool
  deriving DecidableEq, Repr, Inhabited

/-- Whether the last call that left the line of an identity was dropped. -/
def isForsaken (departures : List Departure) (identity : Identity) : Bool :=
  (departures.filter fun d => d.identity = identity).getLast?.any (·.dropped)

theorem isForsaken_concat (departures : List Departure) (d : Departure) (identity : Identity) :
    isForsaken (departures ++ [d]) identity
      = if d.identity = identity then d.dropped else isForsaken departures identity := by
  rw [isForsaken, List.filter_append]
  split
  · next heq => simp [heq]
  · next hne => simp [hne, isForsaken]

/-- An identity is not forsaken if no call was dropped out of a line. -/
theorem isForsaken_eq_false {departures : List Departure}
    (h : ∀ d ∈ departures, d.dropped = false) (identity : Identity) :
    isForsaken departures identity = false := by
  rw [isForsaken]
  cases hlast : (departures.filter fun d => d.identity = identity).getLast? with
  | none => rfl
  | some d => exact h d (List.mem_filter.1 (List.mem_of_getLast? hlast)).1

namespace Traffic

variable {t t' : Traffic} {i : Nat} {call : Call} {stage : Stage} {identity : Identity}
  {gone : List Departure}

/-- A call for an identity stands in its line: it waits for its turn, or it fetches. -/
def HasLine (t : Traffic) (identity : Identity) : Prop :=
  ∃ call ∈ t.calls, call.errand.identity = identity ∧ call.stage.isInLine = true

/-- The identities for which some call is under way. -/
def underway (t : Traffic) : Finset Identity :=
  ((t.calls.filter fun call => !call.stage.isOver).map (·.errand.identity)).toFinset

/-- The departure that an act makes, from one traffic to the next. -/
def departure? (t t' : Traffic) : Act → Option Departure
  | .start _ => none
  | .move i _ =>
    match t.calls[i]?, t'.calls[i]? with
    | some before, some after =>
      if before.stage.isInLine && !after.stage.isInLine then
        some ⟨before.errand.identity, after.stage.isDropped⟩
      else none
    | _, _ => none

/-- The departures that some acts make, in their order. -/
def departures : Traffic → List Act → List Departure
  | _, [] => []
  | t, a :: acts => (t.departure? (t.act a) a).toList ++ departures (t.act a) acts

theorem departure?_self (t : Traffic) (a : Act) : t.departure? t a = none := by
  cases a with
  | start => rfl
  | move i m => cases hcall : t.calls[i]? <;> simp [departure?, hcall]

/-- A call that moves to another stage leaves the line if it stood there and does not any more. -/
theorem departure?_put (hcall : t.calls[i]? = some call)
    (hcalls : t'.calls = (t.put i call stage).calls) (m : Move) :
    t.departure? t' (.move i m)
      = if call.stage.isInLine && !stage.isInLine then
          some ⟨call.errand.identity, stage.isDropped⟩
        else none := by
  simp only [departure?, hcall, getElem?_put_self hcall hcalls]

/-- Who stands in a line when a call moves to another stage: that call, if it is one of them, and
those who stood there before. -/
theorem hasLine_put (hcall : t.calls[i]? = some call)
    (hcalls : t'.calls = (t.put i call stage).calls) :
    t'.HasLine identity ↔ (call.errand.identity = identity ∧ stage.isInLine = true)
      ∨ ∃ j other, j ≠ i ∧ t.calls[j]? = some other
        ∧ other.errand.identity = identity ∧ other.stage.isInLine = true := by
  rw [HasLine, exists_mem_iff_at_or_elsewhere (getElem?_put_self hcall hcalls)]
  refine or_congr_right (exists_congr fun j => exists_congr fun other =>
    and_congr_right fun hj => ?_)
  rw [getElem?_put_of_ne hcalls hj]

/-- A line of another identity than that of the call stays as it is, and so does every line if the
call stands in line as before. -/
theorem hasLine_put_same (hcall : t.calls[i]? = some call)
    (hcalls : t'.calls = (t.put i call stage).calls)
    (h : call.errand.identity = identity → stage.isInLine = call.stage.isInLine) :
    t'.HasLine identity ↔ t.HasLine identity := by
  rw [hasLine_put hcall hcalls, HasLine, exists_mem_iff_at_or_elsewhere hcall]
  exact or_congr_left (and_congr_right fun hidentity => by rw [h hidentity])

/-- A lock has a first call if its identity has a line. -/
theorem Orderly.hasLine_iff (h : t.Orderly) (hsound : t.shared.locks.Sound) {lock : Nat}
    (hlock : t.shared.locks.lockOf? identity = some lock) :
    t.HasLine identity ↔ ∃ first, t.shared.locks.first? lock = some first := by
  constructor
  · rintro ⟨call, hmem, rfl, hline⟩
    obtain ⟨i, hcall⟩ := List.mem_iff_getElem?.1 hmem
    obtain ⟨lock', hheld, hlock'⟩ := h.held i call hcall hline
    cases hlock.symm.trans hlock'
    exact FetchLocks.exists_first? hheld
  · rintro ⟨first, hfirst⟩
    have hheld := FetchLocks.heldBy?_of_first? h.once hfirst
    obtain ⟨call, hcall, hline⟩ := h.inLine first lock hheld
    obtain ⟨lock', hheld', hlock'⟩ := h.held first call hcall hline
    cases hheld.symm.trans hheld'
    exact ⟨call, List.mem_of_getElem? hcall, hsound.eq_of_lockOf? hlock' hlock, hline⟩

/-! ## What a run keeps -/

/-- There is a reason for every lock, and a lock where there is a reason: a call stands in line, or
the last one that left the line was dropped. -/
structure Accounted (gone : List Departure) (t : Traffic) : Prop where
  orderly : t.Orderly
  sound : t.shared.locks.Sound
  locked_iff : ∀ identity, identity ∈ t.shared.locks.identities
    ↔ t.HasLine identity ∨ isForsaken gone identity = true

theorem accounted_new (cache : SchemaCache) : Accounted [] ⟨ofCache cache, [], []⟩ where
  orderly := orderly_new cache
  sound := FetchLocks.sound_empty
  locked_iff identity := by
    refine iff_of_false List.not_mem_nil ?_
    rintro (⟨call, hmem, -⟩ | hforsaken)
    · cases hmem
    · cases hforsaken

/-- A call that stays in line, or stays out of it, keeps the locks as they are. -/
theorem Accounted.put (h : t.Accounted gone) (horderly : t'.Orderly)
    (hcall : t.calls[i]? = some call) (hcalls : t'.calls = (t.put i call stage).calls)
    (hsound : t'.shared.locks.Sound)
    (hidentities : t'.shared.locks.identities = t.shared.locks.identities)
    (hsame : stage.isInLine = call.stage.isInLine) (m : Move) :
    t'.Accounted (gone ++ (t.departure? t' (.move i m)).toList) := by
  have hnone : t.departure? t' (.move i m) = none := by
    rw [departure?_put hcall hcalls, hsame, Bool.and_not_self]
    rfl
  rw [hnone, Option.toList_none, List.append_nil]
  refine ⟨horderly, hsound, fun identity => ?_⟩
  rw [hidentities, h.locked_iff, hasLine_put_same hcall hcalls fun _ => hsame]

/-- A call that joins the line sets up the lock if need be. -/
theorem Accounted.join (h : t.Accounted gone) (horderly : t'.Orderly)
    (hcall : t.calls[i]? = some call) (hstage : call.stage.isInLine = false)
    (hcalls : t'.calls = (t.put i call .waiting).calls)
    (hlocks : t'.shared.locks = t.shared.locks.take call.errand.identity i) (m : Move) :
    t'.Accounted (gone ++ (t.departure? t' (.move i m)).toList) := by
  have hnone : t.departure? t' (.move i m) = none := by
    rw [departure?_put hcall hcalls, hstage]
    rfl
  rw [hnone, Option.toList_none, List.append_nil]
  refine ⟨horderly, hlocks ▸ h.sound.take _ _, fun identity => ?_⟩
  have hline : t'.HasLine identity ↔ identity = call.errand.identity ∨ t.HasLine identity := by
    rw [hasLine_put hcall hcalls, HasLine, exists_mem_iff_at_or_elsewhere hcall, hstage, eq_comm]
    simp [Stage.isInLine]
  rw [hlocks, FetchLocks.mem_identities_take, h.locked_iff, ← or_assoc, hline]

/-- A call that leaves the line: in good order, and then a lock stays for those who stand there, or
dropped, and then it stays. -/
theorem Accounted.leave (h : t.Accounted gone) (horderly : t'.Orderly)
    (hcall : t.calls[i]? = some call) (hstage : call.stage.isInLine = true)
    (hcalls : t'.calls = (t.put i call stage).calls) (hout : stage.isInLine = false)
    (hsound : t'.shared.locks.Sound)
    (hothers : ∀ identity, identity ≠ call.errand.identity →
      (identity ∈ t'.shared.locks.identities ↔ identity ∈ t.shared.locks.identities))
    (hown : call.errand.identity ∈ t'.shared.locks.identities
      ↔ t'.HasLine call.errand.identity ∨ stage.isDropped = true) (m : Move) :
    t'.Accounted (gone ++ (t.departure? t' (.move i m)).toList) := by
  have hsome : t.departure? t' (.move i m)
      = some ⟨call.errand.identity, stage.isDropped⟩ := by
    rw [departure?_put hcall hcalls, hstage, hout]
    rfl
  rw [hsome, Option.toList_some]
  refine ⟨horderly, hsound, fun identity => ?_⟩
  rw [isForsaken_concat]
  by_cases hidentity : call.errand.identity = identity
  · subst hidentity
    rw [if_pos rfl, hown]
  · rw [if_neg hidentity, hothers identity (Ne.symm hidentity), h.locked_iff,
      hasLine_put_same hcall hcalls fun heq => absurd heq hidentity]

/-- A call that ends takes down the lock if nobody else stands in line. -/
theorem Accounted.finish (h : t.Accounted gone) (horderly : t'.Orderly)
    (hcall : t.calls[i]? = some call) (hstage : call.stage.isInLine = true)
    {outcome : Except Failure Snapshot} (hcalls : t'.calls = (t.put i call (.ended outcome)).calls)
    (hlocks : t'.shared.locks = t.shared.locks.leave call.errand.identity i) (m : Move) :
    t'.Accounted (gone ++ (t.departure? t' (.move i m)).toList) := by
  -- The line is looked at when the call has let go and the lock was not taken down yet: whoever is
  -- the first to hold on to it then is in line still.
  have hquit : Traffic.Orderly { t' with shared := t.shared.abandon i } :=
    h.orderly.quit hcall hcalls rfl rfl
  have hsound : (t.shared.abandon i).locks.Sound := h.sound.quit i
  have hmem (identity : Identity) : identity ∈ t'.shared.locks.identities
      ↔ identity ∈ t.shared.locks.identities ∧ (identity = call.errand.identity →
        ∃ lock first, (t.shared.locks.quit i).lockOf? call.errand.identity = some lock
          ∧ (t.shared.locks.quit i).first? lock = some first) := by
    rw [hlocks, FetchLocks.leave, FetchLocks.mem_identities_sweep, FetchLocks.identities_quit]
  obtain ⟨lock, -, hlock⟩ := h.orderly.held i call hcall hstage
  refine h.leave horderly hcall hstage hcalls rfl (hlocks ▸ h.sound.leave _ _)
    (fun identity hne => ?_) ?_ m
  · rw [hmem, and_iff_left fun heq => absurd heq hne]
  · have hline : t'.HasLine call.errand.identity
        ↔ ∃ first, (t.shared.locks.quit i).first? lock = some first :=
      hquit.hasLine_iff hsound hlock
    rw [hmem, and_iff_right (FetchLocks.mem_identities_iff.2 ⟨lock, hlock⟩), hline]
    constructor
    · intro hfirst
      obtain ⟨lock', first, hlock', hfirst⟩ := hfirst rfl
      cases hlock.symm.trans hlock'
      exact .inl ⟨first, hfirst⟩
    · rintro (⟨first, hfirst⟩ | ⟨⟨⟩⟩) _
      exact ⟨lock, first, hlock, hfirst⟩

/-- A call that is dropped leaves the lock where it is. -/
theorem Accounted.drop (h : t.Accounted gone) (horderly : t'.Orderly)
    (hcall : t.calls[i]? = some call) (hcalls : t'.calls = (t.put i call .dropped).calls)
    (hlocks : t'.shared.locks = t.shared.locks.quit i) (m : Move) :
    t'.Accounted (gone ++ (t.departure? t' (.move i m)).toList) := by
  have hidentities : t'.shared.locks.identities = t.shared.locks.identities := by
    rw [hlocks, FetchLocks.identities_quit]
  have hsound : t'.shared.locks.Sound := hlocks ▸ h.sound.quit i
  cases hstage : call.stage.isInLine with
  | false => exact h.put horderly hcall hcalls hsound hidentities hstage.symm m
  | true =>
    refine h.leave horderly hcall hstage hcalls rfl hsound (fun _ _ => by rw [hidentities]) ?_ m
    rw [hidentities, h.locked_iff]
    exact iff_of_true (.inl ⟨call, List.mem_of_getElem? hcall, rfl, hstage⟩) (.inr rfl)

/-- Every lock stays accounted for when something happens. -/
theorem Accounted.act (h : t.Accounted gone) (a : Act) :
    (t.act a).Accounted (gone ++ (t.departure? (t.act a) a).toList) := by
  have horderly := h.orderly.act a
  have hstep := step_act t a
  generalize t.act a = t' at horderly hstep ⊢
  cases hstep with
  | idle =>
    rw [departure?_self, Option.toList_none, List.append_nil]
    exact h
  | started errand =>
    refine ⟨horderly, h.sound, fun identity => ?_⟩
    rw [departure?, Option.toList_none, List.append_nil, h.locked_iff]
    simp [HasLine, Stage.isInLine]
  | looked hcall hstage now =>
    exact h.put horderly hcall rfl h.sound rfl (by rw [hstage, Stage.isInLine_ofLook]; rfl) _
  | joined hcall hstage => exact h.join horderly hcall (by rw [hstage]; rfl) rfl rfl _
  | served hcall hstage hgo now hfound =>
    exact h.finish horderly hcall (by rw [hstage]; rfl) rfl rfl _
  | began hcall hstage hgo now hmissed =>
    exact h.put horderly hcall rfl h.sound rfl (by rw [hstage]; rfl) _
  | finished hcall hstage fetched now =>
    exact h.finish horderly hcall (by rw [hstage]; rfl) rfl rfl _
  | dropped hcall hbusy => exact h.drop horderly hcall rfl rfl _

theorem Accounted.foldl (h : t.Accounted gone) (acts : List Act) :
    (acts.foldl Traffic.act t).Accounted (gone ++ t.departures acts) := by
  induction acts generalizing t gone with
  | nil => rwa [Traffic.departures, List.append_nil]
  | cons a acts ih =>
    rw [Traffic.departures, ← List.append_assoc]
    exact ih (h.act a)

/-- A call in line is under way. -/
theorem HasLine.mem_underway (h : t.HasLine identity) : identity ∈ t.underway := by
  obtain ⟨call, hmem, rfl, hline⟩ := h
  have hbusy : (!call.stage.isOver) = true := by rw [Stage.isOver_of_isInLine hline]; rfl
  exact List.mem_toFinset.2 (List.mem_map.2 ⟨call, List.mem_filter.2 ⟨hmem, hbusy⟩, rfl⟩)

/-- A call for an identity is dropped as soon as it holds on to the lock. -/
def forsaking (n : Nat) (identity : Identity) : List Act :=
  [.start ⟨identity, 0, .newerThan none⟩, .move n (.look 0), .move n .join, .move n .drop]

theorem foldl_forsaking (t : Traffic) {identity : Identity}
    (hnew : identity ∉ t.shared.locks.identities) :
    let t' := (forsaking t.calls.length identity).foldl act t
    t'.calls = t.calls ++ [⟨⟨identity, 0, .newerThan none⟩, .dropped⟩]
      ∧ t'.shared.locks.identities = t.shared.locks.identities ++ [identity] := by
  have hnone : t.shared.locks.lockOf? identity = none := by
    rw [← Option.not_isSome_iff_eq_none, Option.isSome_iff_exists, ← FetchLocks.mem_identities_iff]
    exact hnew
  simp [forsaking, act, move, put, look, SchemaCache.consult, Stage.ofLook, join, Stage.isOver,
    abandon, FetchLocks.take, FetchLocks.quit, hnone, FetchLocks.identities]

end Traffic

/-- At every point of a run of any calls on a shared cache, with calls that end and calls that are
dropped anywhere, no identity has two locks, and it has one just when a call for it stands in line
or the last call that left its line was dropped. As long as no call is dropped out of a line, there
are no more locks than identities with a call under way, and no lock at all when no call is. -/
theorem locked_iff_inLine_or_forsaken (cache : SchemaCache) (acts : List Act) :
    let t := Traffic.ofActs cache acts
    let departures := Traffic.departures ⟨ofCache cache, [], []⟩ acts
    t.shared.locks.identities.Nodup
      ∧ (∀ identity, identity ∈ t.shared.locks.identities
          ↔ t.HasLine identity ∨ isForsaken departures identity = true)
      ∧ ((∀ d ∈ departures, d.dropped = false) →
          t.shared.locks.identities.length ≤ t.underway.card
          ∧ ((∀ call ∈ t.calls, call.stage.isOver = true) → t.shared.locks.identities = [])) := by
  intro t departures
  have haccounted : t.Accounted departures := (Traffic.accounted_new cache).foldl acts
  refine ⟨haccounted.sound.identities, haccounted.locked_iff, fun hended => ?_⟩
  have hsubset : t.shared.locks.identities.toFinset ⊆ t.underway := by
    intro identity hmem
    rcases (haccounted.locked_iff identity).1 (List.mem_toFinset.1 hmem) with hline | hforsaken
    · exact hline.mem_underway
    · rw [isForsaken_eq_false hended] at hforsaken
      cases hforsaken
  refine ⟨?_, fun hover => ?_⟩
  · rw [← List.toFinset_card_of_nodup haccounted.sound.identities]
    exact Finset.card_le_card hsubset
  · have hquiet : t.underway = ∅ := by
      have hnone : (t.calls.filter fun call => !call.stage.isOver) = [] :=
        List.filter_eq_nil_iff.2 fun call hmem => by rw [hover call hmem]; exact Bool.false_ne_true
      rw [Traffic.underway, hnone]
      rfl
    rw [hquiet] at hsubset
    exact List.toFinset_eq_empty_iff _ |>.1 (Finset.subset_empty.1 hsubset)

section

/-- Two calls stand in one line: the fetch of the first fails, the second fetches again. A third
call is dropped before it takes the lock. -/
def failedFetch : List Act :=
  let errand : Errand := ⟨⟨"a"⟩, 60, .fresh⟩
  [.start errand, .start errand, .start errand, .move 0 (.look 0), .move 1 (.look 0), .move 0 .join,
    .move 1 .join, .move 2 .drop, .move 0 (.resume 0),
    .move 0 (.finish (.error (.interrupted .schemaFetch)) 1), .move 1 (.resume 2),
    .move 1 (.finish (.ok ⟨[]⟩) 3)]

/-- Nothing is left of the lock under which they fetched. -/
theorem locked_iff_inLine_or_forsaken_failedFetch :
    let t := Traffic.ofActs (.ofCapacity 4 60) failedFetch
    (∀ d ∈ Traffic.departures ⟨ofCache (.ofCapacity 4 60), [], []⟩ failedFetch, d.dropped = false)
      ∧ (∀ call ∈ t.calls, call.stage.isOver = true) ∧ t.shared.locks.identities = [] := by
  intro t
  have hended : ∀ d ∈ Traffic.departures ⟨ofCache (.ofCapacity 4 60), [], []⟩ failedFetch,
      d.dropped = false := by decide
  have hover : ∀ call ∈ t.calls, call.stage.isOver = true := by decide
  exact ⟨hended, hover, ((locked_iff_inLine_or_forsaken _ failedFetch).2.2 hended).2 hover⟩

/-- A call is dropped while it fetches. For another identity two calls stand in line, and the second
is dropped after the first has ended. -/
def droppedFetches : List Act :=
  let errand : Errand := ⟨⟨"a"⟩, 60, .fresh⟩
  let refresh : Errand := ⟨⟨"b"⟩, 60, .newerThan none⟩
  [.start errand, .move 0 (.look 0), .move 0 .join, .move 0 (.resume 0), .move 0 .drop,
    .start refresh, .start refresh, .move 1 (.look 1), .move 2 (.look 1), .move 1 .join,
    .move 2 .join, .move 1 (.resume 1), .move 1 (.finish (.ok ⟨[]⟩) 2), .move 2 .drop]

/-- When all these calls are over, the locks of both identities are still there. -/
theorem not_unlocked_dropped :
    let t := Traffic.ofActs (.ofCapacity 4 60) droppedFetches
    (∀ call ∈ t.calls, call.stage.isOver = true) ∧ t.underway.card = 0
      ∧ t.shared.locks.identities = [⟨"a"⟩, ⟨"b"⟩] := by
  decide

end

/-- There is no bound on the locks that dropped calls leave: a run can end with no call under way
and a lock for each of any given identities. -/
theorem exists_quiet_locked (cache : SchemaCache) {identities : List Identity}
    (h : identities.Nodup) : ∃ acts : List Act,
      (∀ call ∈ (Traffic.ofActs cache acts).calls, call.stage.isOver = true)
        ∧ (Traffic.ofActs cache acts).shared.locks.identities = identities := by
  induction identities using List.reverseRecOn with
  | nil => exact ⟨[], List.forall_mem_nil _, rfl⟩
  | append_singleton identities identity ih =>
    obtain ⟨hidentities, -, hnew⟩ := List.nodup_append.1 h
    obtain ⟨acts, hover, hlocked⟩ := ih hidentities
    have hnew : identity ∉ (Traffic.ofActs cache acts).shared.locks.identities := by
      rw [hlocked]
      exact fun hmem => hnew identity hmem identity (List.mem_singleton_self _) rfl
    obtain ⟨hcalls, hlocks⟩ := Traffic.foldl_forsaking _ hnew
    refine ⟨acts ++ Traffic.forsaking (Traffic.ofActs cache acts).calls.length identity, ?_, ?_⟩
    · rw [Traffic.ofActs, List.foldl_append, ← Traffic.ofActs, hcalls]
      exact List.forall_mem_append.2 ⟨hover, List.forall_mem_singleton.2 rfl⟩
    · rw [Traffic.ofActs, List.foldl_append, ← Traffic.ofActs, hlocks, hlocked]

end SharedCache

end Pushdown
