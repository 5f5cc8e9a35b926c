import Mathlib.Data.List.Induction
import Mathlib.Data.List.Nodup
import Pushdown.Proofs.Store.Recency
import Pushdown.Schema.Turns

/-!
# Calls on a shared cache at the same time

A `Traffic` is a shared cache with all calls on it and with the fetches that were begun and ended.
It goes on by one `Act` after another: a call begins, or one that has begun moves on or is dropped,
whichever it is. `Traffic.ofActs` is any run of any calls.

What keeps two calls from fetching for one identity is that the lock which a call holds on to is
always the lock of its identity (`Traffic.Orderly`): a lock is taken down only when nobody holds on
to it. So the calls of an identity stand in one line, and only the first of it fetches
(`Traffic.Orderly.eq_of_fetching`).
-/

namespace Pushdown

/-! ## Locks -/

namespace FetchLocks

variable {l : FetchLocks} {call other lock : Nat} {identity identity' : Identity}

/-- No call holds on to two locks. -/
def IsOnce (l : FetchLocks) : Prop := (l.holders.map (·.1)).Nodup

theorem mayGo_iff : l.mayGo call = true ↔
    ∃ lock, l.heldBy? call = some lock ∧ l.first? lock = some call := by
  simp [mayGo, Option.any_eq_true]

/-- A lock that a call holds on to has a first call. -/
theorem exists_first? (h : l.heldBy? call = some lock) : ∃ first, l.first? lock = some first := by
  obtain ⟨before, after, hholders, -⟩ := List.lookup_eq_some_iff.1 h
  have hsome : (l.holders.find? fun holder => holder.2 = lock).isSome = true :=
    List.find?_isSome.2 ⟨(call, lock), by simp [hholders], by simp⟩
  obtain ⟨holder, hholder⟩ := Option.isSome_iff_exists.1 hsome
  exact ⟨holder.1, by rw [first?, hholder]; rfl⟩

/-- The first call of a lock holds on to it. -/
theorem heldBy?_of_first? (hl : l.IsOnce) (h : l.first? lock = some call) :
    l.heldBy? call = some lock := by
  obtain ⟨holder, hfind, rfl⟩ := Option.map_eq_some_iff.1 h
  have hmem := List.mem_of_find?_eq_some hfind
  have hlock : holder.2 = lock := by simpa using List.find?_some hfind
  cases hheld : l.heldBy? holder.1 with
  | none =>
    have hne := List.lookup_eq_none_iff.1 hheld holder hmem
    exact absurd rfl (bne_iff_ne.1 hne)
  | some lock' =>
    obtain ⟨before, after, hholders, -⟩ := List.lookup_eq_some_iff.1 hheld
    have hmem' : (holder.1, lock') ∈ l.holders := by simp [hholders]
    have heq := List.inj_on_of_nodup_map hl hmem' hmem rfl
    rw [← hlock, ← heq]

/-! ### Taking a lock -/

theorem lockOf?_take_self (l : FetchLocks) (identity : Identity) (call : Nat) :
    ∃ lock, (l.take identity call).lockOf? identity = some lock
      ∧ (l.take identity call).holders = l.holders ++ [(call, lock)] := by
  unfold take
  cases hlock : l.lockOf? identity with
  | some lock => exact ⟨lock, hlock, rfl⟩
  | none =>
    refine ⟨l.nextLock, ?_, rfl⟩
    rw [lockOf?] at hlock ⊢
    simp [List.lookup_append, hlock]

/-- A lock that is there stays. -/
theorem lockOf?_take (h : l.lockOf? identity' = some lock) (identity : Identity) (call : Nat) :
    (l.take identity call).lockOf? identity' = some lock := by
  unfold take
  split
  · exact h
  · rw [lockOf?] at h ⊢
    simp [List.lookup_append, h]

/-- A call that held on to nothing holds on to the lock that it takes. -/
theorem heldBy?_take_self (h : l.heldBy? call = none) (identity : Identity) :
    (l.take identity call).heldBy? call = (l.take identity call).lockOf? identity := by
  obtain ⟨lock, hlock, hholders⟩ := lockOf?_take_self l identity call
  rw [heldBy?] at h
  rw [hlock, heldBy?, hholders]
  simp [List.lookup_append, h]

theorem heldBy?_take_of_ne (h : other ≠ call) (l : FetchLocks) (identity : Identity) :
    (l.take identity call).heldBy? other = l.heldBy? other := by
  obtain ⟨lock, -, hholders⟩ := lockOf?_take_self l identity call
  have hbeq : (other == call) = false := by simpa using h
  rw [heldBy?, heldBy?, hholders, List.lookup_append]
  simp [List.lookup_cons, hbeq]

/-- The first of a lock stays the first. -/
theorem first?_take (h : l.first? lock = some other) (identity : Identity) (call : Nat) :
    (l.take identity call).first? lock = some other := by
  obtain ⟨lock', -, hholders⟩ := lockOf?_take_self l identity call
  obtain ⟨holder, hfind, rfl⟩ := Option.map_eq_some_iff.1 h
  rw [first?, hholders, List.find?_append, hfind]
  rfl

theorem isOnce_take (hl : l.IsOnce) (h : l.heldBy? call = none) (identity : Identity) :
    (l.take identity call).IsOnce := by
  obtain ⟨lock, -, hholders⟩ := lockOf?_take_self l identity call
  rw [IsOnce, hholders, List.map_append]
  refine List.Nodup.append hl (List.nodup_singleton _) fun c hmem hc => ?_
  obtain ⟨holder, hholder, rfl⟩ := List.mem_map.1 hmem
  obtain rfl : holder.1 = call := List.mem_singleton.1 hc
  exact absurd rfl (bne_iff_ne.1 (List.lookup_eq_none_iff.1 h holder hholder))

/-! ### Letting go of a lock -/

theorem heldBy?_quit_self (l : FetchLocks) (call : Nat) : (l.quit call).heldBy? call = none := by
  rw [heldBy?, quit, List.lookup_eq_none_iff]
  intro holder hholder
  exact bne_iff_ne.2 (Ne.symm (of_decide_eq_true (List.mem_filter.1 hholder).2))

theorem heldBy?_quit_of_ne (h : other ≠ call) (l : FetchLocks) :
    (l.quit call).heldBy? other = l.heldBy? other :=
  lookup_filter_of_ne h l.holders

/-- The first of a lock stays the first when another call lets go. -/
theorem first?_quit_of_ne (h : l.first? lock = some other) (hne : other ≠ call) :
    (l.quit call).first? lock = some other := by
  obtain ⟨holder, hfind, rfl⟩ := Option.map_eq_some_iff.1 h
  obtain ⟨hlock, before, after, hholders, hbefore⟩ := List.find?_eq_some_iff_append.1 hfind
  have hstays : (l.quit call).holders.find? (fun holder => holder.2 = lock) = some holder := by
    refine List.find?_eq_some_iff_append.2
      ⟨hlock, before.filter fun h => h.1 ≠ call, after.filter fun h => h.1 ≠ call, ?_, ?_⟩
    · rw [quit, hholders, List.filter_append, List.filter_cons_of_pos (by simpa using hne)]
    · exact fun h hh => hbefore h (List.mem_filter.1 hh).1
  rw [first?, hstays]
  rfl

theorem isOnce_quit (hl : l.IsOnce) (call : Nat) : (l.quit call).IsOnce :=
  hl.sublist ((List.filter_sublist).map _)

/-! ### Taking down a lock -/

@[simp] theorem holders_sweep (l : FetchLocks) (identity : Identity) :
    (l.sweep identity).holders = l.holders := by
  unfold sweep
  split
  · split <;> rfl
  · rfl

/-- A lock that a call holds on to is not taken down. -/
theorem lockOf?_sweep (hlock : l.lockOf? identity' = some lock) (hheld : l.heldBy? call = some lock)
    (identity : Identity) : (l.sweep identity).lockOf? identity' = some lock := by
  unfold sweep
  split
  · next lock' hlock' =>
    split
    · exact hlock
    · next hnobody =>
      have hne : identity' ≠ identity := by
        rintro rfl
        obtain ⟨first, hfirst⟩ := exists_first? hheld
        cases hlock.symm.trans hlock'
        exact hnobody (by rw [hfirst]; rfl)
      exact (lookup_filter_of_ne hne l.table).trans hlock
  · exact hlock

end FetchLocks

/-! ## Calls under way -/

namespace SharedCache

open SchemaCache (Errand)

/-- Where a call has got to. -/
inductive Stage where
  | beginning
  /-- The call has not found what it wants. -/
  | missed
  /-- The call holds on to a lock. -/
  | waiting
  | fetching
  | ended (outcome : Except Failure Snapshot)
  | dropped
  deriving Repr, Inhabited

namespace Stage

/-- Whether a call holds on to a lock. -/
def isInLine : Stage → Bool
  | .waiting | .fetching => true
  | _ => false

/-- Whether a call has nothing left to do. -/
def isOver : Stage → Bool
  | .ended _ | .dropped => true
  | _ => false

/-- The stage of a call that has looked at the cache. -/
def ofLook : Option Snapshot → Stage
  | some snapshot => .ended (.ok snapshot)
  | none => .missed

/-- The stage of a call that has looked whether its turn has come. -/
def ofProgress : Progress → Stage
  | .found snapshot => .ended (.ok snapshot)
  | .waiting => .waiting
  | .fetching => .fetching

/-- A call that holds on to a lock is not over. -/
theorem isOver_of_isInLine {s : Stage} (h : s.isInLine = true) : s.isOver = false := by
  cases s with
  | waiting | fetching => rfl
  | beginning | missed | ended | dropped => cases h

@[simp] theorem isInLine_ofLook (found : Option Snapshot) : (ofLook found).isInLine = false := by
  cases found <;> rfl

@[simp] theorem ofLook_ne_fetching (found : Option Snapshot) : ofLook found ≠ .fetching := by
  cases found <;> exact nofun

end Stage

/-- A call that has begun. -/
structure Call where
  errand : Errand
  stage : Stage
  deriving Repr, Inhabited

/-- What becomes of a fetch. -/
inductive Event where
  | began
  | ended (outcome : Except Failure Snapshot)
  deriving Repr, Inhabited

/-- A shared cache with the calls on it and the fetches for each identity. -/
structure Traffic where
  shared : SharedCache
  calls : List Call
  events : List (Identity × Event)
  deriving Repr, Inhabited

/-- How a call can move on. -/
inductive Move where
  | look (now : Nat)
  | join
  | resume (now : Nat)
  | finish (fetched : Except Failure Schema) (now : Nat)
  | drop
  deriving Repr, Inhabited

/-- What can happen next. -/
inductive Act where
  | start (errand : Errand)
  | move (call : Nat) (move : Move)
  deriving Repr, Inhabited

namespace Traffic

/-- The traffic with a call at another stage. -/
def put (t : Traffic) (i : Nat) (call : Call) (stage : Stage) : Traffic :=
  { t with calls := t.calls.set i ⟨call.errand, stage⟩ }

/-- A call moves on, if it can in this way. -/
def move (t : Traffic) (i : Nat) (call : Call) : Move → Traffic
  | .look now =>
    match call.stage with
    | .beginning =>
      let (found, shared) := t.shared.look call.errand now
      { t.put i call (.ofLook found) with shared }
    | _ => t
  | .join =>
    match call.stage with
    | .missed => { t.put i call .waiting with shared := t.shared.join i call.errand }
    | _ => t
  | .resume now =>
    match call.stage with
    | .waiting =>
      let (progress, shared) := t.shared.resume i call.errand now
      { t.put i call (.ofProgress progress) with
        shared
        events :=
          if progress = .fetching then t.events ++ [(call.errand.identity, .began)] else t.events }
    | _ => t
  | .finish fetched now =>
    match call.stage with
    | .fetching =>
      let (outcome, shared) := t.shared.finish i call.errand fetched now
      { t.put i call (.ended outcome) with
        shared, events := t.events ++ [(call.errand.identity, .ended outcome)] }
    | _ => t
  | .drop =>
    if call.stage.isOver then t else { t.put i call .dropped with shared := t.shared.abandon i }

/-- The next act. -/
def act (t : Traffic) : Act → Traffic
  | .start errand => { t with calls := t.calls ++ [⟨errand, .beginning⟩] }
  | .move i m =>
    match t.calls[i]? with
    | some call => t.move i call m
    | none => t

/-- A cache without calls after some acts. -/
def ofActs (cache : SchemaCache) (acts : List Act) : Traffic :=
  acts.foldl act ⟨ofCache cache, [], []⟩

/-! ## What one act does -/

variable {t : Traffic}

theorem act_move {i : Nat} {call : Call} (hcall : t.calls[i]? = some call) (m : Move) :
    t.act (.move i m) = t.move i call m := by
  rw [act, hcall]

section

variable {i : Nat} {call : Call}

theorem act_look (hcall : t.calls[i]? = some call) (hstage : call.stage = .beginning) (now : Nat) :
    t.act (.move i (.look now))
      = { t.put i call (.ofLook (t.shared.look call.errand now).1) with
          shared := (t.shared.look call.errand now).2 } := by
  rw [act_move hcall]
  simp only [move, hstage]

theorem act_join (hcall : t.calls[i]? = some call) (hstage : call.stage = .missed) :
    t.act (.move i .join)
      = { t.put i call .waiting with shared := t.shared.join i call.errand } := by
  rw [act_move hcall]
  simp only [move, hstage]

theorem act_resume (hcall : t.calls[i]? = some call) (hstage : call.stage = .waiting) (now : Nat) :
    t.act (.move i (.resume now))
      = { t.put i call (.ofProgress (t.shared.resume i call.errand now).1) with
          shared := (t.shared.resume i call.errand now).2
          events :=
            if (t.shared.resume i call.errand now).1 = .fetching then
              t.events ++ [(call.errand.identity, .began)]
            else t.events } := by
  rw [act_move hcall]
  simp only [move, hstage]

theorem act_finish (hcall : t.calls[i]? = some call) (hstage : call.stage = .fetching)
    (fetched : Except Failure Schema) (now : Nat) :
    t.act (.move i (.finish fetched now))
      = { t.put i call (.ended (t.shared.finish i call.errand fetched now).1) with
          shared := (t.shared.finish i call.errand fetched now).2
          events := t.events
            ++ [(call.errand.identity,
              .ended (t.shared.finish i call.errand fetched now).1)] } := by
  rw [act_move hcall]
  simp only [move, hstage]

end

/-- What an act can do. -/
inductive Step (t : Traffic) : Act → Traffic → Prop where
  /-- The call cannot move on in this way. -/
  | idle {a : Act} : Step t a t
  | started (errand : Errand) :
      Step t (.start errand) { t with calls := t.calls ++ [⟨errand, .beginning⟩] }
  | looked {i : Nat} {call : Call} (hcall : t.calls[i]? = some call)
      (hstage : call.stage = .beginning) (now : Nat) :
      Step t (.move i (.look now))
        { t.put i call (.ofLook (t.shared.look call.errand now).1) with
          shared := (t.shared.look call.errand now).2 }
  | joined {i : Nat} {call : Call} (hcall : t.calls[i]? = some call)
      (hstage : call.stage = .missed) :
      Step t (.move i .join) { t.put i call .waiting with shared := t.shared.join i call.errand }
  | served {i : Nat} {call : Call} {snapshot : Snapshot} {cache : SchemaCache}
      (hcall : t.calls[i]? = some call) (hstage : call.stage = .waiting)
      (hgo : t.shared.locks.mayGo i = true) (now : Nat)
      (hfound : t.shared.cache.recheck call.errand now = (some snapshot, cache)) :
      Step t (.move i (.resume now))
        { t.put i call (.ended (.ok snapshot)) with
          shared := ⟨cache, t.shared.locks.leave call.errand.identity i⟩ }
  | began {i : Nat} {call : Call} {cache : SchemaCache} (hcall : t.calls[i]? = some call)
      (hstage : call.stage = .waiting) (hgo : t.shared.locks.mayGo i = true) (now : Nat)
      (hmissed : t.shared.cache.recheck call.errand now = (none, cache)) :
      Step t (.move i (.resume now))
        { t.put i call .fetching with
          shared := { t.shared with cache }
          events := t.events ++ [(call.errand.identity, .began)] }
  | finished {i : Nat} {call : Call} (hcall : t.calls[i]? = some call)
      (hstage : call.stage = .fetching) (fetched : Except Failure Schema) (now : Nat) :
      Step t (.move i (.finish fetched now))
        { t.put i call (.ended (t.shared.finish i call.errand fetched now).1) with
          shared := (t.shared.finish i call.errand fetched now).2
          events := t.events
            ++ [(call.errand.identity, .ended (t.shared.finish i call.errand fetched now).1)] }
  | dropped {i : Nat} {call : Call} (hcall : t.calls[i]? = some call)
      (hbusy : call.stage.isOver = false) :
      Step t (.move i .drop) { t.put i call .dropped with shared := t.shared.abandon i }

/-- A call that waits for its turn stays where it is until that comes. -/
theorem act_resume_of_not_mayGo {i : Nat} {call : Call} (hcall : t.calls[i]? = some call)
    (hstage : call.stage = .waiting) (hgo : t.shared.locks.mayGo i = false) (now : Nat) :
    t.act (.move i (.resume now)) = t := by
  have hresume : t.shared.resume i call.errand now = (.waiting, t.shared) := by
    rw [resume, hgo]
    rfl
  have hset : t.calls.set i ⟨call.errand, .waiting⟩ = t.calls := by
    obtain ⟨hlt, rfl⟩ := List.getElem?_eq_some_iff.1 hcall
    rw [← hstage]
    exact List.set_getElem_self hlt
  rw [act_resume hcall hstage]
  simp only [hresume, put, Stage.ofProgress, hset]
  rfl

theorem step_act (t : Traffic) (a : Act) : Step t a (t.act a) := by
  cases a with
  | start errand => exact .started errand
  | move i m =>
    cases hcall : t.calls[i]? with
    | none =>
      rw [act, hcall]
      exact .idle
    | some call =>
      cases m with
      | look now =>
        rw [act_move hcall, move]
        split
        · next hstage => exact .looked hcall hstage now
        · exact .idle
      | join =>
        rw [act_move hcall, move]
        split
        · next hstage => exact .joined hcall hstage
        · exact .idle
      | resume now =>
        cases hstage : call.stage with
        | waiting =>
          cases hgo : t.shared.locks.mayGo i with
          | false =>
            rw [act_resume_of_not_mayGo hcall hstage hgo]
            exact .idle
          | true =>
            rw [act_resume hcall hstage]
            cases hrecheck : t.shared.cache.recheck call.errand now with
            | mk found cache =>
              cases found with
              | some snapshot =>
                have hstep := Step.served hcall hstage hgo now hrecheck
                simpa [resume, hgo, hrecheck, put, Stage.ofProgress] using hstep
              | none =>
                have hstep := Step.began hcall hstage hgo now hrecheck
                simpa [resume, hgo, hrecheck, put, Stage.ofProgress] using hstep
        | _ =>
          rw [act_move hcall]
          simp only [move, hstage]
          exact .idle
      | finish fetched now =>
        rw [act_move hcall, move]
        split
        · next hstage => exact .finished hcall hstage fetched now
        · exact .idle
      | drop =>
        rw [act_move hcall, move]
        split
        · exact .idle
        · next hbusy => exact .dropped hcall (Bool.eq_false_iff.2 hbusy)

/-! ## What a run keeps -/

/-- Every call in line holds on to the lock of its identity, nobody else holds on to a lock, and
only the first call of a lock fetches. -/
structure Orderly (t : Traffic) : Prop where
  once : t.shared.locks.IsOnce
  held : ∀ i call, t.calls[i]? = some call → call.stage.isInLine = true →
    ∃ lock, t.shared.locks.heldBy? i = some lock
      ∧ t.shared.locks.lockOf? call.errand.identity = some lock
  inLine : ∀ i lock, t.shared.locks.heldBy? i = some lock →
    ∃ call, t.calls[i]? = some call ∧ call.stage.isInLine = true
  first : ∀ i call, t.calls[i]? = some call → call.stage = .fetching →
    t.shared.locks.mayGo i = true

theorem orderly_new (cache : SchemaCache) : Orderly ⟨ofCache cache, [], []⟩ := by
  refine ⟨.nil, fun i call hcall => ?_, fun i lock hheld => ?_, fun i call hcall => ?_⟩
  · cases List.getElem?_nil.symm.trans hcall
  · cases hheld
  · cases List.getElem?_nil.symm.trans hcall

/-- A call that is not in line holds on to nothing. -/
theorem Orderly.heldBy?_eq_none (h : t.Orderly) {i : Nat} {call : Call}
    (hcall : t.calls[i]? = some call) (haside : call.stage.isInLine = false) :
    t.shared.locks.heldBy? i = none := by
  cases hheld : t.shared.locks.heldBy? i with
  | none => rfl
  | some lock =>
    obtain ⟨call', hcall', hline⟩ := h.inLine i lock hheld
    cases hcall.symm.trans hcall'
    rw [haside] at hline
    cases hline

/-- No two calls fetch for one identity. -/
theorem Orderly.eq_of_fetching (h : t.Orderly) {i j : Nat} {call call' : Call}
    (hcall : t.calls[i]? = some call) (hstage : call.stage = .fetching)
    (hcall' : t.calls[j]? = some call') (hgo : t.shared.locks.mayGo j = true)
    (hline : call'.stage.isInLine = true)
    (hidentity : call.errand.identity = call'.errand.identity) : i = j := by
  obtain ⟨lock, hheld, hlock⟩ := h.held i call hcall (by rw [hstage]; rfl)
  obtain ⟨lock', hheld', hlock'⟩ := h.held j call' hcall' hline
  rw [hidentity] at hlock
  cases hlock.symm.trans hlock'
  obtain ⟨lock₁, hheld₁, hfirst₁⟩ := FetchLocks.mayGo_iff.1 (h.first i call hcall hstage)
  obtain ⟨lock₂, hheld₂, hfirst₂⟩ := FetchLocks.mayGo_iff.1 hgo
  cases hheld.symm.trans hheld₁
  cases hheld'.symm.trans hheld₂
  exact Option.some.inj (hfirst₁.symm.trans hfirst₂)

section

variable {t' : Traffic} {i : Nat} {call : Call} {stage : Stage}

/-- The calls of a traffic in which one is at another stage. -/
theorem getElem?_put_cases (hcall : t.calls[i]? = some call)
    (hcalls : t'.calls = (t.put i call stage).calls) {j : Nat} {other : Call}
    (hother : t'.calls[j]? = some other) :
    (j = i ∧ other = ⟨call.errand, stage⟩) ∨ (j ≠ i ∧ t.calls[j]? = some other) := by
  have hlt := (List.getElem?_eq_some_iff.1 hcall).1
  rw [hcalls, put] at hother
  by_cases hj : j = i
  · subst hj
    rw [List.getElem?_set_self hlt] at hother
    cases hother
    exact .inl ⟨rfl, rfl⟩
  · rw [List.getElem?_set_ne (Ne.symm hj)] at hother
    exact .inr ⟨hj, hother⟩

theorem getElem?_put_self (hcall : t.calls[i]? = some call)
    (hcalls : t'.calls = (t.put i call stage).calls) :
    t'.calls[i]? = some ⟨call.errand, stage⟩ := by
  rw [hcalls, put, List.getElem?_set_self (List.getElem?_eq_some_iff.1 hcall).1]

theorem getElem?_put_of_ne (hcalls : t'.calls = (t.put i call stage).calls) {j : Nat} (hj : j ≠ i) :
    t'.calls[j]? = t.calls[j]? := by
  rw [hcalls, put, List.getElem?_set_ne (Ne.symm hj)]

/-- The calls stay in order when one is at another stage and its hold on a lock goes with that, if
the holds of the others stay as they are. -/
theorem Orderly.move (h : t.Orderly) (hcall : t.calls[i]? = some call)
    (hcalls : t'.calls = (t.put i call stage).calls) (honce : t'.shared.locks.IsOnce)
    (hheldBy : ∀ j, j ≠ i → t'.shared.locks.heldBy? j = t.shared.locks.heldBy? j)
    (hlockOf : ∀ identity lock, t.shared.locks.lockOf? identity = some lock →
      t'.shared.locks.lockOf? identity = some lock)
    (hfirst : ∀ j lock, j ≠ i → t.shared.locks.first? lock = some j →
      t'.shared.locks.first? lock = some j)
    (hline : stage.isInLine = true → ∃ lock, t'.shared.locks.heldBy? i = some lock
      ∧ t'.shared.locks.lockOf? call.errand.identity = some lock)
    (haside : stage.isInLine = false → t'.shared.locks.heldBy? i = none)
    (hgo : stage = .fetching → t'.shared.locks.mayGo i = true) : t'.Orderly := by
  refine ⟨honce, fun j other hother hin => ?_, fun j lock hheld => ?_,
    fun j other hother hfetching => ?_⟩
  · obtain ⟨rfl, rfl⟩ | ⟨hj, hother⟩ := getElem?_put_cases hcall hcalls hother
    · exact hline hin
    · obtain ⟨lock, hheld, hlock⟩ := h.held j other hother hin
      exact ⟨lock, (hheldBy j hj).trans hheld, hlockOf _ lock hlock⟩
  · by_cases hj : j = i
    · subst hj
      refine ⟨_, getElem?_put_self hcall hcalls, ?_⟩
      by_contra hout
      rw [haside (Bool.eq_false_iff.2 hout)] at hheld
      cases hheld
    · obtain ⟨other, hother, hin⟩ := h.inLine j lock ((hheldBy j hj).symm.trans hheld)
      exact ⟨other, (getElem?_put_of_ne hcalls hj).trans hother, hin⟩
  · obtain ⟨rfl, rfl⟩ | ⟨hj, hother⟩ := getElem?_put_cases hcall hcalls hother
    · exact hgo hfetching
    · obtain ⟨lock, hheld, hlock⟩ := FetchLocks.mayGo_iff.1 (h.first j other hother hfetching)
      exact FetchLocks.mayGo_iff.2 ⟨lock, (hheldBy j hj).trans hheld, hfirst j lock hj hlock⟩

/-- A call that keeps its hold, if it has one, may look or fetch. -/
theorem Orderly.put (h : t.Orderly) (hcall : t.calls[i]? = some call)
    (hcalls : t'.calls = (t.put i call stage).calls) (hlocks : t'.shared.locks = t.shared.locks)
    (hsame : stage.isInLine = call.stage.isInLine)
    (hfirst : stage = .fetching → t.shared.locks.mayGo i = true) : t'.Orderly := by
  refine h.move hcall hcalls (hlocks ▸ h.once) ?_ ?_ ?_ ?_ ?_ ?_ <;> rw [hlocks]
  · exact fun _ _ => rfl
  · exact fun _ _ hlock => hlock
  · exact fun _ _ _ hfirst => hfirst
  · exact fun hin => h.held i call hcall (hsame ▸ hin)
  · exact fun hout => h.heldBy?_eq_none hcall (hsame ▸ hout)
  · exact hfirst

/-- A call joins the line. -/
theorem Orderly.join (h : t.Orderly) (hcall : t.calls[i]? = some call)
    (haside : call.stage.isInLine = false) (hcalls : t'.calls = (t.put i call .waiting).calls)
    (hlocks : t'.shared.locks = t.shared.locks.take call.errand.identity i) : t'.Orderly := by
  have hnone := h.heldBy?_eq_none hcall haside
  refine h.move hcall hcalls ?_ ?_ ?_ ?_ ?_ nofun nofun <;> rw [hlocks]
  · exact FetchLocks.isOnce_take h.once hnone _
  · exact fun j hj => FetchLocks.heldBy?_take_of_ne hj _ _
  · exact fun _ _ hlock => FetchLocks.lockOf?_take hlock _ _
  · exact fun _ _ _ hfirst => FetchLocks.first?_take hfirst _ _
  · intro _
    obtain ⟨lock, hlock, -⟩ :=
      FetchLocks.lockOf?_take_self t.shared.locks call.errand.identity i
    exact ⟨lock, (FetchLocks.heldBy?_take_self hnone _).trans hlock, hlock⟩

/-- A call lets go of its lock, if it holds on to one. -/
theorem Orderly.quit (h : t.Orderly) (hcall : t.calls[i]? = some call)
    (hcalls : t'.calls = (t.put i call stage).calls) (hout : stage.isInLine = false)
    (hlocks : t'.shared.locks = t.shared.locks.quit i) : t'.Orderly := by
  refine h.move hcall hcalls ?_ ?_ ?_ ?_ (fun hin => ?_) ?_ (fun hfetching => ?_)
  · rw [hlocks]
    exact FetchLocks.isOnce_quit h.once i
  · rw [hlocks]
    exact fun j hj => FetchLocks.heldBy?_quit_of_ne hj _
  · rw [hlocks]
    exact fun _ _ hlock => hlock
  · rw [hlocks]
    exact fun _ _ hj hfirst => FetchLocks.first?_quit_of_ne hfirst hj
  · rw [hout] at hin
    cases hin
  · rw [hlocks]
    exact fun _ => FetchLocks.heldBy?_quit_self _ i
  · rw [hfetching] at hout
    cases hout

/-- A lock that nobody holds on to is taken down. -/
theorem Orderly.sweep (h : t.Orderly) (hcalls : t'.calls = t.calls) {identity : Identity}
    (hlocks : t'.shared.locks = t.shared.locks.sweep identity) : t'.Orderly := by
  have hholders : t'.shared.locks.holders = t.shared.locks.holders := by
    rw [hlocks, FetchLocks.holders_sweep]
  have hheldBy (j : Nat) : t'.shared.locks.heldBy? j = t.shared.locks.heldBy? j := by
    rw [FetchLocks.heldBy?, FetchLocks.heldBy?, hholders]
  have hfirst? (lock : Nat) : t'.shared.locks.first? lock = t.shared.locks.first? lock := by
    rw [FetchLocks.first?, FetchLocks.first?, hholders]
  refine ⟨?_, fun j other hother hin => ?_, fun j lock hheld => ?_,
    fun j other hother hfetching => ?_⟩
  · rw [FetchLocks.IsOnce, hholders]
    exact h.once
  · rw [hcalls] at hother
    obtain ⟨lock, hheld, hlock⟩ := h.held j other hother hin
    refine ⟨lock, (hheldBy j).trans hheld, ?_⟩
    rw [hlocks]
    exact FetchLocks.lockOf?_sweep hlock hheld identity
  · rw [hcalls]
    exact h.inLine j lock ((hheldBy j).symm.trans hheld)
  · rw [hcalls] at hother
    obtain ⟨lock, hheld, hfirst⟩ := FetchLocks.mayGo_iff.1 (h.first j other hother hfetching)
    exact FetchLocks.mayGo_iff.2 ⟨lock, (hheldBy j).trans hheld, (hfirst? lock).trans hfirst⟩

/-- A call leaves in good order. -/
theorem Orderly.leave (h : t.Orderly) (hcall : t.calls[i]? = some call)
    (hcalls : t'.calls = (t.put i call stage).calls) (hstage : stage.isInLine = false)
    {identity : Identity} (hlocks : t'.shared.locks = t.shared.locks.leave identity i) :
    t'.Orderly := by
  have hquit : Traffic.Orderly { t' with shared := t.shared.abandon i } :=
    h.quit hcall hcalls hstage rfl
  exact hquit.sweep rfl hlocks

end

/-- The calls stay in order when something happens. -/
theorem Orderly.act (h : t.Orderly) (a : Act) : (t.act a).Orderly := by
  have hstep := step_act t a
  generalize t.act a = t' at hstep ⊢
  cases hstep with
  | idle => exact h
  | started errand =>
    have hold {i : Nat} {call : Call}
        (hcall : (t.calls ++ [⟨errand, .beginning⟩])[i]? = some call) :
        t.calls[i]? = some call ∨ call = ⟨errand, .beginning⟩ := by
      rw [List.getElem?_append] at hcall
      split at hcall
      · exact .inl hcall
      · exact .inr (List.mem_singleton.1 (List.mem_of_getElem? hcall))
    refine ⟨h.once, fun i call hcall hin => ?_, fun i lock hheld => ?_,
      fun i call hcall hfetching => ?_⟩
    · obtain hcall | rfl := hold hcall
      · exact h.held i call hcall hin
      · cases hin
    · obtain ⟨call, hcall, hin⟩ := h.inLine i lock hheld
      exact ⟨call, List.getElem?_append_left (List.getElem?_eq_some_iff.1 hcall).1 ▸ hcall, hin⟩
    · obtain hcall | rfl := hold hcall
      · exact h.first i call hcall hfetching
      · cases hfetching
  | looked hcall hstage now =>
    exact h.put hcall rfl rfl (by rw [hstage, Stage.isInLine_ofLook]; rfl)
      fun hfetching => absurd hfetching (Stage.ofLook_ne_fetching _)
  | joined hcall hstage => exact h.join hcall (by rw [hstage]; rfl) rfl rfl
  | served hcall hstage hgo now hfound => exact h.leave hcall rfl rfl rfl
  | began hcall hstage hgo now hmissed =>
    exact h.put hcall rfl rfl (by rw [hstage]; rfl) fun _ => hgo
  | finished hcall hstage fetched now => exact h.leave hcall rfl rfl rfl
  | dropped hcall hbusy => exact h.quit hcall rfl rfl rfl

/-- The calls are in order at every point of a run. -/
theorem orderly_ofActs (cache : SchemaCache) (acts : List Act) : (ofActs cache acts).Orderly := by
  induction acts using List.reverseRecOn with
  | nil => exact orderly_new cache
  | append_singleton acts a ih =>
    rw [ofActs, List.foldl_concat]
    exact ih.act a

end Traffic

end SharedCache

end Pushdown
