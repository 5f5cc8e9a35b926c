import Mathlib.Data.List.Flatten
import Mathlib.Data.List.Induction
import Mathlib.Data.List.Nodup
import Pushdown.Connection.Pool
import Pushdown.Proofs.Store.Recency

/-!
# Calls to a pool at the same time

A `Traffic` is a pool with all calls to it, those that are under way and those that are over, and
with what has happened to the connections. It goes on by one `Act` after another: a call begins, or
one that has begun moves on, whichever it is. `Traffic.ofActs` is any run of any calls.

Every act keeps three accounts in order for every connection (`Traffic.Tidy`): what was put into the
pool is still there, or some call owes its closing, or it is closed; a connection is made before it
is connected, and connected before it is put into the pool; a closing that was begun has ended or is
under way.
-/

namespace Pushdown

namespace Stage

variable {γ : Type}

/-- The connections that a call has taken out of the pool and has yet to see closed. -/
def owed : Stage γ → List γ
  | .closingIdle old => [old]
  | .closingDisplaced old _ => [old]
  | .closing rest => rest
  | .making | .connecting _ | .ended _ => []

/-- The connection that a call is connecting. -/
def connecting? : Stage γ → Option γ
  | .connecting fresh => some fresh
  | _ => none

/-- The connection that a call is going to hand out, or has. -/
def promised? : Stage γ → Option γ
  | .closingDisplaced _ fresh => some fresh
  | .ended (.ok g) => some g
  | _ => none

/-- Whether a call has nothing left to do. -/
def isOver : Stage γ → Bool
  | .closing [] | .ended _ => true
  | _ => false

/-- What is closed first is what is owed first. -/
theorem toClose?_eq (s : Stage γ) : s.toClose? = s.owed.head? := by
  cases s with
  | closing rest => cases rest <;> rfl
  | _ => rfl

theorem owed_closed (s : Stage γ) : s.closed.owed = s.owed.tail := by
  cases s with
  | closing rest => cases rest <;> rfl
  | _ => rfl

theorem connecting?_closed (s : Stage γ) : s.closed.connecting? = s.connecting? := by
  cases s with
  | closing rest => cases rest <;> rfl
  | _ => rfl

theorem promised?_closed (s : Stage γ) : s.closed.promised? = s.promised? := by
  cases s with
  | closing rest => cases rest <;> rfl
  | _ => rfl

/-- A call that is over owes nothing. -/
theorem owed_of_isOver {s : Stage γ} (h : s.isOver = true) : s.owed = [] := by
  cases s with
  | closing rest =>
    cases rest with
    | nil => rfl
    | cons => cases h
  | ended => rfl
  | _ => cases h

/-- A call that waits to see something closed is not over. -/
theorem isOver_of_toClose? {s : Stage γ} {old : γ} (h : s.toClose? = some old) :
    s.isOver = false := by
  refine Bool.eq_false_iff.2 fun hover => ?_
  rw [toClose?_eq, owed_of_isOver hover] at h
  cases h

end Stage

namespace ConnectionPool

variable {γ : Type}

/-! ## Calls under way -/

/-- What a call to a pool is for. -/
inductive Errand where
  | obtain (identity : Identity)
  | evict (identity : Identity)
  | closeAll
  deriving DecidableEq, Repr, Inhabited

/-- The first moment of a call. -/
def start (p : ConnectionPool γ) (now : Nat) : Errand → Stage γ × ConnectionPool γ
  | .obtain identity => p.checkOut identity now
  | .evict identity => p.evict identity
  | .closeAll => p.drain

/-- A call that has begun. -/
structure Call (γ : Type) where
  errand : Errand
  stage : Stage γ
  /-- Whether the closing of the connection it waits for has begun. -/
  isClosing : Bool
  deriving Repr, Inhabited

/-- A call at the beginning of a stage. -/
def Call.at (c : Call γ) (stage : Stage γ) : Call γ := ⟨c.errand, stage, false⟩

/-- A pool with the calls to it and what has happened to the connections. -/
structure Traffic (γ : Type) where
  pool : ConnectionPool γ
  calls : List (Call γ)
  /-- The connections that were connected and put into the pool. -/
  inserted : List γ
  /-- The connections whose closing has begun. -/
  begun : List γ
  /-- The connections whose closing has ended, one way or the other. -/
  closed : List γ
  deriving Repr, Inhabited

/-- What a call waits for has come. -/
inductive Move (γ : Type) where
  | make (outcome : Except Failure γ)
  | connect (reply : Reply Unit) (now : Nat)
  | beginClose
  | endClose (outcome : Except Failure Unit)
  deriving Repr, Inhabited

/-- What can happen next. -/
inductive Act (γ : Type) where
  | start (errand : Errand) (now : Nat)
  | move (call : Nat) (move : Move γ)
  deriving Repr, Inhabited

/-- Whether a call begins. -/
def Act.isStart : Act γ → Bool
  | .start .. => true
  | .move .. => false

/-- The connection that is made. -/
def Act.made? : Act γ → Option γ
  | .move _ (.make (.ok fresh)) => some fresh
  | _ => none

namespace Traffic

/-- The traffic with another state of a call. -/
def put (t : Traffic γ) (i : Nat) (call : Call γ) : Traffic γ :=
  { t with calls := t.calls.set i call }

variable [DecidableEq γ]

/-- A call moves on, if that is what it waits for. -/
def move (t : Traffic γ) (i : Nat) (call : Call γ) : Move γ → Traffic γ
  | .make outcome =>
    match call.stage with
    | .making => t.put i (call.at (.made outcome))
    | _ => t
  | .connect reply now =>
    match call.errand, call.stage with
    | .obtain identity, .connecting fresh =>
      let (stage, pool) := t.pool.connected identity fresh reply now
      let connected := (reply.result .connect .connect t.pool.connectTimeout).isOk
      { t.put i (call.at stage) with
        pool, inserted := if connected then fresh :: t.inserted else t.inserted }
    | _, _ => t
  | .beginClose =>
    match call.stage.toClose?, call.isClosing with
    | some old, false =>
      { t.put i { call with isClosing := true } with begun := old :: t.begun }
    | _, _ => t
  | .endClose _ =>
    match call.stage.toClose?, call.isClosing with
    | some old, true =>
      { t.put i (call.at call.stage.closed) with
        closed := old :: t.closed }
    | _, _ => t

/-- The next act. -/
def act (t : Traffic γ) : Act γ → Traffic γ
  | .start errand now =>
    let (stage, pool) := t.pool.start now errand
    { t with pool, calls := t.calls ++ [⟨errand, stage, false⟩] }
  | .move i m =>
    match t.calls[i]? with
    | some call => t.move i call m
    | none => t

/-- A pool without calls after some acts. -/
def ofActs (pool : ConnectionPool γ) (acts : List (Act γ)) : Traffic γ :=
  acts.foldl act ⟨pool, [], [], [], []⟩

end Traffic

/-! ## What one act does -/

namespace Traffic

variable [DecidableEq γ] {t : Traffic γ}

theorem act_move {i : Nat} {call : Call γ} (hcall : t.calls[i]? = some call) (m : Move γ) :
    t.act (.move i m) = t.move i call m := by
  rw [act, hcall]

/-- What an act can do. -/
inductive Step (t : Traffic γ) : Act γ → Traffic γ → Prop where
  /-- The act is not what the call waits for. -/
  | idle {a : Act γ} : Step t a t
  | started (errand : Errand) (now : Nat) :
      Step t (.start errand now)
        { t with
          pool := (t.pool.start now errand).2
          calls := t.calls ++ [⟨errand, (t.pool.start now errand).1, false⟩] }
  | made {i : Nat} {call : Call γ} (hcall : t.calls[i]? = some call)
      (hstage : call.stage = .making) (outcome : Except Failure γ) :
      Step t (.move i (.make outcome)) (t.put i (call.at (.made outcome)))
  | refused {i : Nat} {call : Call γ} {fresh : γ} (hcall : t.calls[i]? = some call)
      (hstage : call.stage = .connecting fresh) (reply : Reply Unit) (now : Nat) (cause : Failure) :
      Step t (.move i (.connect reply now)) (t.put i (call.at (.ended (.error cause))))
  | inserted {i : Nat} {call : Call γ} {fresh : γ} {identity : Identity}
      (hcall : t.calls[i]? = some call) (herrand : call.errand = .obtain identity)
      (hstage : call.stage = .connecting fresh) (reply : Reply Unit) (now : Nat) :
      Step t (.move i (.connect reply now))
        { t.put i (call.at (t.pool.checkIn identity fresh now).1) with
          pool := (t.pool.checkIn identity fresh now).2
          inserted := fresh :: t.inserted }
  | closeBegun {i : Nat} {call : Call γ} {old : γ} (hcall : t.calls[i]? = some call)
      (hclose : call.stage.toClose? = some old) (hclosing : call.isClosing = false) :
      Step t (.move i .beginClose)
        { t.put i { call with isClosing := true } with begun := old :: t.begun }
  | closeEnded {i : Nat} {call : Call γ} {old : γ} (hcall : t.calls[i]? = some call)
      (hclose : call.stage.toClose? = some old) (hclosing : call.isClosing = true)
      (outcome : Except Failure Unit) :
      Step t (.move i (.endClose outcome))
        { t.put i (call.at call.stage.closed) with
          closed := old :: t.closed }

theorem step_act (t : Traffic γ) (a : Act γ) : Step t a (t.act a) := by
  cases a with
  | start errand now => exact .started errand now
  | move i m =>
    cases hcall : t.calls[i]? with
    | none =>
      rw [act, hcall]
      exact .idle
    | some call =>
      rw [act_move hcall]
      cases m with
      | make outcome =>
        simp only [move]
        split
        · next hstage => exact .made hcall hstage outcome
        · exact .idle
      | connect reply now =>
        simp only [move]
        split
        · next identity fresh herrand hstage =>
          unfold connected
          cases reply.result .connect .connect t.pool.connectTimeout with
          | ok => exact .inserted hcall herrand hstage reply now
          | error cause => exact .refused hcall hstage reply now cause
        · exact .idle
      | beginClose =>
        simp only [move]
        split
        · next hclose hclosing => exact .closeBegun hcall hclose hclosing
        · exact .idle
      | endClose outcome =>
        simp only [move]
        split
        · next hclose hclosing => exact .closeEnded hcall hclose hclosing outcome
        · exact .idle

end Traffic

/-! ## Accounts -/

/-- The connections in a pool. -/
def connections (p : ConnectionPool γ) : List γ :=
  p.entries.entries.map (·.2.connection)

/-- What the beginning of a call takes out of the pool is what the call owes. -/
theorem perm_start {p : ConnectionPool γ} (h : p.entries.Sound) (now : Nat) (errand : Errand) :
    ((p.start now errand).1.owed ++ (p.start now errand).2.connections).Perm p.connections := by
  have hout {identity : Identity} {pooled : Pooled γ}
      (hfind : p.entries.find? identity = some pooled) :
      (pooled.connection :: (p.entries.erase identity).entries.map (·.2.connection)).Perm
        p.connections :=
    (Recent.perm_erase h.distinct hfind).map fun entry : Identity × Pooled γ => entry.2.connection
  cases errand with
  | obtain identity =>
    simp only [start, checkOut]
    cases hfind : p.entries.find? identity with
    | none => exact List.Perm.refl _
    | some pooled =>
      by_cases hidle : p.isIdle pooled now = true
      · simp only [hidle, if_true]
        exact hout hfind
      · simp only [hidle]
        have hput : (p.entries.put identity { pooled with lastUsed := now }).1
            = some (identity, pooled) := by rw [Recent.put, hfind]
        have hperm := (Recent.perm_put h identity { pooled with lastUsed := now }).map
          (·.2.connection)
        rw [hput] at hperm
        exact hperm.cons_inv
  | evict identity =>
    simp only [start, evict]
    cases hfind : p.entries.find? identity with
    | none =>
      rw [Recent.erase_of_find?_eq_none hfind]
      exact List.Perm.refl _
    | some pooled => exact hout hfind
  | closeAll =>
    simp only [start, drain, Recent.drain, Stage.owed, connections, List.map_nil, List.append_nil]
    exact (List.reverse_perm _).map _

theorem connecting?_start (p : ConnectionPool γ) (now : Nat) (errand : Errand) :
    (p.start now errand).1.connecting? = none := by
  cases errand with
  | obtain identity =>
    simp only [start, checkOut]
    split
    · rfl
    · split <;> rfl
  | evict | closeAll => rfl

theorem sound_start {p : ConnectionPool γ} (h : p.entries.Sound) (now : Nat) (errand : Errand) :
    (p.start now errand).2.entries.Sound
      ∧ (p.start now errand).2.entries.capacity = p.entries.capacity := by
  cases errand with
  | obtain identity =>
    simp only [start, checkOut]
    split
    · exact ⟨h, rfl⟩
    · split
      · exact ⟨Recent.sound_erase h _, rfl⟩
      · exact ⟨Recent.sound_put h _ _, Recent.capacity_put ..⟩
  | evict identity => exact ⟨Recent.sound_erase h _, rfl⟩
  | closeAll => exact ⟨Recent.sound_drain h, rfl⟩

variable [DecidableEq γ]

/-- A fresh connection goes into the pool, and what has to go for it is owed. -/
theorem perm_checkIn {p : ConnectionPool γ} (h : p.entries.Sound) (identity : Identity) {fresh : γ}
    (hfresh : fresh ∉ p.connections) (now : Nat) :
    ((p.checkIn identity fresh now).1.owed ++ (p.checkIn identity fresh now).2.connections).Perm
      (fresh :: p.connections) := by
  have hperm := (Recent.perm_put h identity ⟨fresh, now⟩).map (·.2.connection)
  have hdisplaced {gone : Identity × Pooled γ}
      (hgone : (p.entries.put identity ⟨fresh, now⟩).1 = some gone) :
      gone.2.connection ≠ fresh := by
    intro heq
    have hmem := Recent.mem_of_find? (Recent.displaced_of_put h hgone).1
    exact hfresh (heq ▸ List.mem_map.2 ⟨_, hmem, rfl⟩)
  unfold checkIn
  cases hput : p.entries.put identity ⟨fresh, now⟩ with
  | mk displaced entries =>
    rw [hput] at hperm hdisplaced
    cases displaced with
    | none => exact hperm
    | some gone =>
      simp only [hdisplaced rfl, if_false]
      exact hperm

theorem connecting?_checkIn (p : ConnectionPool γ) (identity : Identity) (fresh : γ) (now : Nat) :
    (p.checkIn identity fresh now).1.connecting? = none := by
  simp only [checkIn]
  split
  · split <;> rfl
  · rfl

/-- It is what the call is going to hand out. -/
theorem promised?_checkIn (p : ConnectionPool γ) (identity : Identity) (fresh : γ) (now : Nat) :
    (p.checkIn identity fresh now).1.promised? = some fresh := by
  simp only [checkIn]
  split
  · split <;> rfl
  · rfl

/-- The connections whose closing is under way. -/
def Call.underway (c : Call γ) : List γ :=
  if c.isClosing then c.stage.toClose?.toList else []

omit [DecidableEq γ] in
/-- Only what is owed is being closed. -/
theorem Call.underway_sublist (c : Call γ) : c.underway.Sublist c.stage.owed := by
  unfold underway
  split
  · rw [Stage.toClose?_eq]
    cases c.stage.owed with
    | nil => exact .slnil
    | cons old rest => exact .cons_cons old (List.nil_sublist rest)
  · exact List.nil_sublist _

namespace Traffic

/-- The connections that calls have yet to see closed. -/
def owed (t : Traffic γ) : List γ := t.calls.flatMap (·.stage.owed)

/-- The connections that calls are connecting. -/
def connecting (t : Traffic γ) : List γ := t.calls.flatMap (·.stage.connecting?.toList)

/-- The connections that calls are closing. -/
def underway (t : Traffic γ) : List γ := t.calls.flatMap (·.underway)

/-- The accounts of a run in which some connections were made. -/
structure Tidy (capacity : Nat) (made : List γ) (t : Traffic γ) : Prop where
  capacity_eq : t.pool.entries.capacity = capacity
  sound : t.pool.entries.Sound
  /-- What was put into the pool is there, or owed, or closed. -/
  placed : ∀ g, t.pool.connections.count g + t.owed.count g + t.closed.count g = t.inserted.count g
  /-- What was put into the pool, or is being connected, was made. -/
  made : ∀ g, t.connecting.count g + t.inserted.count g ≤ made.count g
  /-- A closing that was begun has ended or is under way. -/
  begun : ∀ g, t.begun.count g = t.closed.count g + t.underway.count g

variable {t : Traffic γ} {capacity : Nat} {made : List γ}

theorem tidy_new (hcapacity : 1 ≤ capacity) (idleTtl connectTimeout : Nat) :
    Tidy capacity ([] : List γ) ⟨ofCapacity capacity idleTtl connectTimeout, [], [], [], []⟩ where
  capacity_eq := Nat.max_eq_left hcapacity
  sound := Recent.sound_ofCapacity capacity
  placed _ := rfl
  made _ := Nat.le_refl _
  begun _ := rfl

/-- What is being connected is not in the pool. -/
theorem Tidy.fresh_not_mem (h : t.Tidy capacity made) (hmade : made.Nodup) {i : Nat} {call : Call γ}
    {fresh : γ} (hcall : t.calls[i]? = some call) (hstage : call.stage = .connecting fresh) :
    fresh ∉ t.pool.connections := by
  have hconnecting : fresh ∈ t.connecting :=
    List.mem_flatMap.2 ⟨call, List.mem_of_getElem? hcall, by simp [hstage, Stage.connecting?]⟩
  have hpos := List.count_pos_iff.2 hconnecting
  have hmade := Nat.le_trans (h.made fresh) (List.nodup_iff_count_le_one.1 hmade fresh)
  have hplaced := h.placed fresh
  rw [← List.count_eq_zero]
  omega

/-- The accounts stay in order when one call moves on, if they do for that call alone. -/
theorem Tidy.put (h : t.Tidy capacity made) {t' : Traffic γ} {made' : List γ} {i : Nat}
    {call call' : Call γ} (hcall : t.calls[i]? = some call)
    (hcalls : t'.calls = t.calls.set i call') (hcapacity : t'.pool.entries.capacity = capacity)
    (hsound : t'.pool.entries.Sound)
    (hplaced : ∀ g, t'.pool.connections.count g + call'.stage.owed.count g + t'.closed.count g
        + t.inserted.count g
      = t.pool.connections.count g + call.stage.owed.count g + t.closed.count g
        + t'.inserted.count g)
    (hmade : ∀ g, call'.stage.connecting?.toList.count g + t'.inserted.count g + made.count g
      ≤ call.stage.connecting?.toList.count g + t.inserted.count g + made'.count g)
    (hbegun : ∀ g, t'.begun.count g + t.closed.count g + call.underway.count g
      = t.begun.count g + t'.closed.count g + call'.underway.count g) :
    t'.Tidy capacity made' := by
  refine ⟨hcapacity, hsound, fun g => ?_, fun g => ?_, fun g => ?_⟩
  · have hset := count_flatMap_set hcall call' (·.stage.owed) g
    rw [owed, hcalls]
    have hbefore := h.placed g
    have hlocal := hplaced g
    rw [owed] at hbefore
    omega
  · have hset := count_flatMap_set hcall call' (·.stage.connecting?.toList) g
    rw [connecting, hcalls]
    have hbefore := h.made g
    have hlocal := hmade g
    rw [connecting] at hbefore
    omega
  · have hset := count_flatMap_set hcall call' (·.underway) g
    rw [underway, hcalls]
    have hbefore := h.begun g
    have hlocal := hbegun g
    rw [underway] at hbefore
    omega

/-- The accounts stay in order when something happens. -/
theorem Tidy.act (h : t.Tidy capacity made) (a : Act γ) (hmade : (made ++ a.made?.toList).Nodup) :
    (t.act a).Tidy capacity (made ++ a.made?.toList) := by
  have hstep := step_act t a
  generalize t.act a = t' at hstep ⊢
  cases hstep with
  | idle =>
    refine ⟨h.capacity_eq, h.sound, h.placed, fun g => ?_, h.begun⟩
    rw [List.count_append]
    exact Nat.le_add_right_of_le (h.made g)
  | started errand now =>
    obtain ⟨hsound, hcapacity⟩ := sound_start h.sound now errand
    refine ⟨hcapacity.trans h.capacity_eq, hsound, fun g => ?_, fun g => ?_, fun g => ?_⟩
    · have hcount := (perm_start h.sound now errand).count_eq g
      have hplaced := h.placed g
      simp only [owed, List.flatMap_append, List.flatMap_singleton, List.count_append] at *
      omega
    · simpa [connecting, connecting?_start, Act.made?] using h.made g
    · simpa [underway, Call.underway] using h.begun g
  | made hcall hstage outcome =>
    refine h.put hcall rfl h.capacity_eq h.sound (fun g => ?_) (fun g => ?_) fun g => ?_
    · cases outcome <;> simp [hstage, Traffic.put, Stage.made, Call.at, Stage.owed]
    · cases outcome <;>
        simp [hstage, Traffic.put, Call.at, Stage.made, Stage.connecting?, Act.made?]
      omega
    · cases outcome <;>
        simp [hstage, Traffic.put, Call.at, Stage.made, Call.underway, Stage.toClose?]
  | refused hcall hstage reply now cause =>
    refine h.put hcall rfl h.capacity_eq h.sound (fun g => ?_) (fun g => ?_) fun g => ?_
    · simp [hstage, Traffic.put, Call.at, Stage.owed]
    · simp [hstage, Traffic.put, Call.at, Stage.connecting?, Act.made?]
    · simp [hstage, Traffic.put, Call.at, Call.underway, Stage.toClose?]
  | @inserted i call fresh identity hcall herrand hstage reply now =>
    have hmade' : made.Nodup := hmade.of_append_left
    have hperm := perm_checkIn h.sound identity (h.fresh_not_mem hmade' hcall hstage) now
    refine h.put hcall rfl ((Recent.capacity_put ..).trans h.capacity_eq)
      (Recent.sound_put h.sound _ _) (fun g => ?_) (fun g => ?_) fun g => ?_
    · have hcount := hperm.count_eq g
      simp [hstage, Traffic.put, Call.at, Stage.owed, List.count_cons] at hcount ⊢
      omega
    · have hnone : (call.at (t.pool.checkIn identity fresh now).1).stage.connecting? = none :=
        connecting?_checkIn ..
      rw [hnone, hstage]
      simp [Stage.connecting?, Act.made?, List.count_cons]
      omega
    · simp [hstage, Traffic.put, Call.at, Call.underway, Stage.toClose?]
  | closeBegun hcall hclose hclosing =>
    refine h.put hcall rfl h.capacity_eq h.sound (fun g => ?_) (fun g => ?_) fun g => ?_
    · rfl
    · simp [Traffic.put, Act.made?]
    · simp [Traffic.put, Call.underway, hclose, hclosing, List.count_cons]
      omega
  | @closeEnded i call old hcall hclose hclosing =>
    have howed : call.stage.owed = old :: call.stage.closed.owed := by
      rw [Stage.toClose?_eq] at hclose
      rw [Stage.owed_closed, List.cons_head?_tail hclose]
    refine h.put hcall rfl h.capacity_eq h.sound (fun g => ?_) (fun g => ?_) fun g => ?_
    · simp [Traffic.put, Call.at, howed, List.count_cons]
      omega
    · simp [Traffic.put, Call.at, Stage.connecting?_closed, Act.made?]
    · simp [Traffic.put, Call.at, Call.underway, hclose, hclosing, List.count_cons]
      omega

/-- The accounts are in order at every point of a run. -/
theorem tidy_ofActs (hcapacity : 1 ≤ capacity) (idleTtl connectTimeout : Nat) (acts : List (Act γ))
    (hfresh : (acts.filterMap Act.made?).Nodup) :
    (ofActs (ofCapacity capacity idleTtl connectTimeout) acts).Tidy capacity
      (acts.filterMap Act.made?) := by
  induction acts using List.reverseRecOn with
  | nil => exact tidy_new hcapacity idleTtl connectTimeout
  | append_singleton acts a ih =>
    have hlast : [a].filterMap Act.made? = a.made?.toList := by
      cases hmade : a.made? <;> simp [hmade]
    rw [List.filterMap_append, hlast] at hfresh ⊢
    rw [ofActs, List.foldl_concat]
    exact (ih hfresh.of_append_left).act a hfresh

end Traffic

end ConnectionPool

end Pushdown
