import Pushdown.Proofs.Connection.Traffic

/-!
# Who closes a connection

What the accounts of a run of calls say of each connection: no closing is begun twice, a pooled
connection is open, and of those that left the pool every one is closed by the call that took it
out. A call that has the pool to itself (`Traffic.Alone`) leaves what it hands out in the pool, and
`ConnectionPool.obtain` is a run of such a call (`Traffic.obtain_alone`).
`ConnectionPool.closes_once` puts this together.
-/

namespace Pushdown.ConnectionPool

variable {γ : Type} [DecidableEq γ]

namespace Traffic

variable {t : Traffic γ} {capacity : Nat} {made : List γ}

/-! ## What the accounts say -/

/-- A call has yet to see a connection closed. -/
def Owes (t : Traffic γ) (i : Nat) (g : γ) : Prop :=
  ∃ call, t.calls[i]? = some call ∧ g ∈ call.stage.owed

omit [DecidableEq γ] in
theorem mem_owed_iff {g : γ} : g ∈ t.owed ↔ ∃ i, t.Owes i g := by
  rw [owed, List.mem_flatMap]
  constructor
  · rintro ⟨call, hmem, howed⟩
    obtain ⟨i, hcall⟩ := List.mem_iff_getElem?.1 hmem
    exact ⟨i, call, hcall, howed⟩
  · rintro ⟨i, call, hcall, howed⟩
    exact ⟨call, List.mem_of_getElem? hcall, howed⟩

theorem count_underway_le (t : Traffic γ) (g : γ) : t.underway.count g ≤ t.owed.count g :=
  (List.Sublist.flatMap_right t.calls fun call _ => call.underway_sublist).count_le g

theorem Tidy.inserted_le_one (h : t.Tidy capacity made) (hmade : made.Nodup) (g : γ) :
    t.inserted.count g ≤ 1 := by
  have hle := h.made g
  have hone := List.nodup_iff_count_le_one.1 hmade g
  omega

/-- No closing is begun twice. -/
theorem Tidy.begun_le_one (h : t.Tidy capacity made) (hmade : made.Nodup) (g : γ) :
    t.begun.count g ≤ 1 := by
  have hbegun := h.begun g
  have hplaced := h.placed g
  have hunderway := count_underway_le t g
  have hone := h.inserted_le_one hmade g
  omega

/-- No closing of a connection in the pool is begun. -/
theorem Tidy.not_begun (h : t.Tidy capacity made) (hmade : made.Nodup) {g : γ}
    (hpooled : g ∈ t.pool.connections) : g ∉ t.begun := by
  have hpos := List.count_pos_iff.2 hpooled
  have hbegun := h.begun g
  have hplaced := h.placed g
  have hunderway := count_underway_le t g
  have hone := h.inserted_le_one hmade g
  rw [← List.count_eq_zero]
  omega

/-- A connection that was put into the pool is there, or one call owes its closing, or it is
closed. -/
theorem Tidy.whereabouts (h : t.Tidy capacity made) (hmade : made.Nodup) {g : γ}
    (hinserted : g ∈ t.inserted) :
    (g ∈ t.pool.connections ∧ (∀ i, ¬ t.Owes i g) ∧ g ∉ t.closed)
      ∨ (g ∉ t.pool.connections ∧ (∃! i, t.Owes i g) ∧ g ∉ t.closed)
      ∨ (g ∉ t.pool.connections ∧ (∀ i, ¬ t.Owes i g) ∧ g ∈ t.closed) := by
  have hpos := List.count_pos_iff.2 hinserted
  have hplaced := h.placed g
  have hone := h.inserted_le_one hmade g
  have hnobody : t.owed.count g = 0 → ∀ i, ¬ t.Owes i g := fun hzero i howes =>
    List.count_eq_zero.1 hzero (mem_owed_iff.2 ⟨i, howes⟩)
  have hcases : (t.pool.connections.count g = 1 ∧ t.owed.count g = 0 ∧ t.closed.count g = 0)
      ∨ (t.pool.connections.count g = 0 ∧ t.owed.count g = 1 ∧ t.closed.count g = 0)
      ∨ (t.pool.connections.count g = 0 ∧ t.owed.count g = 0 ∧ t.closed.count g = 1) := by
    omega
  obtain ⟨hin, howed, hclosed⟩ | ⟨hin, howed, hclosed⟩ | ⟨hin, howed, hclosed⟩ := hcases
  · refine .inl ⟨List.count_pos_iff.1 (by omega), hnobody howed, List.count_eq_zero.1 hclosed⟩
  · refine .inr (.inl ⟨List.count_eq_zero.1 hin, ?_, List.count_eq_zero.1 hclosed⟩)
    have howed' : g ∈ t.owed := List.count_pos_iff.1 (by omega)
    obtain ⟨i, call, hcall, hmem⟩ := mem_owed_iff.1 howed'
    refine ⟨i, ⟨call, hcall, hmem⟩, ?_⟩
    rintro j ⟨call', hcall', hmem'⟩
    exact index_eq_of_count_flatMap (Nat.le_of_eq howed) hcall' hcall hmem' hmem
  · exact .inr (.inr ⟨List.count_eq_zero.1 hin, hnobody howed, List.count_pos_iff.1 (by omega)⟩)

/-! ## When all is closed -/

/-- No call is under way. -/
def IsQuiet (t : Traffic γ) : Prop := ∀ call ∈ t.calls, call.stage.isOver = true

instance (t : Traffic γ) : Decidable t.IsQuiet :=
  inferInstanceAs (Decidable (∀ call ∈ t.calls, call.stage.isOver = true))

omit [DecidableEq γ] in
theorem IsQuiet.owed_eq (h : t.IsQuiet) : t.owed = [] :=
  List.flatMap_eq_nil_iff.2 fun call hcall => Stage.owed_of_isOver (h call hcall)

/-- An empty pool stays empty as long as nothing is put into it. -/
theorem empty_act (t : Traffic γ) (a : Act γ) :
    t.inserted.length ≤ (t.act a).inserted.length
      ∧ ((t.act a).inserted.length = t.inserted.length → t.pool.entries.entries = [] →
        (t.act a).pool.entries.entries = []) := by
  have hstep := step_act t a
  generalize t.act a = t' at hstep ⊢
  cases hstep with
  | started errand now =>
    refine ⟨Nat.le_refl _, fun _ hempty => ?_⟩
    cases errand with
    | obtain identity =>
      have hnone : t.pool.entries.find? identity = none := by rw [Recent.find?, hempty]; rfl
      simpa [start, checkOut, hnone] using hempty
    | evict identity => simp [start, evict, Recent.erase, hempty]
    | closeAll => rfl
  | inserted => exact ⟨Nat.le_succ _, fun heq => absurd heq (Nat.succ_ne_self _)⟩
  | idle | made | refused | closeBegun | closeEnded => exact ⟨Nat.le_refl _, fun _ => id⟩

theorem empty_foldl (t : Traffic γ) (acts : List (Act γ)) :
    t.inserted.length ≤ (acts.foldl act t).inserted.length
      ∧ ((acts.foldl act t).inserted.length = t.inserted.length → t.pool.entries.entries = [] →
        (acts.foldl act t).pool.entries.entries = []) := by
  induction acts using List.reverseRecOn with
  | nil => exact ⟨Nat.le_refl _, fun _ => id⟩
  | append_singleton acts a ih =>
    rw [List.foldl_concat]
    obtain ⟨hle, hempty⟩ := ih
    obtain ⟨hle', hempty'⟩ := empty_act (acts.foldl act t) a
    exact ⟨Nat.le_trans hle hle', fun heq hnil => hempty' (by omega) (hempty (by omega) hnil)⟩

/-- With the pool emptied and no call under way, what was put into it is closed. -/
theorem Tidy.closed_eq_one (h : t.Tidy capacity made) (hmade : made.Nodup) (hquiet : t.IsQuiet)
    (hempty : t.pool.entries.entries = []) {g : γ} (hinserted : g ∈ t.inserted) :
    t.begun.count g = 1 ∧ t.closed.count g = 1 := by
  have hpos := List.count_pos_iff.2 hinserted
  have hone := h.inserted_le_one hmade g
  have hbegun := h.begun g
  have hplaced := h.placed g
  have hunderway := count_underway_le t g
  have hpool : t.pool.connections = [] := by rw [connections, hempty]; rfl
  rw [hquiet.owed_eq, List.count_nil] at hplaced hunderway
  rw [hpool, List.count_nil] at hplaced
  omega

/-! ## A request that has the pool to itself -/

/-- Only one call is under way, a request for the connection of an identity, and what it is going to
hand out is in the pool. -/
structure Alone (identity : Identity) (n : Nat) (t : Traffic γ) : Prop where
  others : ∀ i call, t.calls[i]? = some call → i ≠ n → call.stage.isOver = true
  own : ∃ call, t.calls[n]? = some call ∧ call.errand = .obtain identity
    ∧ ∀ g, call.stage.promised? = some g →
      (t.pool.entries.find? identity).map (·.connection) = some g

variable {identity : Identity} {n : Nat}

omit [DecidableEq γ] in
/-- What a request finds is in the pool. -/
theorem find?_of_promised?_checkOut {p : ConnectionPool γ} {now : Nat} {g : γ}
    (h : (p.checkOut identity now).1.promised? = some g) :
    ((p.checkOut identity now).2.entries.find? identity).map (·.connection) = some g := by
  simp only [checkOut] at h ⊢
  cases hfind : p.entries.find? identity with
  | none =>
    rw [hfind] at h
    cases h
  | some pooled =>
    rw [hfind] at h
    by_cases hidle : p.isIdle pooled now = true
    · simp [hidle, Stage.promised?] at h
    · simpa [hidle, Stage.promised?] using h

theorem alone_start (hquiet : t.IsQuiet) (identity : Identity) (now : Nat) :
    (t.act (.start (.obtain identity) now)).Alone identity t.calls.length where
  others i call hcall hne := by
    have hcall : (t.calls ++ [⟨.obtain identity, (t.pool.checkOut identity now).1, false⟩])[i]?
      = some call := hcall
    rw [List.getElem?_append] at hcall
    split at hcall
    · exact hquiet call (List.mem_of_getElem? hcall)
    · next hge =>
      have hout : [(⟨.obtain identity, (t.pool.checkOut identity now).1, false⟩ : Call γ)].length
          ≤ i - t.calls.length := by
        rw [List.length_singleton]
        omega
      rw [List.getElem?_eq_none hout] at hcall
      cases hcall
  own := ⟨_, List.getElem?_concat_length, rfl, fun _ => find?_of_promised?_checkOut⟩

omit [DecidableEq γ] in
/-- The request moves on by itself. -/
theorem Alone.put (h : t.Alone identity n) {t' : Traffic γ} {call call' : Call γ}
    (hcall : t.calls[n]? = some call) (hcalls : t'.calls = t.calls.set n call')
    (herrand : call'.errand = .obtain identity)
    (hpromised : ∀ g, call'.stage.promised? = some g →
      (t'.pool.entries.find? identity).map (·.connection) = some g) :
    t'.Alone identity n := by
  have hlt := (List.getElem?_eq_some_iff.1 hcall).1
  refine ⟨fun i other hother hne => ?_, call', ?_, herrand, hpromised⟩
  · rw [hcalls, List.getElem?_set_ne (Ne.symm hne)] at hother
    exact h.others i other hother hne
  · rw [hcalls, List.getElem?_set_self hlt]

/-- Nothing but the request moves on. -/
theorem Alone.move (h : t.Alone identity n) (i : Nat) (m : Move γ) :
    (t.act (.move i m)).Alone identity n := by
  have hstep := step_act t (.move i m)
  generalize t.act (.move i m) = t' at hstep ⊢
  obtain ⟨own, hown, herrand, hpromised⟩ := h.own
  have hi {call : Call γ} (hcall : t.calls[i]? = some call) (hbusy : call.stage.isOver = false) :
      i = n ∧ call = own := by
    have heq : i = n := by
      by_contra hne
      rw [h.others i call hcall hne] at hbusy
      cases hbusy
    subst heq
    exact ⟨rfl, Option.some.inj (hcall.symm.trans hown)⟩
  cases hstep with
  | idle => exact h
  | made hcall hstage outcome =>
    obtain ⟨rfl, rfl⟩ := hi hcall (by rw [hstage]; rfl)
    exact h.put hown rfl herrand (by cases outcome <;> exact nofun)
  | refused hcall hstage =>
    obtain ⟨rfl, rfl⟩ := hi hcall (by rw [hstage]; rfl)
    exact h.put hown rfl herrand nofun
  | @inserted _ call fresh identity' hcall herrand' hstage reply now =>
    obtain ⟨rfl, rfl⟩ := hi hcall (by rw [hstage]; rfl)
    cases herrand.symm.trans herrand'
    refine h.put hown rfl herrand fun g hg => ?_
    cases (promised?_checkIn ..).symm.trans hg
    exact congrArg (Option.map _) (Recent.find?_put_self ..)
  | closeBegun hcall hclose =>
    obtain ⟨rfl, rfl⟩ := hi hcall (Stage.isOver_of_toClose? hclose)
    exact h.put hown rfl herrand hpromised
  | closeEnded hcall hclose =>
    obtain ⟨rfl, rfl⟩ := hi hcall (Stage.isOver_of_toClose? hclose)
    refine h.put hown rfl herrand fun g hg => hpromised g ?_
    exact (Stage.promised?_closed _).symm.trans hg

theorem Alone.foldl (h : t.Alone identity n) {acts : List (Act γ)}
    (hmoves : ∀ a ∈ acts, a.isStart = false) : (acts.foldl act t).Alone identity n := by
  induction acts generalizing t with
  | nil => exact h
  | cons a acts ih =>
    obtain ⟨ha, hacts⟩ := List.forall_mem_cons.1 hmoves
    cases a with
    | start => cases ha
    | move i m => exact ih (h.move i m) hacts

/-- A request runs as it should: what it has to close is closed, and if it has to make a connection,
that is made and connected. -/
def smoothly (n : Nat) (fresh : γ) (now : Nat) : List (Act γ) :=
  [.move n .beginClose, .move n (.endClose (.ok ())), .move n (.make (.ok fresh)),
    .move n (.connect (.answered (.ok ())) now), .move n .beginClose,
    .move n (.endClose (.ok ()))]

/-- A call that is over does not move on. -/
theorem act_of_isOver {call : Call γ} (hcall : t.calls[n]? = some call)
    (hover : call.stage.isOver = true) (m : Move γ) : t.act (.move n m) = t := by
  have hstep := step_act t (.move n m)
  generalize t.act (.move n m) = t' at hstep ⊢
  have hbusy {call' : Call γ} (hcall' : t.calls[n]? = some call') : call'.stage.isOver ≠ false := by
    rw [← Option.some.inj (hcall.symm.trans hcall'), hover]
    decide
  cases hstep with
  | idle => rfl
  | made hcall' hstage | refused hcall' hstage | inserted hcall' _ hstage =>
    exact absurd (by rw [hstage]; rfl) (hbusy hcall')
  | closeBegun hcall' hclose | closeEnded hcall' hclose =>
    exact absurd (Stage.isOver_of_toClose? hclose) (hbusy hcall')

/-- A call sees closed what it waits for, if anything, which is nothing to the pool. -/
theorem close_spec {errand : Errand} {stage : Stage γ}
    (hcall : t.calls[n]? = some ⟨errand, stage, false⟩) :
    ((t.act (.move n .beginClose)).act (.move n (.endClose (.ok ())))).calls[n]?
        = some ⟨errand, stage.closed, false⟩
      ∧ ((t.act (.move n .beginClose)).act (.move n (.endClose (.ok ())))).pool = t.pool := by
  have hlt := (List.getElem?_eq_some_iff.1 hcall).1
  cases hclose : stage.toClose? with
  | none =>
    have hclosed : stage.closed = stage := by
      cases stage with
      | closing rest =>
        cases rest with
        | nil => rfl
        | cons => cases hclose
      | making | connecting | ended => rfl
      | closingIdle | closingDisplaced => cases hclose
    have hbegin : t.act (.move n .beginClose) = t := by
      rw [act_move hcall]
      simp only [move, hclose]
    have hend : t.act (.move n (.endClose (.ok ()))) = t := by
      rw [act_move hcall]
      simp only [move, hclose]
    rw [hbegin, hend, hclosed]
    exact ⟨hcall, rfl⟩
  | some old =>
    have hbegun : t.act (.move n .beginClose)
        = { t.put n ⟨errand, stage, true⟩ with begun := old :: t.begun } := by
      rw [act_move hcall]
      simp only [move, hclose]
    have hcall' : (t.act (.move n .beginClose)).calls[n]? = some ⟨errand, stage, true⟩ := by
      rw [hbegun]
      exact List.getElem?_set_self hlt
    rw [act_move hcall']
    simp only [move, hclose, hbegun, put, Call.at, List.set_set]
    exact ⟨List.getElem?_set_self hlt, trivial⟩

/-- A request that runs as it should hands out a connection. -/
theorem ended_smoothly (p : ConnectionPool γ) (since : Nat)
    (hcall : t.calls[n]? = some ⟨.obtain identity, (p.checkOut identity since).1, false⟩)
    (fresh : γ) (now : Nat) :
    ∃ call g, ((smoothly n fresh now).foldl act t).calls[n]? = some call
      ∧ call.stage = .ended (.ok g) := by
  have hcheckOut : (p.checkOut identity since).1.closed = .making
      ∨ ∃ g, (p.checkOut identity since).1.closed = .ended (.ok g) := by
    simp only [checkOut]
    split
    · exact .inl rfl
    · split
      · exact .inl rfl
      · exact .inr ⟨_, rfl⟩
  have hclosed := (close_spec hcall).1
  simp only [smoothly, List.foldl_cons, List.foldl_nil]
  generalize (t.act (.move n .beginClose)).act (.move n (.endClose (.ok ()))) = t at hclosed ⊢
  obtain hmaking | ⟨g, hended⟩ := hcheckOut
  · have hlt := (List.getElem?_eq_some_iff.1 hclosed).1
    have hmade : (t.act (.move n (.make (.ok fresh)))).calls[n]?
        = some ⟨.obtain identity, .connecting fresh, false⟩ := by
      rw [act_move hclosed]
      simp only [move, hmaking, put, Call.at, Stage.made, List.getElem?_set_self hlt]
    generalize t.act (.move n (.make (.ok fresh))) = t at hmade ⊢
    have hlt := (List.getElem?_eq_some_iff.1 hmade).1
    have hconnected : (t.act (.move n (.connect (.answered (.ok ())) now))).calls[n]?
        = some ⟨.obtain identity, (t.pool.checkIn identity fresh now).1, false⟩ := by
      rw [act_move hmade]
      simp only [move, put, Call.at, connected, Reply.result, List.getElem?_set_self hlt]
    have hcheckIn : (t.pool.checkIn identity fresh now).1.closed = .ended (.ok fresh) := by
      simp only [checkIn]
      split
      · split <;> rfl
      · rfl
    exact ⟨_, fresh, (close_spec hconnected).1, hcheckIn⟩
  · have hover : (⟨.obtain identity, (p.checkOut identity since).1.closed, false⟩
        : Call γ).stage.isOver = true := by rw [hended]; rfl
    iterate 4 rw [act_of_isOver hclosed hover]
    exact ⟨_, g, hclosed, hended⟩

end Traffic

/-! ## A request as it is run -/

/-- A request takes what it finds in the pool and then advances four times. -/
theorem run_obtain (effects : PoolEffects Id γ) (identity : Identity) (p : ConnectionPool γ) :
    (obtain effects identity).run p
      = (advance effects identity (p.checkOut identity (effects.now : Id _)).1 >>=
          advance effects identity >>= advance effects identity >>= advance effects identity >>=
          fun stage => match stage with
            | .ended result => pure result
            | _ => pure (.error (.interrupted .connect)) : StateT (ConnectionPool γ) Id _).run
        (p.checkOut identity (effects.now : Id _)).2 := rfl

/-- How many effects at most a request has before it at a stage, if it can get there. -/
def effectsLeft? : Stage γ → Option Nat
  | .closingIdle _ => some 4
  | .making => some 3
  | .connecting _ => some 2
  | .closingDisplaced _ _ => some 1
  | .ended _ => some 0
  | .closing _ => none

omit [DecidableEq γ] in
theorem effectsLeft?_checkOut (p : ConnectionPool γ) (identity : Identity) (now : Nat) :
    ∃ left ≤ 4, effectsLeft? (p.checkOut identity now).1 = some left := by
  simp only [checkOut]
  split
  · exact ⟨3, by decide, rfl⟩
  · split
    · exact ⟨4, Nat.le_refl 4, rfl⟩
    · exact ⟨0, by decide, rfl⟩

theorem effectsLeft?_connected (p : ConnectionPool γ) (identity : Identity) (fresh : γ)
    (reply : Reply Unit) (now : Nat) :
    ∃ left ≤ 1, effectsLeft? (p.connected identity fresh reply now).1 = some left := by
  simp only [connected, checkIn]
  split
  · split
    · split
      · exact ⟨0, Nat.zero_le 1, rfl⟩
      · exact ⟨1, Nat.le_refl 1, rfl⟩
    · exact ⟨0, Nat.zero_le 1, rfl⟩
  · exact ⟨0, Nat.zero_le 1, rfl⟩

namespace Traffic

/-- A request at a stage advances by an effect as it moves on from one traffic to another. -/
def Advances (effects : PoolEffects Id γ) (identity : Identity) (n : Nat) (t : Traffic γ)
    (stage : Stage γ) (t' : Traffic γ) (stage' : Stage γ) : Prop :=
  (advance effects identity stage).run t.pool = (pure (stage', t'.pool) : Id _)
    ∧ t'.calls[n]? = some ⟨.obtain identity, stage', false⟩

/-- A request that sees something closed, or has nothing left to do, advances to what it is then. -/
theorem advances_close {effects : PoolEffects Id γ} {stage : Stage γ}
    (hcall : t.calls[n]? = some ⟨.obtain identity, stage, false⟩)
    (hadvance : (advance effects identity stage).run t.pool
      = (pure (stage.closed, t.pool) : Id _)) :
    Advances effects identity n t stage
      ((t.act (.move n .beginClose)).act (.move n (.endClose (.ok ())))) stage.closed := by
  obtain ⟨hclosed, hpool⟩ := close_spec hcall
  refine ⟨?_, hclosed⟩
  rw [hadvance, hpool]

/-- Whatever a request advances by is something that it can move on by. -/
theorem exists_advances (effects : PoolEffects Id γ) {stage : Stage γ} {k : Nat}
    (hcall : t.calls[n]? = some ⟨.obtain identity, stage, false⟩)
    (hleft : ∃ left ≤ k + 1, effectsLeft? stage = some left) :
    ∃ (moves : List (Move γ)) (stage' : Stage γ),
      Advances effects identity n t stage ((moves.map (Act.move n)).foldl act t) stage'
        ∧ ∃ left ≤ k, effectsLeft? stage' = some left := by
  have hlt := (List.getElem?_eq_some_iff.1 hcall).1
  obtain ⟨left, hle, hleft⟩ := hleft
  cases stage with
  | making =>
    refine ⟨[.make (effects.make : Id _)], .made (effects.make : Id _), ⟨?_, ?_⟩, ?_⟩
    · simp only [List.map_cons, List.map_nil, List.foldl_cons, List.foldl_nil, act_move hcall, move]
      rfl
    · simp only [List.map_cons, List.map_nil, List.foldl_cons, List.foldl_nil, act_move hcall, move]
      exact List.getElem?_set_self hlt
    · cases hleft
      cases (effects.make : Id _) with
      | ok fresh => exact ⟨2, by omega, rfl⟩
      | error cause => exact ⟨0, Nat.zero_le k, rfl⟩
  | connecting fresh =>
    cases hleft
    obtain ⟨left, hconnected, hleft⟩ := effectsLeft?_connected t.pool identity fresh
      (effects.connect fresh t.pool.connectTimeout : Id _) (effects.now : Id _)
    refine ⟨[.connect (effects.connect fresh t.pool.connectTimeout : Id _) (effects.now : Id _)],
      (t.pool.connected identity fresh (effects.connect fresh t.pool.connectTimeout : Id _)
        (effects.now : Id _)).1, ⟨?_, ?_⟩, left, by omega, hleft⟩
    · simp only [List.map_cons, List.map_nil, List.foldl_cons, List.foldl_nil, act_move hcall, move]
      rfl
    · simp only [List.map_cons, List.map_nil, List.foldl_cons, List.foldl_nil, act_move hcall, move,
        put, List.getElem?_set_self hlt]
      rfl
  | closingIdle old =>
    cases hleft
    exact ⟨[.beginClose, .endClose (.ok ())], _, advances_close hcall rfl, 3, by omega, rfl⟩
  | closingDisplaced old fresh =>
    exact ⟨[.beginClose, .endClose (.ok ())], _, advances_close hcall rfl, 0, Nat.zero_le k, rfl⟩
  | ended result =>
    exact ⟨[.beginClose, .endClose (.ok ())], _, advances_close hcall rfl, 0, Nat.zero_le k, rfl⟩
  | closing => cases hleft

/-- A request that is run to its end while nothing else happens is one way for a call to go: it
begins, moves on, and ends with the result and the pool of the run. -/
theorem obtain_alone (effects : PoolEffects Id γ) (identity : Identity) (t : Traffic γ) :
    ∃ (moves : List (Move γ)) (t' : Traffic γ) (result : Except Failure γ),
      t' = (Act.start (.obtain identity) (effects.now : Id _)
          :: moves.map (.move t.calls.length)).foldl act t
        ∧ (obtain effects identity).run t.pool = (pure (result, t'.pool) : Id _)
        ∧ t'.calls[t.calls.length]? = some ⟨.obtain identity, .ended result, false⟩ := by
  have hstart : (t.act (.start (.obtain identity) (effects.now : Id _))).calls[t.calls.length]?
      = some ⟨.obtain identity, (t.pool.checkOut identity (effects.now : Id _)).1, false⟩ :=
    List.getElem?_concat_length
  have hpool : (t.act (.start (.obtain identity) (effects.now : Id _))).pool
      = (t.pool.checkOut identity (effects.now : Id _)).2 := rfl
  obtain ⟨moves₁, stage₁, h₁, hleft₁⟩ := exists_advances effects hstart
    (effectsLeft?_checkOut t.pool identity (effects.now : Id _))
  obtain ⟨moves₂, stage₂, h₂, hleft₂⟩ := exists_advances effects h₁.2 hleft₁
  obtain ⟨moves₃, stage₃, h₃, hleft₃⟩ := exists_advances effects h₂.2 hleft₂
  obtain ⟨moves₄, stage₄, h₄, left, hzero, hleft⟩ := exists_advances effects h₃.2 hleft₃
  obtain ⟨result, rfl⟩ : ∃ result, stage₄ = .ended result := by
    cases stage₄ with
    | ended result => exact ⟨result, rfl⟩
    | making | connecting | closingIdle | closingDisplaced =>
      cases hleft
      omega
    | closing => cases hleft
  refine ⟨moves₁ ++ moves₂ ++ moves₃ ++ moves₄, _, result, rfl, ?_, ?_⟩
  · rw [run_obtain]
    simp only [StateT.run_bind, List.map_append, List.foldl_cons, List.foldl_append]
    rw [← hpool, h₁.1]
    simp only [pure_bind, h₂.1, h₃.1, h₄.1]
    rfl
  · simp only [List.map_append, List.foldl_cons, List.foldl_append]
    exact h₄.2

end Traffic

/-- In any run of any calls to a pool, whatever comes of making, connecting and closing, and with
every connection made anew: the pool holds no more than it has room for and every identity once; no
closing is begun twice, and none of a connection in the pool; a connection that was put into the
pool is there, or exactly one call has yet to see it closed, or it is closed. So once no call is
under way after the pool was emptied for good, every connection that was put into it has been closed
once. A request that has the pool to itself hands out a connection that is in the pool and open, and
hands out one whenever making and connecting go well. -/
theorem closes_once {capacity : Nat} (hcapacity : 1 ≤ capacity) (idleTtl connectTimeout : Nat)
    (acts : List (Act γ)) (hfresh : (acts.filterMap Act.made?).Nodup) :
    let run : List (Act γ) → Traffic γ :=
      Traffic.ofActs (ofCapacity capacity idleTtl connectTimeout)
    let t := run acts
    t.pool.size ≤ capacity ∧ t.pool.entries.keys.Nodup
      ∧ (∀ g, t.begun.count g ≤ 1)
      ∧ (∀ g ∈ t.pool.connections, g ∉ t.begun)
      ∧ (∀ g ∈ t.inserted,
          (g ∈ t.pool.connections ∧ (∀ i, ¬ t.Owes i g) ∧ g ∉ t.closed)
            ∨ (g ∉ t.pool.connections ∧ (∃! i, t.Owes i g) ∧ g ∉ t.closed)
            ∨ (g ∉ t.pool.connections ∧ (∀ i, ¬ t.Owes i g) ∧ g ∈ t.closed))
      ∧ (∀ before now after, acts = before ++ .start .closeAll now :: after →
          t.inserted = (run before).inserted → t.IsQuiet →
          ∀ g ∈ t.inserted, t.begun.count g = 1 ∧ t.closed.count g = 1)
      ∧ (∀ before identity now after, acts = before ++ .start (.obtain identity) now :: after →
          (run before).IsQuiet → (∀ a ∈ after, a.isStart = false) →
          ∀ call g, t.calls[(run before).calls.length]? = some call →
            call.stage = .ended (.ok g) →
            (t.pool.entries.find? identity).map (·.connection) = some g ∧ g ∉ t.begun)
      ∧ (∀ before identity since fresh now,
          acts = before ++ .start (.obtain identity) since
            :: Traffic.smoothly (run before).calls.length fresh now →
          ∃ call g, t.calls[(run before).calls.length]? = some call
            ∧ call.stage = .ended (.ok g)) := by
  intro run t
  have h : t.Tidy capacity (acts.filterMap Act.made?) :=
    Traffic.tidy_ofActs hcapacity idleTtl connectTimeout acts hfresh
  have hrun (before : List (Act γ)) (a : Act γ) (after : List (Act γ))
      (hacts : acts = before ++ a :: after) : t = after.foldl Traffic.act ((run before).act a) := by
    simp only [t, run, Traffic.ofActs, hacts, List.foldl_append, List.foldl_cons]
  refine ⟨h.capacity_eq ▸ h.sound.bounded, h.sound.distinct, h.begun_le_one hfresh,
    fun g => h.not_begun hfresh, fun g => h.whereabouts hfresh, ?_, ?_, ?_⟩
  · intro before now after hacts hsame hquiet g
    refine h.closed_eq_one hfresh hquiet ?_
    rw [hrun before _ after hacts] at hsame ⊢
    exact (Traffic.empty_foldl ((run before).act (.start .closeAll now)) after).2
      (congrArg List.length hsame) rfl
  · intro before identity now after hacts hquiet hmoves call g hcall hended
    have halone : t.Alone identity (run before).calls.length := by
      rw [hrun before _ after hacts]
      exact (Traffic.alone_start hquiet identity now).foldl hmoves
    obtain ⟨own, hown, -, hpromised⟩ := halone.own
    cases hown.symm.trans hcall
    have hfound := hpromised g (by rw [hended]; rfl)
    obtain ⟨pooled, hfind, rfl⟩ := Option.map_eq_some_iff.1 hfound
    exact ⟨hfound, h.not_begun hfresh (List.mem_map.2 ⟨_, Recent.mem_of_find? hfind, rfl⟩)⟩
  · intro before identity since fresh now hacts
    rw [hrun before _ _ hacts]
    exact Traffic.ended_smoothly (run before).pool since List.getElem?_concat_length fresh now

section

/-- Two requests connect for one identity at the same time, and the later connection takes the place
of the earlier one. -/
def racing : List (Act Nat) :=
  [.start (.obtain ⟨"a"⟩) 0, .start (.obtain ⟨"a"⟩) 0, .move 0 (.make (.ok 0)),
    .move 1 (.make (.ok 1)), .move 1 (.connect (.answered (.ok ())) 1),
    .move 0 (.connect (.answered (.ok ())) 2)]

/-- What is closed then, and after the pool is emptied. -/
def closingBoth : List (Act Nat) :=
  [.move 2 .beginClose, .move 0 .beginClose, .move 2 (.endClose (.ok ())),
    .move 0 (.endClose (.ok ()))]

theorem closes_once_racing :
    1 ≤ 1 ∧ ((racing ++ .start .closeAll 3 :: closingBoth).filterMap Act.made?).Nodup
      ∧ (let run : List (Act Nat) → Traffic Nat := Traffic.ofActs (ofCapacity 1 60 10)
        let t := run (racing ++ .start .closeAll 3 :: closingBoth)
        t.inserted = (run racing).inserted ∧ t.IsQuiet ∧ t.inserted = [0, 1]
          ∧ ∀ g ∈ t.inserted, t.begun.count g = 1 ∧ t.closed.count g = 1) :=
  ⟨by decide, by decide, by decide, by decide, by decide,
    (closes_once (by decide) 60 10 (racing ++ .start .closeAll 3 :: closingBoth)
      (by decide)).2.2.2.2.2.1 racing 3 closingBoth rfl (by decide) (by decide)⟩

end

end Pushdown.ConnectionPool
