import Pushdown.Proofs.Connection.Traffic

/-!
# Whose connection a call hands out

When every connection is made anew, it is used for one identity only: a call that connects it, or is
going to hand it out, or has, and the pool, if it is in there, have it under the same identity
(`ConnectionPool.Traffic.Apart`). Every act keeps it so. The one act that brings something new is
the making of a connection, and that was not seen before.
-/

namespace Pushdown

namespace Stage

variable {γ : Type}

/-- The connection that a call is about to put into the pool or to hand out. -/
def bound? (s : Stage γ) : Option γ := s.connecting?.or s.promised?

theorem bound?_closed (s : Stage γ) : s.closed.bound? = s.bound? := by
  rw [bound?, bound?, connecting?_closed, promised?_closed]

end Stage

namespace ConnectionPool

variable {γ : Type} [DecidableEq γ]

omit [DecidableEq γ] in
/-- Beginning a call hands out at most what is pooled under its identity, and pools nothing. -/
theorem bound?_start {p : ConnectionPool γ} {now : Nat} {errand : Errand} {g : γ}
    (h : (p.start now errand).1.bound? = some g) :
    ∃ identity pooled, errand = .obtain identity ∧ p.entries.find? identity = some pooled
      ∧ pooled.connection = g := by
  cases errand with
  | obtain identity =>
    rw [start, checkOut] at h
    split at h
    · cases h
    · next pooled hfind =>
      split at h
      · cases h
      · exact ⟨identity, pooled, rfl, hfind, Option.some.inj h⟩
  | evict identity => cases h
  | closeAll => cases h

omit [DecidableEq γ] in
theorem find?_start {p : ConnectionPool γ} {now : Nat} {errand : Errand} {identity : Identity}
    {pooled : Pooled γ} (h : (p.start now errand).2.entries.find? identity = some pooled) :
    ∃ pooled', p.entries.find? identity = some pooled'
      ∧ pooled'.connection = pooled.connection := by
  cases errand with
  | obtain own =>
    rw [start, checkOut] at h
    split at h
    · exact ⟨pooled, h, rfl⟩
    · next old hfind =>
      split at h
      · exact ⟨pooled, Recent.find?_of_erase h, rfl⟩
      · by_cases hne : identity = own
        · subst hne
          rw [Recent.find?_put_self] at h
          cases h
          exact ⟨old, hfind, rfl⟩
        · rcases Recent.find?_put_or_none hne p.entries { old with lastUsed := now }
            with hsame | hgone
          · exact ⟨pooled, hsame ▸ h, rfl⟩
          · rw [hgone] at h
            cases h
  | evict own => exact ⟨pooled, Recent.find?_of_erase h, rfl⟩
  | closeAll => cases h

namespace Traffic

/-- A connection is used for an identity, by a call or in the pool. -/
def Uses (t : Traffic γ) (identity : Identity) (g : γ) : Prop :=
  (∃ call ∈ t.calls, call.errand = .obtain identity ∧ call.stage.bound? = some g)
    ∨ ∃ pooled, t.pool.entries.find? identity = some pooled ∧ pooled.connection = g

/-- No connection is used for two identities, in a run in which some connections were made. -/
structure Apart (made : List γ) (t : Traffic γ) : Prop where
  owner : ∀ identity identity' g, t.Uses identity g → t.Uses identity' g → identity = identity'
  made : ∀ identity g, t.Uses identity g → g ∈ made

variable {t t' : Traffic γ} {made : List γ}

omit [DecidableEq γ] in
/-- With no new use, connections stay apart. -/
theorem Apart.mono (h : t.Apart made) {more : List γ}
    (huses : ∀ identity g, t'.Uses identity g → t.Uses identity g) : t'.Apart (made ++ more) :=
  ⟨fun _ _ _ hp hq => h.owner _ _ _ (huses _ _ hp) (huses _ _ hq),
    fun _ _ hp => List.mem_append_left _ (h.made _ _ (huses _ _ hp))⟩

omit [DecidableEq γ] in
/-- A call at another stage uses what is bound there, and all else is as before. -/
theorem uses_put {i : Nat} {call : Call γ} {stage : Stage γ} {isClosing : Bool}
    (hcalls : t'.calls = t.calls.set i ⟨call.errand, stage, isClosing⟩)
    {identity : Identity} {g : γ} (h : t'.Uses identity g) :
    t.Uses identity g ∨ (call.errand = .obtain identity ∧ stage.bound? = some g)
      ∨ ∃ pooled, t'.pool.entries.find? identity = some pooled ∧ pooled.connection = g := by
  rcases h with ⟨other, hmem, herrand, hbound⟩ | hpooled
  · rw [hcalls] at hmem
    rcases List.mem_or_eq_of_mem_set hmem with hold | rfl
    · exact .inl (.inl ⟨other, hold, herrand, hbound⟩)
    · exact .inr (.inl ⟨herrand, hbound⟩)
  · exact .inr (.inr hpooled)

omit [DecidableEq γ] in
/-- With what is bound to a call that moves on as it was, and the pool as it was, there is no new
use. -/
theorem Apart.put (h : t.Apart made) {more : List γ} {i : Nat} {call : Call γ} {stage : Stage γ}
    {isClosing : Bool} (hcall : t.calls[i]? = some call)
    (hcalls : t'.calls = t.calls.set i ⟨call.errand, stage, isClosing⟩) (hpool : t'.pool = t.pool)
    (hbound : ∀ g, stage.bound? = some g → call.stage.bound? = some g) :
    t'.Apart (made ++ more) := by
  refine h.mono fun identity g huse => ?_
  rcases uses_put hcalls huse with hold | ⟨herrand, hnew⟩ | hpooled
  · exact hold
  · exact .inl ⟨call, List.mem_of_getElem? hcall, herrand, hbound g hnew⟩
  · exact .inr (hpool ▸ hpooled)

/-- What one act keeps. -/
theorem Apart.act (h : t.Apart made) (a : Act γ) (hmade : (made ++ a.made?.toList).Nodup) :
    (t.act a).Apart (made ++ a.made?.toList) := by
  have hstep := step_act t a
  generalize t.act a = t' at hstep ⊢
  cases hstep with
  | idle => exact h.mono fun _ _ huse => huse
  | started errand now =>
    refine h.mono fun identity g huse => ?_
    rcases huse with ⟨call, hmem, herrand, hbound⟩ | ⟨pooled, hfind, hconnection⟩
    · rcases List.mem_append.1 hmem with hold | hnew
      · exact .inl ⟨call, hold, herrand, hbound⟩
      · obtain rfl := List.mem_singleton.1 hnew
        obtain ⟨own, pooled, hown, hfind, hconnection⟩ := bound?_start hbound
        cases herrand.symm.trans hown
        exact .inr ⟨pooled, hfind, hconnection⟩
    · obtain ⟨old, hold, hsame⟩ := find?_start hfind
      exact .inr ⟨old, hold, hsame.trans hconnection⟩
  | @made i call hcall hstage outcome =>
    cases outcome with
    | error cause => exact h.put hcall rfl rfl nofun
    | ok fresh =>
      have hfresh : fresh ∉ made := fun hmem =>
        (List.nodup_append.1 hmade).2.2 fresh hmem fresh List.mem_cons_self rfl
      -- what is new is a use of the new connection by the call that made it
      have huses : ∀ identity g, (t.put i (call.at (.made (.ok fresh)))).Uses identity g →
          t.Uses identity g ∨ (call.errand = .obtain identity ∧ g = fresh) := by
        intro identity g huse
        rcases uses_put rfl huse with hold | ⟨herrand, hbound⟩ | hpooled
        · exact .inl hold
        · exact .inr ⟨herrand, (Option.some.inj hbound).symm⟩
        · exact .inl (.inr hpooled)
      refine ⟨fun identity identity' g hp hq => ?_, fun identity g hp => ?_⟩
      · rcases huses _ _ hp with hp | ⟨herrand, rfl⟩ <;>
          rcases huses _ _ hq with hq | ⟨herrand', hg⟩
        · exact h.owner _ _ _ hp hq
        · exact absurd (hg ▸ h.made _ _ hp) hfresh
        · exact absurd (h.made _ _ hq) hfresh
        · exact Errand.obtain.inj (herrand.symm.trans herrand')
      · rcases huses _ _ hp with hp | ⟨-, rfl⟩
        · exact List.mem_append_left _ (h.made _ _ hp)
        · exact List.mem_append_right _ List.mem_cons_self
  | refused hcall hstage reply now cause => exact h.put hcall rfl rfl nofun
  | @inserted i call fresh identity hcall herrand hstage reply now =>
    have huse : t.Uses identity fresh :=
      .inl ⟨call, List.mem_of_getElem? hcall, herrand, by rw [hstage]; rfl⟩
    refine h.mono fun identity' g huse' => ?_
    rcases uses_put rfl huse' with hold | ⟨herrand', hbound⟩ | ⟨pooled, hfind, rfl⟩
    · exact hold
    · cases herrand.symm.trans herrand'
      rw [Stage.bound?, connecting?_checkIn, promised?_checkIn] at hbound
      cases hbound
      exact huse
    · by_cases hne : identity' = identity
      · have hself : some pooled = some ⟨fresh, now⟩ := by
          rw [← hfind, hne]
          exact Recent.find?_put_self ..
        cases hself
        exact hne ▸ huse
      · obtain hsame | hgone := Recent.find?_put_or_none hne t.pool.entries ⟨fresh, now⟩
        · exact .inr ⟨pooled, hsame.symm.trans hfind, rfl⟩
        · cases hgone.symm.trans hfind
  | closeBegun hcall hclose hclosing => exact h.put hcall rfl rfl fun _ => id
  | @closeEnded i call old hcall hclose hclosing outcome =>
    refine h.put hcall rfl rfl fun g hbound => ?_
    rwa [Stage.bound?_closed] at hbound

/-- Connections are apart at every point of a run in which every one is made anew. -/
theorem apart_ofActs (capacity idleTtl connectTimeout : Nat) (acts : List (Act γ))
    (hfresh : (acts.filterMap Act.made?).Nodup) :
    (ofActs (ofCapacity capacity idleTtl connectTimeout) acts).Apart
      (acts.filterMap Act.made?) := by
  induction acts using List.reverseRecOn with
  | nil =>
    have hnone (identity : Identity) (g : γ) :
        ¬ (ofActs (ofCapacity capacity idleTtl connectTimeout) []).Uses identity g := by
      rintro (⟨call, hmem, -⟩ | ⟨pooled, hfind, -⟩)
      · cases hmem
      · cases hfind
    exact ⟨fun _ _ _ hp => absurd hp (hnone _ _), fun _ _ hp => absurd hp (hnone _ _)⟩
  | append_singleton acts a ih =>
    have hlast : [a].filterMap Act.made? = a.made?.toList := by
      cases hmade : a.made? <;> simp [hmade]
    rw [List.filterMap_append, hlast] at hfresh ⊢
    rw [ofActs, List.foldl_concat]
    exact (ih hfresh.of_append_left).act a hfresh

end Traffic

end ConnectionPool

end Pushdown
