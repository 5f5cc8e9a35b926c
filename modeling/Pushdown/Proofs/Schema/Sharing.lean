import Pushdown.Proofs.Schema.Ledger
import Pushdown.Proofs.Schema.SingleFlight

/-!
# Whose schema a snapshot is

A serial number stands for one snapshot of one identity: in everything that a cache handed out and
still holds, two snapshots with the same serial number are the same and belong to the same identity
(`SchemaCache.Apart`). Each look at the cache and each storing keeps it so, and from that any run of
calls one after another (`SchemaCache.Ledger.apart_ofCalls`) and any run of calls at the same time
(`SharedCache.Traffic.apart_ofActs`). So no snapshot that was handed out for one identity is handed
out for another.
-/

namespace Pushdown

namespace SchemaCache

/-- A snapshot was handed out for an identity, or is held for it. -/
def Shown (handed : List (Identity × Snapshot)) (c : SchemaCache) (p : Identity × Snapshot) :
    Prop :=
  p ∈ handed ∨ ∃ entry, c.entries.find? p.1 = some entry ∧ entry.snapshot = p.2

/-- Serial numbers tell apart what was handed out and what is held. -/
structure Apart (handed : List (Identity × Snapshot)) (c : SchemaCache) : Prop where
  owner : ∀ p q, Shown handed c p → Shown handed c q → p.2.serial = q.2.serial → p = q
  past : ∀ p, Shown handed c p → p.2.serial < c.nextSerial

/-- What a look brings for an identity. -/
def brought (identity : Identity) (found : Option Snapshot) : List (Identity × Snapshot) :=
  found.toList.map (identity, ·)

variable {c c' : SchemaCache} {handed handed' : List (Identity × Snapshot)} {identity : Identity}

theorem mem_brought {found : Option Snapshot} {p : Identity × Snapshot} :
    p ∈ brought identity found ↔ found = some p.2 ∧ p.1 = identity := by
  rw [brought, List.mem_map]
  constructor
  · rintro ⟨snapshot, hfound, rfl⟩
    exact ⟨Option.mem_toList.1 hfound, rfl⟩
  · rintro ⟨hfound, rfl⟩
    exact ⟨p.2, Option.mem_toList.2 hfound, rfl⟩

theorem apart_ofCapacity (capacity defaultTtl : Nat) :
    Apart [] (ofCapacity capacity defaultTtl) := by
  have hnone (p : Identity × Snapshot) : ¬ Shown [] (ofCapacity capacity defaultTtl) p := by
    rintro (hmem | ⟨entry, hfind, -⟩)
    · cases hmem
    · cases hfind
  exact ⟨fun p q hp => absurd hp (hnone p), fun p hp => absurd hp (hnone p)⟩

/-- With nothing new to be seen, snapshots stay apart. -/
theorem Apart.mono (h : Apart handed c) (hshown : ∀ p, Shown handed' c' p → Shown handed c p)
    (hnext : c'.nextSerial = c.nextSerial) : Apart handed' c' :=
  ⟨fun p q hp hq => h.owner p q (hshown p hp) (hshown q hq),
    fun p hp => hnext ▸ h.past p (hshown p hp)⟩

theorem Apart.of_subset (h : Apart handed c) (hsub : ∀ p ∈ handed', p ∈ handed) :
    Apart handed' c :=
  h.mono (fun p hp => hp.imp_left (hsub p)) rfl

/-- A look that brings what is held, and after which no more is held, keeps snapshots apart. -/
theorem Apart.look (h : Apart handed c) {found : Option Snapshot}
    (hfound : ∀ snapshot, found = some snapshot →
      ∃ entry, c.entries.find? identity = some entry ∧ entry.snapshot = snapshot)
    (hheld : ∀ other entry, c'.entries.find? other = some entry →
      c.entries.find? other = some entry)
    (hnext : c'.nextSerial = c.nextSerial) : Apart (brought identity found ++ handed) c' := by
  refine h.mono (fun p hp => ?_) hnext
  rcases hp with hmem | ⟨entry, hfind, hsnapshot⟩
  · rcases List.mem_append.1 hmem with hbrought | hold
    · obtain ⟨hsome, hidentity⟩ := mem_brought.1 hbrought
      exact .inr (hidentity ▸ hfound p.2 hsome)
    · exact .inl hold
  · exact .inr ⟨entry, hheld p.1 entry hfind, hsnapshot⟩

/-- A new snapshot has a serial number of its own. -/
theorem Apart.storeFor (h : Apart handed c) (identity : Identity) (schema : Schema)
    (ttl now : Nat) :
    Apart ((identity, (c.storeFor identity schema ttl now).1) :: handed)
      (c.storeFor identity schema ttl now).2 := by
  have hcases : ∀ p, Shown ((identity, (c.storeFor identity schema ttl now).1) :: handed)
      (c.storeFor identity schema ttl now).2 p →
        p = (identity, (c.storeFor identity schema ttl now).1) ∨ Shown handed c p := by
    rintro p (hmem | ⟨entry, hfind, hsnapshot⟩)
    · exact (List.mem_cons.1 hmem).imp_right .inl
    · by_cases hne : p.1 = identity
      · have hself : some entry = some ⟨⟨c.nextSerial, schema⟩, now, ttl⟩ := by
          rw [← hfind, hne]
          exact Recent.find?_put_self ..
        cases Option.some.inj hself
        exact .inl (Prod.ext hne hsnapshot.symm)
      · obtain hsame | hgone := Recent.find?_put_or_none hne c.entries
          ⟨⟨c.nextSerial, schema⟩, now, ttl⟩
        · exact .inr (.inr ⟨entry, hsame ▸ hfind, hsnapshot⟩)
        · rw [SchemaCache.storeFor, hgone] at hfind
          cases hfind
  have hnew : (c.storeFor identity schema ttl now).1.serial = c.nextSerial := rfl
  have hnext : (c.storeFor identity schema ttl now).2.nextSerial = c.nextSerial + 1 := rfl
  refine ⟨fun p q hp hq hserial => ?_, fun p hp => ?_⟩
  · rcases hcases p hp with rfl | hp <;> rcases hcases q hq with rfl | hq
    · rfl
    · exact absurd (hserial.symm.trans hnew) (Nat.ne_of_lt (h.past q hq))
    · exact absurd (hserial.trans hnew) (Nat.ne_of_lt (h.past p hp))
    · exact h.owner p q hp hq hserial
  · rw [hnext]
    rcases hcases p hp with rfl | hp
    · exact Nat.lt_succ_self _
    · exact Nat.lt_succ_of_lt (h.past p hp)

/-! ## What each operation keeps -/

theorem Apart.get (h : Apart handed c) (identity : Identity) (now : Nat) :
    Apart (brought identity (c.get identity now).1 ++ handed) (c.get identity now).2 := by
  refine h.look (fun snapshot hfound => ?_) (fun other entry hfind => ?_) ?_
  · obtain ⟨entry, hfind, -, hsnapshot⟩ := (get_eq_some_iff c identity now snapshot).1 hfound
    exact ⟨entry, hfind, hsnapshot⟩
  all_goals
    obtain ⟨-, hget⟩ | ⟨entry', -, -, hget⟩ | ⟨entry', -, -, hget⟩ := get_cases c identity now
  · rwa [hget] at hfind
  · rw [hget] at hfind
    exact Recent.find?_of_erase hfind
  · rw [hget] at hfind
    exact (Recent.find?_touch ..).symm.trans hfind
  all_goals rw [hget]; rfl

variable (errand : Errand)

theorem Apart.consult (h : Apart handed c) (now : Nat) :
    Apart (brought errand.identity (c.consult errand now).1 ++ handed)
      (c.consult errand now).2 := by
  rw [SchemaCache.consult]
  cases errand.aim with
  | fresh => exact h.get errand.identity now
  | newerThan stale => exact h

/-- The second look brings what is held. -/
theorem find?_of_recheck {now : Nat} {snapshot : Snapshot}
    (h : (c.recheck errand now).1 = some snapshot) :
    ∃ entry, c.entries.find? errand.identity = some entry ∧ entry.snapshot = snapshot := by
  simp only [SchemaCache.recheck, peekFresh] at h
  split at h
  · next found hfilter =>
    cases h
    obtain ⟨hmap, -⟩ := Option.filter_eq_some_iff.1 hfilter
    obtain ⟨entry, hentry, hsnapshot⟩ := Option.map_eq_some_iff.1 hmap
    exact ⟨entry, (Option.filter_eq_some_iff.1 hentry).1, hsnapshot⟩
  · cases h

theorem Apart.recheck (h : Apart handed c) (now : Nat) :
    Apart (brought errand.identity (c.recheck errand now).1 ++ handed)
      (c.recheck errand now).2 := by
  refine h.look (fun snapshot => find?_of_recheck errand) (fun other entry hfind => ?_) ?_
  · rwa [find?_recheck] at hfind
  · simp only [SchemaCache.recheck, peekFresh]
    split <;> rfl

theorem Apart.settle (h : Apart handed c) (fetched : Except Failure Schema) (now : Nat) :
    Apart (brought errand.identity (c.settle errand fetched now).1.toOption ++ handed)
      (c.settle errand fetched now).2 := by
  cases fetched with
  | error cause => exact h
  | ok schema => exact h.storeFor errand.identity schema errand.ttl now

/-! ## Calls one after another -/

/-- The snapshot that an event hands out, with the identity that it is handed out for. -/
def hands? : Call × Answer → Option (Identity × Snapshot)
  | (.store identity .., .stored snapshot) => some (identity, snapshot)
  | (.storeFor identity .., .stored snapshot) => some (identity, snapshot)
  | (.get identity _, .found (some snapshot)) => some (identity, snapshot)
  | (.serve errand .., .served (.ok snapshot) _) => some (errand.identity, snapshot)
  | _ => none

theorem Apart.pursue (h : Apart handed c) (fetched : Except Failure Schema)
    (consulted rechecked settled : Nat) :
    Apart ((hands? (.serve errand fetched consulted rechecked settled,
        (c.pursue errand fetched rechecked settled).1)).toList ++ handed)
      (c.pursue errand fetched rechecked settled).2 := by
  have hrechecked := h.recheck errand rechecked
  rw [SchemaCache.pursue]
  split
  · next snapshot c' hrecheck => rwa [hrecheck] at hrechecked
  · next c' hrecheck =>
    rw [hrecheck] at hrechecked
    have hsettled := Apart.settle errand hrechecked fetched settled
    cases fetched with
    | error cause => exact hsettled
    | ok schema => exact hsettled

/-- An answer keeps snapshots apart. -/
theorem Apart.perform (h : Apart handed c) (call : Call) :
    Apart ((hands? (call, (c.perform call).1)).toList ++ handed) (c.perform call).2 := by
  cases call with
  | store identity schema now => exact h.storeFor identity schema c.defaultTtl now
  | storeFor identity schema ttl now => exact h.storeFor identity schema ttl now
  | get identity now =>
    have hget := h.get identity now
    rw [perform_get]
    cases hfound : (c.get identity now).1 with
    | none => simpa [hfound, hands?, brought] using hget
    | some snapshot => simpa [hfound, hands?, brought] using hget
  | age identity now => exact h
  | invalidate identity =>
    refine h.mono (fun p hp => ?_) rfl
    rcases hp with hmem | ⟨entry, hfind, hsnapshot⟩
    · exact .inl hmem
    · exact .inr ⟨entry, Recent.find?_of_erase hfind, hsnapshot⟩
  | serve errand fetched consulted rechecked settled =>
    have hconsulted := h.consult errand consulted
    rw [perform_serve, serve]
    split
    · next snapshot c' hconsult => rwa [hconsult] at hconsulted
    · next c' hconsult =>
      rw [hconsult] at hconsulted
      exact Apart.pursue errand hconsulted fetched consulted rechecked settled

/-- Snapshots are apart at every point of a run. -/
theorem Ledger.apart_ofCalls (capacity defaultTtl : Nat) (calls : List Call) :
    Apart ((ofCalls capacity defaultTtl calls).events.filterMap hands?)
      (ofCalls capacity defaultTtl calls).cache := by
  induction calls using List.reverseRecOn with
  | nil => exact apart_ofCapacity capacity defaultTtl
  | append_singleton calls call ih =>
    have hrun : ofCalls capacity defaultTtl (calls ++ [call])
        = (ofCalls capacity defaultTtl calls).add call := List.foldl_concat ..
    rw [hrun]
    refine (ih.perform call).of_subset fun p hp => ?_
    rw [Ledger.add, List.filterMap_append, List.mem_append] at hp
    rw [List.mem_append]
    refine hp.symm.imp_left fun hlast => ?_
    simpa [List.mem_filterMap] using hlast

end SchemaCache

/-! ## Calls at the same time -/

namespace SharedCache

open SchemaCache (Apart)

/-- The snapshot that a call has been given, with its identity. -/
def Call.handed? (call : Call) : Option (Identity × Snapshot) :=
  match call.stage with
  | .ended (.ok snapshot) => some (call.errand.identity, snapshot)
  | _ => none

namespace Traffic

variable {t : Traffic}

/-- Snapshots are apart in what the calls have been given. -/
def IsApart (t : Traffic) : Prop := Apart (t.calls.filterMap Call.handed?) t.shared.cache

/-- They stay apart when a call moves to another stage with what a look at the cache brought it. -/
theorem IsApart.put {t' : Traffic} {i : Nat} {call : Call} {stage : Stage}
    (brought : List (Identity × Snapshot))
    (h : Apart (brought ++ t.calls.filterMap Call.handed?) t'.shared.cache)
    (hcalls : t'.calls = (t.put i call stage).calls)
    (hhanded : ∀ p, (⟨call.errand, stage⟩ : Call).handed? = some p → p ∈ brought) :
    t'.IsApart := by
  refine h.of_subset fun p hp => ?_
  obtain ⟨other, hother, hp⟩ := List.mem_filterMap.1 hp
  rw [hcalls, Traffic.put] at hother
  rw [List.mem_append]
  rcases List.mem_or_eq_of_mem_set hother with hmem | rfl
  · exact .inr (List.mem_filterMap.2 ⟨other, hmem, hp⟩)
  · exact .inl (hhanded p hp)

theorem IsApart.act (h : t.IsApart) (a : Act) : (t.act a).IsApart := by
  have hstep := step_act t a
  generalize t.act a = t' at hstep ⊢
  cases hstep with
  | idle => exact h
  | started errand =>
    refine Apart.of_subset h fun p hp => ?_
    simpa [Call.handed?] using hp
  | @looked i call hcall hstage now =>
    refine IsApart.put _ (Apart.consult call.errand h now) rfl fun p hp => ?_
    have hlook : (t.shared.look call.errand now).1
        = (t.shared.cache.consult call.errand now).1 := rfl
    rw [hlook] at hp
    cases hfound : (t.shared.cache.consult call.errand now).1 with
    | none => rw [hfound] at hp; cases hp
    | some snapshot =>
      rw [hfound] at hp
      cases hp
      exact SchemaCache.mem_brought.2 ⟨rfl, rfl⟩
  | @joined i call hcall hstage => exact IsApart.put [] h rfl nofun
  | @served i call snapshot cache hcall hstage hgo now hfound =>
    have hrecheck := Apart.recheck call.errand h now
    rw [hfound] at hrecheck
    refine IsApart.put _ hrecheck rfl fun p hp => ?_
    cases hp
    exact SchemaCache.mem_brought.2 ⟨rfl, rfl⟩
  | @began i call cache hcall hstage hgo now hmissed =>
    have hrecheck := Apart.recheck call.errand h now
    rw [hmissed] at hrecheck
    exact IsApart.put _ hrecheck rfl nofun
  | @finished i call hcall hstage fetched now =>
    refine IsApart.put _ (Apart.settle call.errand h fetched now) rfl fun p hp => ?_
    have hfinish : (t.shared.finish i call.errand fetched now).1
        = (t.shared.cache.settle call.errand fetched now).1 := rfl
    rw [hfinish] at hp
    cases hsettled : (t.shared.cache.settle call.errand fetched now).1 with
    | error cause => rw [hsettled] at hp; cases hp
    | ok snapshot =>
      rw [hsettled] at hp
      cases hp
      exact SchemaCache.mem_brought.2 ⟨rfl, rfl⟩
  | @dropped i call hcall hbusy => exact IsApart.put [] h rfl nofun

/-- Snapshots are apart at every point of a run. -/
theorem apart_ofActs (capacity defaultTtl : Nat) (acts : List Act) :
    (ofActs (.ofCapacity capacity defaultTtl) acts).IsApart := by
  induction acts using List.reverseRecOn with
  | nil => exact SchemaCache.apart_ofCapacity capacity defaultTtl
  | append_singleton acts a ih =>
    rw [ofActs, List.foldl_concat]
    exact ih.act a

end Traffic

end SharedCache

end Pushdown
