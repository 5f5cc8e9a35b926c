import Pushdown.Proofs.Engine.Retry
import Pushdown.Proofs.Schema.Failure
import Pushdown.Proofs.Schema.Sharing

/-!
# A refresh that fails

What an engine does to its cache when it is to bring a snapshot is one errand, with the times its
clock shows (`Script.serve_of_play_snapshotFor`); nothing else that a request does touches the cache
(`Session.LeavesCache`). So what holds of an errand whose fetch fails holds of a request whose
refresh fails: the snapshot it found is still there, and the next request finds it again.

`failed_fetch_spares` says so of both.
-/

namespace Pushdown

/-! ## What leaves the cache alone -/

namespace Session

variable {α β : Type}

/-- Whatever comes of a computation, it leaves the cache as it is. -/
def LeavesCache (x : Session Staged α) : Prop :=
  ∀ cache scene result cache' scene',
    x.play cache scene = (some (result, cache'), scene') → cache' = cache

theorem leavesCache_pure (a : α) : LeavesCache (pure a) := by
  rintro cache scene result cache' scene' ⟨⟩
  rfl

theorem leavesCache_ofExcept (result : Except Failure α) :
    LeavesCache (MonadExcept.ofExcept result) := by
  intro cache scene result' cache' scene' h
  rw [play_ofExcept] at h
  cases h
  rfl

theorem leavesCache_effect (act : Staged (Except Failure α)) : LeavesCache (Engine.effect act) := by
  intro cache scene result cache' scene' h
  rcases hact : act.play scene with ⟨_ | found, after⟩
  · rw [play_effect_none hact] at h
    cases h
  · rw [play_effect_some hact] at h
    cases h
    rfl

theorem LeavesCache.bind {x : Session Staged α} (hx : LeavesCache x) {f : α → Session Staged β}
    (hf : ∀ a, LeavesCache (f a)) : LeavesCache (x >>= f) := by
  intro cache scene result cache' scene' h
  rcases hplay : x.play cache scene with ⟨_ | ⟨cause | a, between⟩, after⟩
  · rw [play_bind_none hplay] at h
    cases h
  · rw [play_bind_error hplay] at h
    cases h
    exact hx _ _ _ _ _ hplay
  · rw [play_bind_ok hplay] at h
    rw [hf a _ _ _ _ _ h, hx _ _ _ _ _ hplay]

theorem LeavesCache.guarded {x : Session Staged α} (hx : LeavesCache x) (script : Script)
    (activity : Activity) : LeavesCache (Engine.guarded script.caller activity x) := by
  intro cache scene result cache' scene' h
  rw [play_guarded] at h
  split at h
  · cases h
    rfl
  · exact hx _ _ _ _ _ h

end Session

namespace SchemaCache

variable {c : SchemaCache} {errand : Errand} {fetched : Except Failure Schema}
  {consulted rechecked settled : Nat} {snapshot : Snapshot} {ran : Bool}

theorem find?_pursue_ok
    (h : (c.pursue errand fetched rechecked settled).1 = .served (.ok snapshot) ran) :
    ∃ entry, (c.pursue errand fetched rechecked settled).2.entries.find? errand.identity
      = some entry ∧ entry.snapshot = snapshot := by
  have hheld (found : Snapshot) (hfound : (c.recheck errand rechecked).1 = some found) :=
    find?_of_recheck errand hfound
  have hsame := find?_recheck c errand rechecked errand.identity
  unfold pursue at h ⊢
  rcases hrecheck : c.recheck errand rechecked with ⟨_ | found, looked⟩
  · rw [hrecheck] at h
    exact find?_settle (Answer.served.inj h).1
  · rw [hrecheck] at h hheld hsame
    cases h
    obtain ⟨entry, hentry, hsnapshot⟩ := hheld snapshot rfl
    exact ⟨entry, hsame.trans hentry, hsnapshot⟩

/-- A snapshot that an errand brings is the one that is kept. -/
theorem find?_serve_ok
    (h : (c.serve errand fetched consulted rechecked settled).1 = .served (.ok snapshot) ran) :
    ∃ entry, (c.serve errand fetched consulted rechecked settled).2.entries.find? errand.identity
      = some entry ∧ entry.snapshot = snapshot := by
  obtain ⟨-, heq⟩ | ⟨-, heq⟩ := serve_cases c errand fetched consulted rechecked settled
  · rw [heq] at h ⊢
    exact find?_pursue_ok h
  rcases hget : c.get errand.identity consulted with ⟨_ | found, looked⟩
  · rw [hget] at heq
    rw [heq] at h ⊢
    exact find?_pursue_ok h
  · have hfound := find?_get_eq_some (congrArg Prod.fst hget)
    rw [hget] at heq hfound
    rw [heq] at h ⊢
    cases h
    exact hfound

end SchemaCache

namespace Script

variable {script : Script} {e : Engine} {request : Request} {cache kept : SchemaCache}
  {scene scene' : Scene} {behalf : Activity} {aim : SchemaCache.Aim} {snapshot : Snapshot}

/-- An attempt leaves the cache as it is. -/
theorem leavesCache_start (schema : Schema) :
    (e.start script.connection script.caller request schema).LeavesCache :=
  (Session.leavesCache_ofExcept _).bind fun _ =>
    ((Session.leavesCache_effect _).guarded script .query).bind fun _ =>
      Session.leavesCache_pure _

/-! ## What becomes of the cache -/

/-- What an engine does to its cache to bring a snapshot is an errand, begun at the time its clock
shows. -/
theorem serve_of_play_snapshotFor {result : Except Failure Snapshot}
    (h : (e.snapshotFor script.connection script.caller behalf aim).play cache scene
      = (some (result, kept), scene')) :
    ∃ fetched rechecked settled ran, cache.serve (script.errand e aim) fetched
      (script.clock scene.looks) rechecked settled = (.served result ran, kept) := by
  rw [Engine.snapshotFor, Session.play_bind_ok (Session.play_clock script),
    Session.play_bind_ok (Session.play_onCache _)] at h
  rw [errand]
  rcases hconsult : cache.consult ⟨script.connection.identity,
    e.config.schemaTtlFor script.connection.kind, aim⟩ (script.clock scene.looks) with
    ⟨_ | snapshot, looked⟩
  · simp only [hconsult] at h
    rw [Session.play_bind_ok (Session.play_clock script),
      Session.play_bind_ok (Session.play_onCache _)] at h
    rcases hrecheck : looked.recheck ⟨script.connection.identity,
      e.config.schemaTtlFor script.connection.kind, aim⟩ (script.clock scene.look.looks) with
      ⟨_ | snapshot, again⟩
    · simp only [hrecheck] at h
      rcases hload : (e.loadSchema script.connection behalf).play scene.look.look with
        ⟨_ | fetched, after⟩
      · rw [Session.play_bind_none (Session.play_lift_none hload)] at h
        cases h
      · rw [Session.play_bind_ok (Session.play_lift_some hload),
          Session.play_bind_ok (Session.play_clock script),
          Session.play_bind_ok (Session.play_onCache _), Session.play_ofExcept] at h
        cases h
        refine ⟨fetched, script.clock scene.look.looks, script.clock after.looks, true, ?_⟩
        simp only [SchemaCache.serve, hconsult, SchemaCache.pursue, hrecheck]
        rfl
    · simp only [hrecheck] at h
      cases h
      refine ⟨.ok snapshot.schema, script.clock scene.look.looks, 0, false, ?_⟩
      simp only [SchemaCache.serve, hconsult, SchemaCache.pursue, hrecheck]
  · simp only [hconsult] at h
    cases h
    refine ⟨.ok snapshot.schema, 0, 0, false, ?_⟩
    simp only [SchemaCache.serve, hconsult]

/-- A snapshot that is brought is the one that is kept. -/
theorem find?_of_play_snapshotFor
    (h : (e.snapshotFor script.connection script.caller behalf aim).play cache scene
      = (some (.ok snapshot, kept), scene')) :
    ∃ entry, kept.entries.find? script.identity = some entry ∧ entry.snapshot = snapshot := by
  obtain ⟨fetched, rechecked, settled, ran, hserve⟩ := serve_of_play_snapshotFor h
  have hkept := SchemaCache.find?_serve_ok (congrArg Prod.fst hserve)
  rw [hserve] at hkept
  exact hkept

/-- A refresh that fails leaves every entry as it is. -/
theorem find?_of_play_refresh {stale : Option Snapshot} {cause : Failure}
    (h : (e.refresh script.connection script.caller stale).play cache scene
      = (some (.error cause, kept), scene')) (identity : Identity) :
    kept.entries.find? identity = cache.entries.find? identity := by
  obtain ⟨fetched, rechecked, settled, ran, hserve⟩ := serve_of_play_snapshotFor h
  obtain ⟨rfl, rfl⟩ := SchemaCache.eq_error_of_serve (congrArg Prod.fst hserve)
  have hfetched := congrArg (fun answered => answered.1.isFetched) hserve
  rcases SchemaCache.find?_serve_error hfetched identity with hsame | ⟨-, ⟨haim, -⟩, -⟩
  · rw [hserve] at hsame
    exact hsame
  · cases haim

/-- A snapshot that is kept and fresh is found at once. -/
theorem play_schema_of_find? {entry : SchemaCache.Entry}
    (hentry : cache.entries.find? script.identity = some entry)
    (hfresh : entry.isExpired (script.clock scene.looks) = false) :
    (e.schema script.connection script.caller).play cache scene
      = (some (.ok entry.snapshot, (cache.get script.identity (script.clock scene.looks)).2),
          scene.look) :=
  play_snapshotFor_found ((SchemaCache.get_eq_some_iff ..).2 ⟨entry, hentry, hfresh, rfl⟩)

/-! ## A request whose refresh fails -/

variable (script e request) in
/-- A request finds a snapshot, the first attempt fails in a way that calls for a newer one, and
that is not to be had. -/
inductive Unrefreshed (cache : SchemaCache) (scene : Scene) :
    Snapshot → SchemaCache → Failure → SchemaCache → Scene → Prop where
  | intro {snapshot : Snapshot} {found tried aged kept : SchemaCache}
      {looked attempted asked refreshed : Scene} {cause failure : Failure}
      (hkind : e.registry.require script.kind = .ok ())
      (hlookup : Session.play (Engine.guarded script.caller .schemaFetch
          (e.schema script.connection script.caller)) cache scene
        = (some (.ok snapshot, found), looked))
      (hattempt :
        (e.start script.connection script.caller request snapshot.schema).play found looked
        = (some (.error cause, tried), attempted))
      (hwarranted : (e.refreshWarranted script.connection script.caller cause).play tried attempted
        = (some (.ok true, aged), asked))
      (hrefresh : Session.play (Engine.guarded script.caller .schemaRefresh
          (e.refresh script.connection script.caller (some snapshot))) aged asked
        = (some (.error failure, kept), refreshed)) :
      Unrefreshed cache scene snapshot found failure kept refreshed

/-- The failure of the refresh is what comes of the request, and every entry is as it was when the
snapshot was found. -/
theorem Unrefreshed.play_query {found kept : SchemaCache} {failure : Failure} {refreshed : Scene}
    (h : script.Unrefreshed e request cache scene snapshot found failure kept refreshed) :
    (e.query script.connection script.caller request).play cache scene
        = (some (.error failure, kept), refreshed)
      ∧ (∀ identity, kept.entries.find? identity = found.entries.find? identity)
      ∧ ∃ entry, found.entries.find? script.identity = some entry ∧ entry.snapshot = snapshot := by
  obtain ⟨hkind, hlookup, hattempt, hwarranted, hrefresh⟩ := h
  -- neither the attempt nor the question whether to refresh has touched the cache
  have htried := leavesCache_start _ _ _ _ _ _ hattempt
  subst htried
  obtain ⟨warranted, after, hasked, -⟩ := play_refreshWarranted script e _ _ _
  cases hasked.symm.trans hwarranted
  have hrequire : Session.play (MonadExcept.ofExcept (e.registry.require script.connection.kind))
      cache scene = (some (e.registry.require script.kind, cache), scene) :=
    Session.play_ofExcept _
  rw [hkind] at hrequire
  refine ⟨?_, fun identity => ?_, ?_⟩
  · refine (Session.play_bind_ok hrequire).trans ((Session.play_bind_ok hlookup).trans ?_)
    refine Session.play_bind_error ?_
    exact (Session.play_withCurrentSchema_error _ hattempt hasked).trans
      (Session.play_bind_error hrefresh)
  · rw [Session.play_guarded] at hrefresh
    split at hrefresh
    · cases hrefresh
      rfl
    · exact find?_of_play_refresh hrefresh identity
  · rw [Session.play_guarded] at hlookup
    split at hlookup
    · cases hlookup
    · exact find?_of_play_snapshotFor hlookup

end Script

/-! ## Whatever fails to be fetched -/

section

open SchemaCache

/-- **A failed fetch spares the cache.** An errand whose fetch is run and fails answers that
failure. Afterwards every identity finds the entry it found before, unless it is the errand's own
identity, any fresh snapshot was wanted and the entry had expired; then there is none. From then on
every run of looks, in order of time, finds what it would have found, and ages and sizes are told as
before but for the entry that was dropped.

So a request whose refresh fails ends with the failure of the refresh, and with every entry as it
was when the request found its snapshot: the next request for the same identity finds that snapshot
as long as it is fresh, with one look at the clock and without asking the connection. -/
theorem failed_fetch_spares {c : SchemaCache} (hsound : c.entries.Sound) {errand : Errand}
    {cause : Failure} {consulted rechecked settled : Nat}
    (hfetched : (c.serve errand (.error cause) consulted rechecked settled).1.isFetched = true) :
    (∃ after, c.serve errand (.error cause) consulted rechecked settled
        = (.served (.error cause) true, after) ∧ SparedBy errand consulted c after)
    ∧ ∀ (script : Script) (e : Engine) (request : Request) (cache : SchemaCache) (scene : Scene)
        (snapshot : Snapshot) (found : SchemaCache) (failure : Failure) (kept : SchemaCache)
        (refreshed : Scene),
      script.Unrefreshed e request cache scene snapshot found failure kept refreshed →
        (e.query script.connection script.caller request).play cache scene
            = (some (.error failure, kept), refreshed)
          ∧ (∀ identity, kept.entries.find? identity = found.entries.find? identity)
          ∧ ∃ entry, found.entries.find? script.identity = some entry ∧ entry.snapshot = snapshot
            ∧ ∀ (next : Script) (e' : Engine) (scene' : Scene), next.identity = script.identity →
              entry.isExpired (next.clock scene'.looks) = false →
                (e'.schema next.connection next.caller).play kept scene'
                  = (some (.ok snapshot, (kept.get next.identity (next.clock scene'.looks)).2),
                      scene'.look) := by
  refine ⟨⟨_, Prod.ext (entries_serve_error hfetched).1 rfl, sparedBy_serve_error hsound hfetched⟩,
    fun script e request cache scene snapshot found failure kept refreshed h => ?_⟩
  obtain ⟨hplay, hsame, entry, hentry, hsnapshot⟩ := h.play_query
  refine ⟨hplay, hsame, entry, hentry, hsnapshot, fun next e' scene' hnext hfresh => ?_⟩
  have hkept : kept.entries.find? next.identity = some entry := by
    rw [hnext, hsame, hentry]
  rw [← hsnapshot]
  exact Script.play_schema_of_find? hkept hfresh

/-- A backend that finds every query stale, and then cannot be reached. -/
def downAgain : Script where
  kind := .postgres
  identity := ⟨"tags"⟩
  clock n := n
  fetch _ := ⟨some (.answered (.error .backendUnreachable)), false⟩
  execute _ _ := ⟨some (.answered (.error (.unknownToBackend "42703"))), false⟩
  nextPage _ _ _ := ⟨none, false⟩
  release _ _ := ⟨none, false⟩

/-- A full cache: one snapshot is fresh until 5, the other one until 61. -/
def twoStored : SchemaCache :=
  (((ofCapacity 2 60).storeFor ⟨"orders"⟩ ⟨[]⟩ 5 0).2.store ⟨"tags"⟩
    (Schema.ofReported (BackendKind.types .postgres) [⟨"tags", "name", "text", false⟩]) 1).2

theorem sound_twoStored : twoStored.entries.Sound :=
  Recent.sound_put (Recent.sound_put (Recent.sound_ofCapacity 2) _ _) _ _

/-- The snapshot that has expired is dropped when a new one cannot be fetched. The other one stays,
also when the backend finds it stale and a newer one cannot be fetched either. -/
theorem failed_fetch_spares_downAgain :
    twoStored.entries.Sound
      ∧ (∃ after, twoStored.serve ⟨⟨"orders"⟩, 5, .fresh⟩ (.error .backendUnreachable) 10 10 12
          = (.served (.error .backendUnreachable) true, after) ∧ after.size = 1
        ∧ (after.getEach [(⟨"tags"⟩, 12), (⟨"orders"⟩, 13)]).1
          = (twoStored.getEach [(⟨"tags"⟩, 12), (⟨"orders"⟩, 13)]).1)
      ∧ ∃ snapshot kept refreshed again,
        (Script.builtinEngine.query downAgain.connection downAgain.caller Script.namesAsked).play
            twoStored (.initial false) = (some (.error .backendUnreachable, kept), refreshed)
          ∧ (Script.builtinEngine.schema downAgain.connection downAgain.caller).play kept refreshed
            = (some (.ok snapshot, again), refreshed.look) := by
  have hfetched : (twoStored.serve ⟨⟨"orders"⟩, 5, .fresh⟩ (.error .backendUnreachable) 10 10
      12).1.isFetched = true := rfl
  obtain ⟨⟨after, hserve, hspared⟩, hquery⟩ := failed_fetch_spares sound_twoStored hfetched
  have hdrops : twoStored.dropsOwn ⟨⟨"orders"⟩, 5, .fresh⟩ 10 := ⟨rfl, _, rfl, rfl⟩
  have htimes : [10, 12, 13].Pairwise (· ≤ ·) := by decide
  refine ⟨sound_twoStored, ⟨after, hserve, Nat.succ.inj (hspared.size_dropped hdrops),
    (hspared.looks [(⟨"tags"⟩, 12), (⟨"orders"⟩, 13)] htimes).1⟩, ?_⟩
  obtain ⟨hplay, -, entry, hentry, -, hagain⟩ := hquery downAgain Script.builtinEngine
    Script.namesAsked twoStored (.initial false) _ _ _ _ _ ⟨rfl, rfl, rfl, rfl, rfl⟩
  cases Option.some.inj (hentry.symm.trans rfl)
  exact ⟨_, _, _, _, hplay, hagain downAgain Script.builtinEngine _ rfl rfl⟩

end

end Pushdown
