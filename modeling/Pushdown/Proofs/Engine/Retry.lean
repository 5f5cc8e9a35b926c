import Pushdown.Proofs.Engine.Tale

/-!
# A request is tried again at most once

`Script.Settles` says what comes of a request, case by case: which calls are made, in which order,
and which of their outcomes is the outcome of the request. A second attempt is made only after the
schema has been fetched again, and that only for a failure that warrants it: the backend reports a
stale schema, or a name is missing and the snapshot at hand is not too recent.

`Script.query_settles` is that an engine settles every request so. What matters about the cache in
between is that the snapshot the first attempt was made with is the one that is kept, so the second
look at the cache never finds a newer one and the schema is fetched. What the consumer of the stream
does afterwards only goes on from there, as `Scene.Continues` says.
-/

namespace Pushdown

/-! ## What a request may cost -/

/-- How often a query is run in a history. -/
def executesIn (history : List Occurrence) : Nat :=
  history.countP fun
    | .executed _ => true
    | _ => false

/-- How often the schema is asked for in a history. -/
def fetchesIn (history : List Occurrence) : Nat :=
  history.countP fun
    | .fetched => true
    | _ => false

/-- The schema is asked for, or a query is run for its first page. -/
def Occurrence.Opens : Occurrence → Prop
  | .fetched | .executed _ => True
  | _ => False

/-- A scene goes on to another one without anything of what opens a stream. -/
def Scene.Continues (scene scene' : Scene) : Prop :=
  ∃ events, scene'.history = scene.history ++ events ∧ ∀ event ∈ events, ¬ event.Opens

/-- Whether a failure warrants a second attempt, given how old the snapshot is that is kept. -/
def Engine.Warrants (e : Engine) (cause : Failure) (age : Option Nat) : Prop :=
  cause.fault = .staleSchema
    ∨ cause.fault = .notFound ∧ ∀ a, age = some a → e.config.schemaRefreshMinAge ≤ a

namespace Script

variable (script : Script) (e : Engine) (request : Request)

/-- Every call is answered in some way, and the caller does not cancel. -/
structure Undisturbed : Prop where
  fetch : ∀ history, ∃ reply, script.fetch history = ⟨some reply, false⟩
  execute : ∀ history query, ∃ reply, script.execute history query = ⟨some reply, false⟩

/-- The query for the first page of a plan. -/
def firstQuery (plan : Plan) : NativeQuery :=
  script.kind.pageQuery (script.kind.compile plan) none e.config.batchSize

/-- An attempt: the request is planned against a schema and compiled, and the query is run for its
first page. -/
inductive Attempts (schema : Schema) (history : List Occurrence) :
    Except Failure (CompiledQuery × Page) → List Occurrence → Prop where
  | unplanned {cause : Failure}
      (hplan : Plan.build script.kind.filterOptions schema request = .error cause) :
      Attempts schema history (.error cause) history
  | ran {plan : Plan} {reply : Reply Page}
      (hplan : Plan.build script.kind.filterOptions schema request = .ok plan)
      (hreply : (script.execute history (script.firstQuery e plan)).reply = some reply) :
      Attempts schema history
        ((reply.result .query .query e.config.queryTimeout).map (script.kind.compile plan, ·))
        (history ++ .executed (script.firstQuery e plan) :: arrival reply)

/-- The stream of what an attempt brings. -/
def streamOf (answer : CompiledQuery × Page) : RowStream :=
  (RowStream.ofCompiled e.config answer.1).absorb answer.2

/-- The first look for the schema of a connection. -/
def lookup (cache : SchemaCache) : Option (Except Failure Snapshot × SchemaCache) × Scene :=
  (e.schema script.connection script.caller).play cache (.initial false)

/-- What comes of a request once a snapshot is at hand, with whether it is set about again and what
has happened by then. -/
inductive Concludes (snapshot : Snapshot) (kept : SchemaCache) (scene : Scene) :
    Bool → Except Failure (CompiledQuery × Page) → List Occurrence → Prop where
  /-- The first attempt does. -/
  | first {answer : CompiledQuery × Page} {history : List Occurrence}
      (hfirst : script.Attempts e request snapshot.schema scene.history (.ok answer) history) :
      Concludes snapshot kept scene false (.ok answer) history
  /-- The first attempt fails, and that stands. -/
  | stands {cause : Failure} {history : List Occurrence}
      (hfirst : script.Attempts e request snapshot.schema scene.history (.error cause) history)
      (hcause : ¬ e.Warrants cause (kept.age script.identity (script.clock scene.looks))) :
      Concludes snapshot kept scene false (.error cause) history
  /-- The first attempt fails, and a newer schema is not to be had. -/
  | unrefreshed {cause cause' : Failure} {history : List Occurrence}
      {reply : Reply (List ReportedColumn)}
      (hfirst : script.Attempts e request snapshot.schema scene.history (.error cause) history)
      (hcause : e.Warrants cause (kept.age script.identity (script.clock scene.looks)))
      (hreply : (script.fetch history).reply = some reply)
      (hfetch : reply.result .schemaFetch .schemaRefresh e.config.schemaTimeout = .error cause') :
      Concludes snapshot kept scene true (.error cause') (history ++ [.fetched])
  /-- The first attempt fails, and whatever comes of a second one with the newer schema stands. -/
  | second {cause : Failure} {history history' : List Occurrence}
      {reply : Reply (List ReportedColumn)} {columns : List ReportedColumn}
      {result : Except Failure (CompiledQuery × Page)}
      (hfirst : script.Attempts e request snapshot.schema scene.history (.error cause) history)
      (hcause : e.Warrants cause (kept.age script.identity (script.clock scene.looks)))
      (hreply : (script.fetch history).reply = some reply)
      (hfetch : reply.result .schemaFetch .schemaRefresh e.config.schemaTimeout = .ok columns)
      (hsecond : script.Attempts e request (Schema.ofReported script.kind.types columns)
        (history ++ [.fetched]) result history') :
      Concludes snapshot kept scene true result history'

/-- What comes of a request, with whether it is set about again and what has happened by then. -/
inductive Settles (cache : SchemaCache) :
    Bool → Except Failure RowStream → List Occurrence → Prop where
  /-- There is no backend for it. -/
  | unregistered {cause : Failure} (hkind : e.registry.require script.kind = .error cause) :
      Settles cache false (.error cause) []
  /-- The schema is not to be had, so nothing is run. -/
  | unknown {cause : Failure} {kept : SchemaCache} {scene : Scene}
      (hlookup : script.lookup e cache = (some (.error cause, kept), scene))
      (hidle : executesIn scene.history = 0) :
      Settles cache false (.error cause) scene.history
  /-- Attempts are made with the snapshot that is at hand. -/
  | known {snapshot : Snapshot} {kept : SchemaCache} {scene : Scene} {again : Bool}
      {result : Except Failure (CompiledQuery × Page)} {history : List Occurrence}
      (hlookup : script.lookup e cache = (some (.ok snapshot, kept), scene))
      (hconcludes : script.Concludes e request snapshot kept scene again result history) :
      Settles cache again (result.map (streamOf e)) history

end Script

/-! ## The cache along the way -/

namespace SchemaCache

variable {cache : SchemaCache} {errand : Errand} {identity : Identity} {snapshot : Snapshot}
  {now : Nat}

/-- Nothing is kept for a connection for which nothing fresh was found. -/
theorem find?_get_eq_none (h : (cache.get identity now).1 = none) :
    (cache.get identity now).2.entries.find? identity = none := by
  unfold get at h ⊢
  cases hfind : cache.entries.find? identity with
  | none => exact hfind
  | some entry =>
    cases hexpired : entry.isExpired now with
    | true => simp [hexpired, dropExpired, countMiss]
    | false => simp [hfind, hexpired] at h

/-- A snapshot that was found is the one that is kept. -/
theorem find?_get_eq_some (h : (cache.get identity now).1 = some snapshot) :
    ∃ entry, (cache.get identity now).2.entries.find? identity = some entry
      ∧ entry.snapshot = snapshot := by
  unfold get at h ⊢
  cases hfind : cache.entries.find? identity with
  | none => simp [hfind] at h
  | some entry =>
    cases hexpired : entry.isExpired now with
    | true => simp [hfind, hexpired] at h
    | false =>
      refine ⟨entry, ?_, ?_⟩
      · simpa [hexpired, countHit] using hfind
      · simpa [hfind, hexpired] using h

/-- A snapshot that is stored is the one that is kept. -/
theorem find?_settle {fetched : Except Failure Schema}
    (h : (cache.settle errand fetched now).1 = .ok snapshot) :
    ∃ entry, (cache.settle errand fetched now).2.entries.find? errand.identity = some entry
      ∧ entry.snapshot = snapshot := by
  cases fetched with
  | error cause => cases h
  | ok schema =>
    cases h
    exact ⟨_, Recent.find?_put_self .., rfl⟩

/-- What is stored is what was fetched. -/
theorem map_settle (fetched : Except Failure Schema) :
    (cache.settle errand fetched now).1.map Snapshot.schema = fetched := by
  cases fetched <;> rfl

/-- Looking again finds nothing that is not accepted. -/
theorem recheck_eq_none (h : ∀ entry, cache.entries.find? errand.identity = some entry →
    errand.aim.accepts entry.snapshot = false) : (cache.recheck errand now).1 = none := by
  have hnone : (cache.peekFresh errand.identity now).1.filter errand.aim.accepts = none := by
    refine Option.filter_eq_none_iff.2 fun snapshot hsnapshot => ?_
    obtain ⟨entry, hentry, rfl⟩ := Option.map_eq_some_iff.1 hsnapshot
    simp [h entry (Option.filter_eq_some_iff.1 hentry).1]
  simp only [recheck, hnone]

end SchemaCache

/-! ## The calls of an undisturbed engine -/

/-- When an attempt fails, it depends on its failure whether a newer snapshot is asked for. -/
theorem Session.play_withCurrentSchema_error {α : Type} {script : Script} {e : Engine}
    {cache cache' cache'' : SchemaCache} {scene scene' scene'' : Scene} {snapshot : Snapshot}
    {attempt : Schema → Session Staged α} {cause : Failure} {warranted : Bool}
    (newer : Session Staged Snapshot)
    (hattempt : (attempt snapshot.schema).play cache scene
      = (some (.error cause, cache'), scene'))
    (hwarranted : (e.refreshWarranted script.connection script.caller cause).play cache' scene'
      = (some (.ok warranted, cache''), scene'')) :
    (e.withCurrentSchema script.connection script.caller snapshot newer attempt).play cache scene
      = Session.play (if warranted then do let fresh ← newer; attempt fresh.schema
          else throw cause) cache'' scene'' := by
  rw [Engine.withCurrentSchema, play_tryCatch_error hattempt, play_bind_ok hwarranted]

namespace Script

variable {script : Script} {e : Engine} {request : Request} {cache : SchemaCache} {scene : Scene}

variable (e cache) in
/-- The query of a plan is run for its first page. -/
theorem play_firstQuery (h : script.Undisturbed) (hc : scene.cancelled = false) (plan : Plan) :
    ∃ reply, (script.execute scene.history (script.firstQuery e plan)).reply = some reply
      ∧ Session.play (Engine.guarded script.caller .query (Engine.effect
          (RowStream.firstPage e.config script.connection (script.kind.compile plan)))) cache scene
        = (some (reply.result .query .query e.config.queryTimeout, cache),
            scene.add (.executed (script.firstQuery e plan) :: arrival reply)) := by
  obtain ⟨reply, hreply⟩ := h.execute scene.history (script.firstQuery e plan)
  have hpage : (RowStream.firstPage e.config script.connection
        (script.kind.compile plan)).play scene
      = (some (reply.result .query .query e.config.queryTimeout),
          scene.add (.executed (script.firstQuery e plan) :: arrival reply)) := by
    rw [RowStream.play_firstPage, ← firstQuery, hreply]
    rfl
  refine ⟨reply, congrArg Answer.reply hreply, ?_⟩
  rw [Session.play_guarded, hc]
  exact Session.play_effect_some hpage

variable (e request cache) in
/-- An attempt of the engine is one that is described. -/
theorem play_start (h : script.Undisturbed) (hc : scene.cancelled = false) (schema : Schema) :
    ∃ result history, (e.start script.connection script.caller request schema).play cache scene
        = (some (result, cache), { scene with history })
      ∧ script.Attempts e request schema scene.history result history := by
  have hbuild : Session.play (MonadExcept.ofExcept
      (Plan.build script.connection.kind.filterOptions schema request)) cache scene
      = (some (Plan.build script.kind.filterOptions schema request, cache), scene) :=
    Session.play_ofExcept _
  cases hplan : Plan.build script.kind.filterOptions schema request with
  | error cause =>
    rw [hplan] at hbuild
    exact ⟨_, _, Session.play_bind_error hbuild, .unplanned hplan⟩
  | ok plan =>
    rw [hplan] at hbuild
    obtain ⟨reply, hreply, hrun⟩ := play_firstQuery e cache h hc plan
    refine ⟨_, _, (Session.play_bind_ok hbuild).trans ?_, .ran hplan hreply⟩
    cases hresult : reply.result .query .query e.config.queryTimeout with
    | error cause =>
      rw [hresult] at hrun
      exact Session.play_bind_error hrun
    | ok page =>
      rw [hresult] at hrun
      exact Session.play_bind_ok hrun

variable (script e) in
/-- The errand of the connection of a script. -/
def errand (aim : SchemaCache.Aim) : SchemaCache.Errand :=
  ⟨script.connection.identity, e.config.schemaTtlFor script.connection.kind, aim⟩

section
variable {behalf : Activity} {aim : SchemaCache.Aim}

/-- A snapshot that is found at once costs nothing. -/
theorem play_snapshotFor_found {snapshot : Snapshot}
    (hfound : (cache.consult (script.errand e aim) (script.clock scene.looks)).1 = some snapshot) :
    (e.snapshotFor script.connection script.caller behalf aim).play cache scene
      = (some (.ok snapshot,
            (cache.consult (script.errand e aim) (script.clock scene.looks)).2), scene.look) := by
  rw [Engine.snapshotFor, Session.play_bind_ok (Session.play_clock script),
    Session.play_bind_ok (Session.play_onCache _)]
  rw [errand] at hfound
  rw [hfound]
  rfl

/-- The cache before a snapshot is stored that was not found. -/
def searched (script : Script) (e : Engine) (aim : SchemaCache.Aim) (cache : SchemaCache)
    (scene : Scene) : Option Snapshot × SchemaCache :=
  (cache.consult (script.errand e aim) (script.clock scene.looks)).2.recheck (script.errand e aim)
    (script.clock scene.look.looks)

/-- A snapshot that is not found is fetched once, and kept if the schema is to be had. -/
theorem play_snapshotFor_fetched (hkind : e.registry.require script.kind = .ok ())
    {reply : Reply (List ReportedColumn)}
    (hreply : script.fetch scene.history = ⟨some reply, false⟩)
    (hconsult : (cache.consult (script.errand e aim) (script.clock scene.looks)).1 = none)
    (hrecheck : (script.searched e aim cache scene).1 = none) :
    (e.snapshotFor script.connection script.caller behalf aim).play cache scene
      = (some ((script.searched e aim cache scene).2.settle (script.errand e aim)
            ((reply.result .schemaFetch behalf e.config.schemaTimeout).map
              (Schema.ofReported script.kind.types)) (script.clock scene.look.look.looks)),
          (scene.look.look.add [.fetched]).look) := by
  have hload : (e.loadSchema script.connection behalf).play scene.look.look
      = (some ((reply.result .schemaFetch behalf e.config.schemaTimeout).map
            (Schema.ofReported script.kind.types)), scene.look.look.add [.fetched]) := by
    have hlooked : script.fetch scene.look.look.history = ⟨some reply, false⟩ := hreply
    rw [Engine.play_loadSchema _ _ _ _ hkind, hlooked]
    rfl
  rw [searched, errand] at hrecheck
  rw [errand] at hconsult
  rw [Engine.snapshotFor, Session.play_bind_ok (Session.play_clock script),
    Session.play_bind_ok (Session.play_onCache _), hconsult]
  simp only
  rw [Session.play_bind_ok (Session.play_clock script),
    Session.play_bind_ok (Session.play_onCache _), hrecheck]
  simp only
  rw [Session.play_bind_ok (Session.play_lift_some hload),
    Session.play_bind_ok (Session.play_clock script),
    Session.play_bind_ok (Session.play_onCache _), Session.play_ofExcept]
  rfl

end

variable (cache) in
/-- The first look for the schema: it is found and costs nothing, or it is fetched once, and the
snapshot it brings is the one that is kept. -/
theorem lookup_eq (h : script.Undisturbed) (hkind : e.registry.require script.kind = .ok ()) :
    ∃ result kept scene, script.lookup e cache = (some (result, kept), scene)
      ∧ scene.cancelled = false ∧ executesIn scene.history = 0 ∧ fetchesIn scene.history ≤ 1
      ∧ ∀ snapshot, result = .ok snapshot → ∃ entry,
        kept.entries.find? script.identity = some entry ∧ entry.snapshot = snapshot := by
  obtain ⟨reply, hreply⟩ := h.fetch []
  cases hfound : (cache.get script.identity (script.clock 0)).1 with
  | some snapshot =>
    refine ⟨_, _, _, play_snapshotFor_found hfound, rfl, rfl, Nat.zero_le _, ?_⟩
    rintro _ ⟨⟩
    exact SchemaCache.find?_get_eq_some hfound
  | none =>
    have hrecheck : (script.searched e .fresh cache (.initial false)).1 = none := by
      refine SchemaCache.recheck_eq_none fun entry hentry => ?_
      exact nomatch (SchemaCache.find?_get_eq_none hfound).symm.trans hentry
    exact ⟨_, _, _, play_snapshotFor_fetched hkind hreply hfound hrecheck, rfl, rfl,
      Nat.le_refl _, fun snapshot heq => SchemaCache.find?_settle heq⟩

/-- A newer schema is asked for once: the snapshot that is kept is the one found wanting. -/
theorem refresh_eq (hkind : e.registry.require script.kind = .ok ()) {stale : Snapshot}
    {reply : Reply (List ReportedColumn)}
    (hreply : script.fetch scene.history = ⟨some reply, false⟩)
    (hkept : ∃ entry, cache.entries.find? script.identity = some entry ∧ entry.snapshot = stale) :
    ∃ result kept scene', (e.refresh script.connection script.caller stale).play cache scene
        = (some (result, kept), scene')
      ∧ scene'.cancelled = scene.cancelled ∧ scene'.history = scene.history ++ [.fetched]
      ∧ result.map Snapshot.schema
        = (reply.result .schemaFetch .schemaRefresh e.config.schemaTimeout).map
            (Schema.ofReported script.kind.types) := by
  obtain ⟨entry, hentry, hstale⟩ := hkept
  have hrecheck : (script.searched e (.newerThan (some stale)) cache scene).1 = none := by
    refine SchemaCache.recheck_eq_none fun entry' hentry' => ?_
    cases hentry.symm.trans hentry'
    simp [errand, SchemaCache.Aim.accepts, hstale]
  exact ⟨_, _, _, play_snapshotFor_fetched hkind hreply rfl hrecheck, rfl, rfl,
    SchemaCache.map_settle _⟩

variable (script e cache scene) in
/-- Whether a failure warrants a second attempt is found out without asking the connection. -/
theorem play_refreshWarranted (cause : Failure) :
    ∃ warranted scene', (e.refreshWarranted script.connection script.caller cause).play cache scene
        = (some (.ok warranted, cache), scene')
      ∧ scene'.cancelled = scene.cancelled ∧ scene'.history = scene.history
      ∧ (warranted = true
        ↔ e.Warrants cause (cache.age script.identity (script.clock scene.looks))) := by
  unfold Engine.refreshWarranted Engine.Warrants
  cases cause.fault with
  | staleSchema => exact ⟨true, scene, rfl, rfl, rfl, by simp⟩
  | notFound =>
    simp only
    rw [Session.play_bind_ok (Session.play_clock script),
      Session.play_bind_ok (Session.play_onCache _)]
    cases hage : cache.age script.identity (script.clock scene.looks) with
    | none =>
      have hage' : cache.age script.connection.identity (script.clock scene.looks) = none := hage
      rw [hage']
      exact ⟨true, scene.look, rfl, rfl, rfl, by simp⟩
    | some age =>
      have hage' : cache.age script.connection.identity (script.clock scene.looks) = some age :=
        hage
      rw [hage']
      exact ⟨_, scene.look, rfl, rfl, rfl, by simp⟩
  | _ => exact ⟨false, scene, rfl, rfl, rfl, by simp⟩

variable (request) in
/-- A newer schema is fetched, and a second attempt is made with it. -/
theorem play_again (h : script.Undisturbed) (hkind : e.registry.require script.kind = .ok ())
    (hc : scene.cancelled = false) {stale : Snapshot} {reply : Reply (List ReportedColumn)}
    (hreply : script.fetch scene.history = ⟨some reply, false⟩)
    (hkept : ∃ entry, cache.entries.find? script.identity = some entry ∧ entry.snapshot = stale) :
    ∃ result kept scene', Session.play (do
          let fresh ← Engine.guarded script.caller .schemaRefresh
            (e.refresh script.connection script.caller stale)
          e.start script.connection script.caller request fresh.schema) cache scene
        = (some (result, kept), scene')
      ∧ match reply.result .schemaFetch .schemaRefresh e.config.schemaTimeout with
        | .error cause => result = .error cause ∧ scene'.history = scene.history ++ [.fetched]
        | .ok columns => script.Attempts e request (Schema.ofReported script.kind.types columns)
            (scene.history ++ [.fetched]) result scene'.history := by
  obtain ⟨fresh, kept, fetched, hrefresh, hsame, hhistory, hfresh⟩ :=
    refresh_eq hkind hreply hkept
  have hguarded : Session.play (Engine.guarded script.caller .schemaRefresh
      (e.refresh script.connection script.caller stale)) cache scene
      = (some (fresh, kept), fetched) := by
    rw [Session.play_guarded, hc]
    exact hrefresh
  cases fresh with
  | error cause =>
    refine ⟨_, _, _, Session.play_bind_error hguarded, ?_⟩
    cases hresult : reply.result .schemaFetch .schemaRefresh e.config.schemaTimeout with
    | ok columns => rw [hresult] at hfresh; cases hfresh
    | error cause' => rw [hresult] at hfresh; cases hfresh; exact ⟨rfl, hhistory⟩
  | ok snapshot =>
    obtain ⟨result, history, hstart, hsecond⟩ :=
      play_start e request kept h (hsame.trans hc) snapshot.schema
    refine ⟨_, _, _, (Session.play_bind_ok hguarded).trans hstart, ?_⟩
    cases hresult : reply.result .schemaFetch .schemaRefresh e.config.schemaTimeout with
    | error cause => rw [hresult] at hfresh; cases hfresh
    | ok columns =>
      rw [hresult] at hfresh
      have hschema : snapshot.schema = Schema.ofReported script.kind.types columns :=
        Except.ok.inj hfresh
      rw [hschema, hhistory] at hsecond
      exact hsecond

variable (request) in
/-- What comes of a request once a snapshot is at hand is one of what is described. -/
theorem play_withCurrentSchema (h : script.Undisturbed)
    (hkind : e.registry.require script.kind = .ok ()) (hc : scene.cancelled = false)
    {snapshot : Snapshot}
    (hkept : ∃ entry, cache.entries.find? script.identity = some entry
      ∧ entry.snapshot = snapshot) :
    ∃ again result kept scene', (e.withCurrentSchema script.connection script.caller snapshot
          (Engine.guarded script.caller .schemaRefresh
            (e.refresh script.connection script.caller snapshot))
          (e.start script.connection script.caller request)).play cache scene
        = (some (result, kept), scene')
      ∧ script.Concludes e request snapshot cache scene again result scene'.history := by
  obtain ⟨first, history, hstart, hfirst⟩ := play_start e request cache h hc snapshot.schema
  cases first with
  | ok answer => exact ⟨_, _, _, _, Session.play_tryCatch_ok hstart, .first hfirst⟩
  | error cause =>
    obtain ⟨warranted, asked, hwarranted, hsame, hidle, hiff⟩ :=
      play_refreshWarranted script e cache { scene with history } cause
    have hcaught := Session.play_withCurrentSchema_error (Engine.guarded script.caller
      .schemaRefresh (e.refresh script.connection script.caller snapshot)) hstart hwarranted
    cases warranted with
    | false =>
      refine ⟨false, .error cause, cache, asked, hcaught, ?_⟩
      rw [hidle]
      exact .stands hfirst fun hcause => nomatch hiff.2 hcause
    | true =>
      obtain ⟨reply, hreply⟩ := h.fetch asked.history
      obtain ⟨result, kept, scene', hagain, hmade⟩ := play_again request h hkind
        (hsame.trans hc) hreply hkept
      refine ⟨true, result, kept, scene', hcaught.trans hagain, ?_⟩
      rw [hidle] at hreply hmade
      cases hfetch : reply.result .schemaFetch .schemaRefresh e.config.schemaTimeout with
      | error cause' =>
        rw [hfetch] at hmade
        obtain ⟨rfl, hadded⟩ := hmade
        rw [hadded]
        exact .unrefreshed hfirst (hiff.1 rfl) (congrArg Answer.reply hreply) hfetch
      | ok columns =>
        rw [hfetch] at hmade
        exact .second hfirst (hiff.1 rfl) (congrArg Answer.reply hreply) hfetch hmade

end Script

/-! ## After a stream is opened -/

namespace Scene

variable {scene scene' scene'' : Scene} {events : List Occurrence}

theorem Continues.rfl : scene.Continues scene :=
  ⟨[], (List.append_nil _).symm, nofun⟩

theorem Continues.trans (h : scene.Continues scene') (h' : scene'.Continues scene'') :
    scene.Continues scene'' := by
  obtain ⟨events, hevents, hnone⟩ := h
  obtain ⟨events', hevents', hnone'⟩ := h'
  refine ⟨events ++ events', by rw [hevents', hevents, List.append_assoc], fun event hmem => ?_⟩
  exact (List.mem_append.1 hmem).elim (hnone event) (hnone' event)

theorem continues_add (h : ∀ event ∈ events, ¬ event.Opens) : scene.Continues (scene.add events) :=
  ⟨events, Eq.refl _, h⟩

theorem continues_cancel : scene.Continues scene.cancel := by
  unfold cancel
  split
  · exact .rfl
  · exact ⟨[.cancelled], Eq.refl _, List.forall_mem_singleton.2 id⟩

theorem continues_enact {α : Type} {event : Occurrence} {given : Answer α}
    {arriving : α → List Occurrence} (hevent : ¬ event.Opens)
    (harriving : ∀ reply, ∀ event ∈ arriving reply, ¬ event.Opens) :
    scene.Continues (scene.enact event given arriving) := by
  have hadded : scene.Continues (scene.add (event :: (given.reply.map arriving).getD [])) := by
    refine continues_add (List.forall_mem_cons.2 ⟨hevent, ?_⟩)
    cases given.reply with
    | none => exact nofun
    | some reply => exact harriving reply
  unfold enact
  split
  · exact hadded.trans continues_cancel
  · exact hadded

end Scene

namespace Script

variable {script : Script} {s : RowStream} {scene : Scene}

theorem not_opens_of_mem_arrival (reply : Reply Page) : ∀ event ∈ arrival reply, ¬ event.Opens := by
  rcases reply with (cause | page) | _ | _
  · exact nofun
  · exact List.forall_mem_singleton.2 id
  · exact nofun
  · exact nofun

theorem not_opens_of_isHandedOut {event : Occurrence} (h : event.IsHandedOut) : ¬ event.Opens := by
  cases event with
  | emitted | ended | failed => exact id
  | fetched | executed | asked | came | released | cancelled => exact h.elim

theorem continues_release : scene.Continues ((s.release script.connection).play scene).2 := by
  rw [RowStream.play_release]
  cases s.openCursor with
  | none => exact .rfl
  | some cursor => exact Scene.continues_enact id fun _ => nofun

theorem continues_finish {ending : Occurrence} (hending : ending.IsHandedOut) :
    scene.Continues (script.finish s scene ending).scene := by
  have hreleased : scene.Continues ((s.release script.connection).play scene).2 := continues_release
  rw [finish]
  rcases hr : (s.release script.connection).play scene with ⟨_ | u, after⟩
  · rw [hr] at hreleased
    exact hreleased
  · rw [hr] at hreleased
    exact hreleased.trans (Scene.continues_add
      (List.forall_mem_singleton.2 (not_opens_of_isHandedOut hending)))

theorem continues_turn :
    scene.Continues (told s ((s.turn script.connection script.caller).play scene)).scene := by
  have hasked (query : NativeQuery) (continuation : Continuation) :
      scene.Continues (scene.enact (.asked query continuation)
        (script.nextPage scene.history query continuation) arrival) :=
    Scene.continues_enact id not_opens_of_mem_arrival
  apply turn_cases (motive := fun t => scene.Continues t.scene)
  case finishes => exact fun ending hending => continues_finish hending
  case hands => exact fun values rest _ => Scene.continues_add (List.forall_mem_singleton.2 id)
  case comes => exact fun _ query continuation page _ => hasked query continuation
  case fails =>
    exact fun _ query continuation reply cause _ _ =>
      (hasked query continuation).trans (continues_finish trivial)
  case waits => exact fun _ query continuation _ => hasked query continuation

/-- Whatever the consumer of a stream does, no query is run anew and no schema is asked for. -/
theorem continues_act (t : Tale) (a : Act) : t.scene.Continues (script.act t a).scene := by
  obtain ⟨standing, scene⟩ := t
  cases a with
  | turn =>
    cases standing with
    | live s => exact continues_turn
    | waiting | closed => exact .rfl
  | cancel =>
    cases standing with
    | live | closed => exact Scene.continues_cancel
    | waiting => exact .rfl
  | drop =>
    cases standing with
    | live | waiting => exact continues_release
    | closed => exact .rfl

theorem continues_foldl (t : Tale) (acts : List Act) :
    t.scene.Continues (acts.foldl script.act t).scene := by
  induction acts generalizing t with
  | nil => exact .rfl
  | cons a acts ih => exact (continues_act t a).trans (ih _)

end Script

/-! ## The whole request -/

namespace Script

variable {script : Script} {e : Engine} {request : Request}

section
variable {history history' : List Occurrence}

theorem executesIn_append {events : List Occurrence} :
    executesIn (history ++ events) = executesIn history + executesIn events :=
  List.countP_append

theorem fetchesIn_append {events : List Occurrence} :
    fetchesIn (history ++ events) = fetchesIn history + fetchesIn events :=
  List.countP_append

/-- An attempt runs at most one query and does not ask for the schema. -/
theorem Attempts.calls {schema : Schema} {result : Except Failure (CompiledQuery × Page)}
    (h : script.Attempts e request schema history result history') :
    executesIn history' ≤ executesIn history + 1 ∧ fetchesIn history' = fetchesIn history := by
  cases h with
  | unplanned => exact ⟨Nat.le_succ _, rfl⟩
  | ran _ _ =>
    rename_i reply _ _
    rw [executesIn_append, fetchesIn_append]
    rcases reply with (cause | page) | _ | _ <;> exact ⟨Nat.le_refl _, rfl⟩

/-- A second attempt and what goes before it are all that there is beyond the first attempt. -/
theorem Concludes.calls {snapshot : Snapshot} {kept : SchemaCache} {scene : Scene} {again : Bool}
    {result : Except Failure (CompiledQuery × Page)}
    (h : script.Concludes e request snapshot kept scene again result history) :
    executesIn history ≤ executesIn scene.history + (if again then 2 else 1)
      ∧ fetchesIn history = fetchesIn scene.history + (if again then 1 else 0) := by
  cases h with
  | first hfirst | stands hfirst => exact hfirst.calls
  | unrefreshed hfirst =>
    rw [executesIn_append, fetchesIn_append, hfirst.calls.2]
    exact ⟨Nat.le_succ_of_le hfirst.calls.1, rfl⟩
  | second hfirst _ _ _ hsecond =>
    have hcalls := hsecond.calls
    rw [executesIn_append, fetchesIn_append, hfirst.calls.2] at hcalls
    exact ⟨Nat.le_trans hcalls.1 (Nat.succ_le_succ hfirst.calls.1), hcalls.2⟩

end

variable (script e request) in
/-- What comes of a request is one of what is described, and costs no more than that allows. -/
theorem play_query (h : script.Undisturbed) (cache : SchemaCache) :
    ∃ again result kept scene,
      (e.query script.connection script.caller request).play cache (.initial false)
        = (some (result, kept), scene)
      ∧ script.Settles e request cache again result scene.history
      ∧ executesIn scene.history ≤ (if again then 2 else 1)
      ∧ fetchesIn scene.history ≤ (if again then 2 else 1) := by
  have hrequire : Session.play (MonadExcept.ofExcept (e.registry.require script.connection.kind))
      cache (.initial false) = (some (e.registry.require script.kind, cache), .initial false) :=
    Session.play_ofExcept _
  cases hkind : e.registry.require script.kind with
  | error cause =>
    rw [hkind] at hrequire
    exact ⟨_, _, _, _, Session.play_bind_error hrequire, .unregistered hkind, Nat.zero_le _,
      Nat.zero_le _⟩
  | ok =>
    rw [hkind] at hrequire
    obtain ⟨found, kept, scene, hlookup, hc, hidle, hfetched, hkept⟩ := lookup_eq cache h hkind
    have hguarded : Session.play (Engine.guarded script.caller .schemaFetch
        (e.schema script.connection script.caller)) cache (.initial false)
        = (some (found, kept), scene) :=
      (Session.play_guarded script .schemaFetch).trans hlookup
    cases found with
    | error cause =>
      exact ⟨_, _, _, _, (Session.play_bind_ok hrequire).trans (Session.play_bind_error hguarded),
        .unknown hlookup hidle, Nat.le_trans (Nat.le_of_eq hidle) (Nat.zero_le _), hfetched⟩
    | ok snapshot =>
      obtain ⟨again, result, kept', scene', hplay, hconcludes⟩ := play_withCurrentSchema
        request h hkind hc (hkept snapshot rfl)
      obtain ⟨hexecutes, hfetches⟩ := hconcludes.calls
      have hopened : (e.query script.connection script.caller request).play cache (.initial false)
          = (some (result.map (streamOf e), kept'), scene') := by
        refine (Session.play_bind_ok hrequire).trans ((Session.play_bind_ok hguarded).trans ?_)
        cases result with
        | error cause => exact Session.play_bind_error hplay
        | ok answer => exact Session.play_bind_ok hplay
      refine ⟨again, _, kept', scene', hopened, .known hlookup hconcludes, ?_, ?_⟩
      · rwa [hidle, Nat.zero_add] at hexecutes
      · cases again with
        | true => exact Nat.le_trans (Nat.le_of_eq hfetches) (Nat.succ_le_succ hfetched)
        | false => exact Nat.le_trans (Nat.le_of_eq hfetches) hfetched

/-- With a caller that does not cancel and a connection that answers every call, in whatever way, a
request is settled as described: it is set about again at most once, only for a failure that
warrants it, and only after the schema has been asked for again. Whatever becomes of its stream
afterwards, no page of it lets the schema be asked for or the query be run anew. -/
theorem query_settles (h : script.Undisturbed) (e : Engine) (request : Request)
    (cache : SchemaCache) :
    ∃ again result kept scene,
      (e.query script.connection script.caller request).play cache (.initial false)
        = (some (result, kept), scene)
      ∧ script.Settles e request cache again result scene.history
      ∧ executesIn scene.history ≤ (if again then 2 else 1)
      ∧ fetchesIn scene.history ≤ (if again then 2 else 1)
      ∧ ∀ acts, scene.Continues (script.tale (.request e request) cache false acts).scene := by
  obtain ⟨again, result, kept, scene, hplay, hsettles, hexecutes, hfetches⟩ :=
    script.play_query e request h cache
  refine ⟨again, result, kept, scene, hplay, hsettles, hexecutes, hfetches, fun acts => ?_⟩
  have hopens : scene.Continues (script.opens (.request e request) cache false).scene := by
    rw [opens, Opening.session, hplay]
    cases result with
    | error cause => exact Scene.continues_add (List.forall_mem_singleton.2 id)
    | ok s => exact .rfl
  exact hopens.trans (continues_foldl _ acts)

/-- A connection whose backend does not know a column the first time. -/
def onceStale : Script where
  kind := .postgres
  identity := ⟨"tags"⟩
  clock n := n
  fetch _ := ⟨some (.answered (.ok [⟨"tags", "name", "text", false⟩])), false⟩
  execute history _ :=
    ⟨some (.answered (if executesIn history = 0 then .error (.unknownToBackend "42703")
      else .ok ⟨[], none⟩)), false⟩
  nextPage _ _ _ := ⟨none, false⟩
  release _ _ := ⟨none, false⟩

/-- A request for one column, to an engine that has every backend. -/
def namesAsked : Request := ⟨"tags", [⟨"name", none, none⟩], [], false⟩

def builtinEngine : Engine := ⟨.default, .builtin⟩

/-- All that a request may cost is needed if the backend finds a newly fetched schema stale. -/
theorem query_settles_onceStale :
    ∃ s kept scene,
      (builtinEngine.query onceStale.connection onceStale.caller namesAsked).play
          builtinEngine.newCache (.initial false) = (some (.ok s, kept), scene)
      ∧ onceStale.Settles builtinEngine namesAsked builtinEngine.newCache true (.ok s) scene.history
      ∧ executesIn scene.history = 2 ∧ fetchesIn scene.history = 2 := by
  have hcalm : onceStale.Undisturbed := ⟨fun _ => ⟨_, rfl⟩, fun _ _ => ⟨_, rfl⟩⟩
  obtain ⟨again, result, kept, scene, hplay, hsettles, hexecutes, -, -⟩ :=
    query_settles hcalm builtinEngine namesAsked builtinEngine.newCache
  have hcounts : let scene := ((builtinEngine.query onceStale.connection onceStale.caller
        namesAsked).play builtinEngine.newCache (.initial false)).2
      executesIn scene.history = 2 ∧ fetchesIn scene.history = 2 := by
    decide +kernel
  have hok : ((builtinEngine.query onceStale.connection onceStale.caller namesAsked).play
      builtinEngine.newCache (.initial false)).1.map (·.1.isOk) = some true := by
    decide +kernel
  rw [hplay] at hcounts hok
  cases again with
  | false => exact absurd hexecutes (by rw [hcounts.1]; decide)
  | true =>
    cases result with
    | error cause => cases hok
    | ok s => exact ⟨s, kept, scene, hplay, hsettles, hcounts⟩

end Script

end Pushdown
