import Pushdown.Cluster.Config
import Pushdown.Proofs.Connection.Encoding
import Pushdown.Proofs.Connection.Sharing
import Pushdown.Proofs.Schema.Sharing

/-!
# Which configurations share a connection

Two configurations of a cluster are served by one cached schema or one pooled connection only if
they agree on the place and on the credentials (`Cluster.Config.never_shares`). Schemas and
connections are kept apart by identity (`SchemaCache.Apart`, `ConnectionPool.Traffic.Apart`), and
the identity tells the parts apart that are hashed for it, unless the hash has a collision on just
these two messages.
-/

namespace Pushdown.Cluster.Config

/-- The labelled parts that the identity covers. -/
def parts (c : Config) : List (String × String) :=
  [ ("backend", BackendKind.elasticsearch.name), ("url", c.url),
    ("user", c.username.getD ""), ("password", c.password.getD "") ]

theorem identity_eq (c : Config) : c.identity = .ofParts c.parts := rfl

/-- The same place with the same credentials, a missing one counting as empty. -/
def Agrees (c c' : Config) : Prop :=
  c.url = c'.url ∧ c.username.getD "" = c'.username.getD ""
    ∧ c.password.getD "" = c'.password.getD ""

instance (c c' : Config) : Decidable (c.Agrees c') :=
  inferInstanceAs (Decidable (_ ∧ _ ∧ _))

/-- The message of one configuration has the hash of the message of the other, and is not it. -/
def Collide (c c' : Config) : Prop :=
  Sha256.Collide (Identity.encode c.parts) (Identity.encode c'.parts)

instance (c c' : Config) : Decidable (c.Collide c') :=
  inferInstanceAs (Decidable (Sha256.Collide _ _))

theorem hasPlainLabels_parts (c : Config) : Identity.HasPlainLabels c.parts := by
  simp only [Identity.HasPlainLabels, parts, List.forall_mem_cons]
  exact ⟨by decide, by decide, by decide, by decide, List.forall_mem_nil _⟩

theorem parts_inj {c c' : Config} : c.parts = c'.parts ↔ c.Agrees c' := by
  simp [parts, Agrees]

theorem identity_inj {c c' : Config} (hfree : ¬ c.Collide c') :
    c.identity = c'.identity ↔ c.Agrees c' := by
  rw [identity_eq, identity_eq, ← parts_inj]
  constructor
  · exact Identity.ofParts_inj c.hasPlainLabels_parts c'.hasPlainLabels_parts hfree
  · exact fun h => congrArg Identity.ofParts h

/-- No two lists of labelled parts have the same bytes. So configurations that do not agree have
identities of their own, as long as their messages are no collision of the hash: whatever is asked
of a schema cache, in whatever order, no snapshot is handed out for both, and whatever happens to a
pool in which every connection is made anew, no connection is handed out for both. -/
theorem never_shares :
    (∀ parts parts' : List (String × String),
        Identity.HasPlainLabels parts → Identity.HasPlainLabels parts' →
        Identity.encode parts = Identity.encode parts' → parts = parts')
      ∧ ∀ c c' : Config, ¬ c.Collide c' →
        (c.identity = c'.identity ↔ c.Agrees c')
        ∧ (∀ capacity defaultTtl calls snapshot snapshot',
            let l := SchemaCache.Ledger.ofCalls capacity defaultTtl calls
            (∃ event ∈ l.events, SchemaCache.hands? event = some (c.identity, snapshot)) →
            (∃ event ∈ l.events, SchemaCache.hands? event = some (c'.identity, snapshot')) →
            snapshot.serial = snapshot'.serial → c.Agrees c')
        ∧ (∀ capacity defaultTtl acts snapshot snapshot',
            let t := SharedCache.Traffic.ofActs (.ofCapacity capacity defaultTtl) acts
            (∃ call ∈ t.calls, call.handed? = some (c.identity, snapshot)) →
            (∃ call ∈ t.calls, call.handed? = some (c'.identity, snapshot')) →
            snapshot.serial = snapshot'.serial → c.Agrees c')
        ∧ (∀ (γ : Type) [DecidableEq γ] capacity idleTtl connectTimeout
            (acts : List (ConnectionPool.Act γ)) (g : γ),
            (acts.filterMap ConnectionPool.Act.made?).Nodup →
            let t := ConnectionPool.Traffic.ofActs
              (.ofCapacity capacity idleTtl connectTimeout) acts
            (∃ call ∈ t.calls, call.errand = .obtain c.identity
              ∧ call.stage.promised? = some g) →
            (∃ call ∈ t.calls, call.errand = .obtain c'.identity
              ∧ call.stage.promised? = some g) →
            c.Agrees c') := by
  refine ⟨fun parts parts' => Identity.encode_inj,
    fun c c' hfree => ⟨identity_inj hfree, ?_, ?_, ?_⟩⟩
  · rintro capacity defaultTtl calls snapshot snapshot' l ⟨event, hmem, hhands⟩
      ⟨event', hmem', hhands'⟩ hserial
    have hpair := (SchemaCache.Ledger.apart_ofCalls capacity defaultTtl calls).owner _ _
      (.inl (List.mem_filterMap.2 ⟨event, hmem, hhands⟩))
      (.inl (List.mem_filterMap.2 ⟨event', hmem', hhands'⟩)) hserial
    exact (identity_inj hfree).1 (Prod.mk.inj hpair).1
  · rintro capacity defaultTtl acts snapshot snapshot' t ⟨call, hmem, hhanded⟩
      ⟨call', hmem', hhanded'⟩ hserial
    have hpair := (SharedCache.Traffic.apart_ofActs capacity defaultTtl acts).owner _ _
      (.inl (List.mem_filterMap.2 ⟨call, hmem, hhanded⟩))
      (.inl (List.mem_filterMap.2 ⟨call', hmem', hhanded'⟩)) hserial
    exact (identity_inj hfree).1 (Prod.mk.inj hpair).1
  · rintro γ _ capacity idleTtl connectTimeout acts g hfresh t ⟨call, hmem, herrand, hpromised⟩
      ⟨call', hmem', herrand', hpromised'⟩
    have hapart := ConnectionPool.Traffic.apart_ofActs capacity idleTtl connectTimeout acts hfresh
    have hbound {s : Stage γ} (h : s.promised? = some g) : s.bound? = some g := by
      cases s with
      | ended result => cases result <;> exact h
      | closingDisplaced old fresh => exact h
      | _ => cases h
    exact (identity_inj hfree).1 (hapart.owner _ _ g
      (.inl ⟨call, hmem, herrand, hbound hpromised⟩)
      (.inl ⟨call', hmem', herrand', hbound hpromised'⟩))

section

/-- No credentials. -/
def bare : Config := ofUrl "http://a/"

/-- Credentials that are empty. -/
def blank : Config := bare.withCredentials "" ""

variable (identity : Identity)

/-- A schema is stored, and looked up later. -/
def storedOnce : List SchemaCache.Call := [.store identity ⟨[]⟩ 0, .get identity 1]

theorem hands?_storedOnce :
    (SchemaCache.Ledger.ofCalls 4 60 (storedOnce identity)).events.filterMap SchemaCache.hands?
      = [(identity, ⟨0, ⟨[]⟩⟩), (identity, ⟨0, ⟨[]⟩⟩)] := by
  simp [storedOnce, SchemaCache.Ledger.ofCalls, SchemaCache.Ledger.add, SchemaCache.perform,
    SchemaCache.ofCapacity, SchemaCache.store, SchemaCache.storeFor, SchemaCache.get,
    SchemaCache.Entry.isExpired, SchemaCache.hands?]

/-- One call fetches a schema, and a later one finds it. -/
def fetchedOnce : List SharedCache.Act :=
  [.start ⟨identity, 60, .fresh⟩, .start ⟨identity, 60, .fresh⟩, .move 0 (.look 0), .move 0 .join,
    .move 0 (.resume 0), .move 0 (.finish (.ok ⟨[]⟩) 1), .move 1 (.look 2)]

open SharedCache in
theorem handed?_fetchedOnce :
    (Traffic.ofActs (.ofCapacity 4 60) (fetchedOnce identity)).calls.filterMap Call.handed?
      = [(identity, ⟨0, ⟨[]⟩⟩), (identity, ⟨0, ⟨[]⟩⟩)] := by
  simp [fetchedOnce, Traffic.ofActs, Traffic.act, Traffic.move, Traffic.put, ofCache, look, join,
    resume, finish, SchemaCache.ofCapacity, SchemaCache.consult, SchemaCache.get,
    SchemaCache.recheck, SchemaCache.peekFresh, SchemaCache.settle, SchemaCache.storeFor,
    SchemaCache.countMiss, SchemaCache.countFetch, SchemaCache.countHit,
    SchemaCache.Entry.isExpired, FetchLocks.empty, FetchLocks.take, FetchLocks.mayGo,
    FetchLocks.lockOf?, FetchLocks.heldBy?, FetchLocks.first?, Stage.ofLook, Stage.ofProgress,
    Call.handed?]

/-- One call makes a connection, and a later one is handed it. -/
def madeOnce : List (ConnectionPool.Act Nat) :=
  [.start (.obtain identity) 0, .move 0 (.make (.ok 7)),
    .move 0 (.connect (.answered (.ok ())) 1), .start (.obtain identity) 2]

open ConnectionPool in
theorem promised?_madeOnce :
    (Traffic.ofActs (.ofCapacity 4 60 10) (madeOnce identity)).calls.map
        (fun call => (call.errand, call.stage.promised?))
      = [(.obtain identity, some 7), (.obtain identity, some 7)] := by
  simp [madeOnce, Traffic.ofActs, Traffic.act, Traffic.move, Traffic.put, ofCapacity, start,
    checkOut, checkIn, connected, isIdle, Call.at, Stage.made, Stage.promised?, Reply.result,
    Recent.ofCapacity, Recent.find?, Recent.size, Recent.put]

/-- Missing credentials count as empty ones. The name of a user is not taken for a password. -/
theorem never_shares_blank :
    Identity.HasPlainLabels bare.parts ∧ Identity.HasPlainLabels blank.parts
      ∧ Identity.encode bare.parts = Identity.encode blank.parts ∧ bare.parts = blank.parts
      ∧ ¬ bare.Collide blank
      ∧ (let l := SchemaCache.Ledger.ofCalls 4 60 (storedOnce bare.identity)
        (∃ event ∈ l.events, SchemaCache.hands? event = some (bare.identity, ⟨0, ⟨[]⟩⟩))
          ∧ (∃ event ∈ l.events, SchemaCache.hands? event = some (blank.identity, ⟨0, ⟨[]⟩⟩))
          ∧ bare.Agrees blank)
      ∧ (let t := SharedCache.Traffic.ofActs (.ofCapacity 4 60) (fetchedOnce bare.identity)
        (∃ call ∈ t.calls, call.handed? = some (bare.identity, ⟨0, ⟨[]⟩⟩))
          ∧ (∃ call ∈ t.calls, call.handed? = some (blank.identity, ⟨0, ⟨[]⟩⟩))
          ∧ bare.Agrees blank)
      ∧ (let t := ConnectionPool.Traffic.ofActs (.ofCapacity 4 60 10) (madeOnce bare.identity)
        ((madeOnce bare.identity).filterMap ConnectionPool.Act.made?).Nodup
          ∧ (∃ call ∈ t.calls, call.errand = .obtain bare.identity ∧ call.stage.promised? = some 7)
          ∧ (∃ call ∈ t.calls, call.errand = .obtain blank.identity ∧ call.stage.promised? = some 7)
          ∧ bare.Agrees blank)
      ∧ ¬ (bare.withCredentials "a" "b").Collide (bare.withCredentials "ab" "")
      ∧ (bare.withCredentials "a" "b").identity ≠ (bare.withCredentials "ab" "").identity := by
  have hplain := bare.hasPlainLabels_parts
  have hplain' := blank.hasPlainLabels_parts
  have hencode : Identity.encode bare.parts = Identity.encode blank.parts := rfl
  have hfree : ¬ bare.Collide blank := fun h => h.1 hencode
  have hfree' : ¬ (bare.withCredentials "a" "b").Collide (bare.withCredentials "ab" "") := by
    decide +kernel
  have hstored : ∃ event ∈ (SchemaCache.Ledger.ofCalls 4 60 (storedOnce bare.identity)).events,
      SchemaCache.hands? event = some (bare.identity, ⟨0, ⟨[]⟩⟩) :=
    List.mem_filterMap.1 (hands?_storedOnce bare.identity ▸ List.mem_cons_self)
  have hfetched : ∃ call ∈ (SharedCache.Traffic.ofActs (.ofCapacity 4 60)
      (fetchedOnce bare.identity)).calls, call.handed? = some (bare.identity, ⟨0, ⟨[]⟩⟩) :=
    List.mem_filterMap.1 (handed?_fetchedOnce bare.identity ▸ List.mem_cons_self)
  have hmade : ∃ call ∈ (ConnectionPool.Traffic.ofActs (.ofCapacity 4 60 10)
      (madeOnce bare.identity)).calls,
        call.errand = .obtain bare.identity ∧ call.stage.promised? = some 7 := by
    obtain ⟨call, hmem, hcall⟩ :=
      List.mem_map.1 (promised?_madeOnce bare.identity ▸ List.mem_cons_self)
    exact ⟨call, hmem, Prod.mk.inj hcall⟩
  obtain ⟨-, hledger, htraffic, hpool⟩ := never_shares.2 bare blank hfree
  exact ⟨hplain, hplain', hencode, never_shares.1 _ _ hplain hplain' hencode, hfree,
    ⟨hstored, hstored, hledger 4 60 _ _ _ hstored hstored rfl⟩,
    ⟨hfetched, hfetched, htraffic 4 60 _ _ _ hfetched hfetched rfl⟩,
    ⟨by decide, hmade, hmade, hpool Nat 4 60 10 _ 7 (by decide) hmade hmade⟩, hfree',
    fun h => absurd ((never_shares.2 _ _ hfree').1.1 h) (by decide)⟩

end

end Pushdown.Cluster.Config
