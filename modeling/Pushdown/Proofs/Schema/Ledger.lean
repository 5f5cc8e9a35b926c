import Mathlib.Data.List.Induction
import Pushdown.Proofs.Store.Recency
import Pushdown.Schema.Cache

/-!
# What a schema cache keeps over any run of calls

A `Ledger` is a cache with everything that was asked of it so far and what it answered, one call
after another. From the events alone it can be told when an identity was last stored or looked up
(`SchemaCache.lastUse`) and what was last stored for it (`SchemaCache.lastStored`).

`SchemaCache.keeps_ledger` says what the cache is at every point of a run by these two: it holds no
more than it has room for, what is in it is what was stored last, and an entry comes by a call that
stores it and leaves for one of four reasons (`SchemaCache.Ledger.Kept.find?_add`,
`SchemaCache.Ledger.Kept.find?_or_stores`, `SchemaCache.Ledger.Leaves`). Everything follows from
what one call can do to the entries (`SchemaCache.Effect`, `SchemaCache.effect_perform`).
-/

namespace Pushdown.SchemaCache

/-! ## Calls and their answers -/

/-- A call on a cache, with the times at which it looks at the clock. -/
inductive Call where
  | store (identity : Identity) (schema : Schema) (now : Nat)
  | storeFor (identity : Identity) (schema : Schema) (ttl now : Nat)
  | get (identity : Identity) (now : Nat)
  | age (identity : Identity) (now : Nat)
  | invalidate (identity : Identity)
  /-- An errand, with what its fetch brings if it comes to that. -/
  | serve (errand : Errand) (fetched : Except Failure Schema) (consulted rechecked settled : Nat)
  deriving Repr, Inhabited

/-- What a call is answered. -/
inductive Answer where
  | stored (snapshot : Snapshot)
  | found (snapshot : Option Snapshot)
  | aged (age : Option Nat)
  | invalidated (present : Bool)
  /-- What came of an errand, and whether it came to a fetch. -/
  | served (outcome : Except Failure Snapshot) (fetched : Bool)
  deriving Repr, Inhabited

/-- An errand from its second look to its end. -/
def pursue (c : SchemaCache) (errand : Errand) (fetched : Except Failure Schema)
    (rechecked settled : Nat) : Answer × SchemaCache :=
  match c.recheck errand rechecked with
  | (some snapshot, c) => (.served (.ok snapshot) false, c)
  | (none, c) => (c.settle errand fetched settled).map (.served · true) id

/-- An errand from its first look to its end, with nothing in between but its own fetch. -/
def serve (c : SchemaCache) (errand : Errand) (fetched : Except Failure Schema)
    (consulted rechecked settled : Nat) : Answer × SchemaCache :=
  match c.consult errand consulted with
  | (some snapshot, c) => (.served (.ok snapshot) false, c)
  | (none, c) => c.pursue errand fetched rechecked settled

/-- A call is answered. -/
def perform (c : SchemaCache) : Call → Answer × SchemaCache
  | .store identity schema now => (c.store identity schema now).map .stored id
  | .storeFor identity schema ttl now => (c.storeFor identity schema ttl now).map .stored id
  | .get identity now => (c.get identity now).map .found id
  | .age identity now => (.aged (c.age identity now), c)
  | .invalidate identity => (c.invalidate identity).map .invalidated id
  | .serve errand fetched consulted rechecked settled =>
    c.serve errand fetched consulted rechecked settled

/-- A cache with what has happened to it, in order. -/
structure Ledger where
  cache : SchemaCache
  events : List (Call × Answer)

/-- One more call. -/
def Ledger.add (l : Ledger) (call : Call) : Ledger :=
  ⟨(l.cache.perform call).2, l.events ++ [(call, (l.cache.perform call).1)]⟩

/-- A new cache after some calls. -/
def Ledger.ofCalls (capacity defaultTtl : Nat) (calls : List Call) : Ledger :=
  calls.foldl Ledger.add ⟨ofCapacity capacity defaultTtl, []⟩

/-! ## What the events tell -/

/-- The identity that a call stores or looks up. Asking for the age of an entry is no look at it. -/
def Call.uses? : Call → Option Identity
  | .store identity .. | .storeFor identity .. | .get identity _ => some identity
  | .serve errand .. => some errand.identity
  | .age .. | .invalidate _ => none

/-- The number of calls up to the last one that stored or looked up an identity. -/
def lastUse (events : List (Call × Answer)) (identity : Identity) : Nat :=
  (events.reverse.dropWhile fun event => event.1.uses? ≠ some identity).length

/-- The entry that is stored by an event. -/
def stores? (defaultTtl : Nat) : Call × Answer → Option (Identity × Entry)
  | (.store identity _ now, .stored snapshot) => some (identity, ⟨snapshot, now, defaultTtl⟩)
  | (.storeFor identity _ ttl now, .stored snapshot) => some (identity, ⟨snapshot, now, ttl⟩)
  | (.serve errand _ _ _ settled, .served (.ok snapshot) true) =>
    some (errand.identity, ⟨snapshot, settled, errand.ttl⟩)
  | _ => none

/-- The schema that an event brings: one that is given to the cache, or one that is fetched. -/
def brings? : Call × Answer → Option (Identity × Schema)
  | (.store identity schema _, _) => some (identity, schema)
  | (.storeFor identity schema _ _, _) => some (identity, schema)
  | (.serve errand (.ok schema) _ _ _, .served _ true) => some (errand.identity, schema)
  | _ => none

/-- The entry that was stored last for an identity. -/
def lastStored (defaultTtl : Nat) (events : List (Call × Answer)) (identity : Identity) :
    Option Entry :=
  (events.reverse.filterMap (stores? defaultTtl)).lookup identity

/-- Whether a call looks for any fresh snapshot of an identity at a time, and drops an expired
one. -/
def Call.SeeksFresh (identity : Identity) (now : Nat) : Call → Prop
  | .get identity' now' => identity' = identity ∧ now' = now
  | .serve errand _ consulted _ _ =>
    errand.aim = .fresh ∧ errand.identity = identity ∧ consulted = now
  | _ => False

/-- Whether a call counts as a hit or a miss. -/
def Call.isCounted : Call → Bool
  | .get .. => true
  | .serve errand .. => errand.aim = .fresh
  | _ => false

/-- Whether a fetch was run. -/
def Answer.isFetched : Answer → Bool
  | .served _ fetched => fetched
  | _ => false

/-- Why an entry leaves a cache when a call is answered. -/
inductive Ledger.Leaves (l : Ledger) (call : Call) (identity : Identity) (entry : Entry) : Prop
  where
  | invalidated (h : call = .invalidate identity)
  /-- A look for a fresh snapshot finds the entry expired. -/
  | expired {now : Nat} (hlook : call.SeeksFresh identity now) (h : entry.isExpired now = true)
  /-- Another one is stored for the identity. -/
  | replaced {entry' : Entry}
      (h : stores? l.cache.defaultTtl (call, (l.cache.perform call).1) = some (identity, entry'))
  /-- One is stored for a new identity into a full cache, and this one was stored or looked up the
  longest ago. -/
  | displaced {other : Identity} {entry' : Entry}
      (hstores : stores? l.cache.defaultTtl (call, (l.cache.perform call).1) = some (other, entry'))
      (hnew : l.cache.entries.find? other = none)
      (hfull : l.cache.size = l.cache.entries.capacity)
      (holdest : ∀ other ∈ l.cache.entries.keys, other ≠ identity →
        lastUse l.events identity < lastUse l.events other)

/-! ## What one call does -/

variable {c : SchemaCache} {call : Call}

theorem perform_get (c : SchemaCache) (identity : Identity) (now : Nat) :
    c.perform (.get identity now) = (c.get identity now).map .found id := rfl

theorem perform_serve (c : SchemaCache) (errand : Errand) (fetched : Except Failure Schema)
    (consulted rechecked settled : Nat) :
    c.perform (.serve errand fetched consulted rechecked settled)
      = c.serve errand fetched consulted rechecked settled := rfl

/-- What a call can do to the entries of a cache. -/
inductive Effect (c : SchemaCache) (call : Call) (answer : Answer) :
    Recent Identity Entry → Prop where
  /-- Nothing is looked at. -/
  | aside (huses : call.uses? = none) (hstores : stores? c.defaultTtl (call, answer) = none) :
      Effect c call answer c.entries
  | invalidated {identity : Identity} (hcall : call = .invalidate identity)
      (hstores : stores? c.defaultTtl (call, answer) = none) :
      Effect c call answer (c.entries.erase identity)
  | expired {identity : Identity} {now : Nat} {entry : Entry}
      (huses : call.uses? = some identity) (hlook : call.SeeksFresh identity now)
      (hfind : c.entries.find? identity = some entry) (hexpired : entry.isExpired now = true)
      (hstores : stores? c.defaultTtl (call, answer) = none) :
      Effect c call answer (c.entries.erase identity)
  | looked {identity : Identity} (huses : call.uses? = some identity)
      (hstores : stores? c.defaultTtl (call, answer) = none) :
      Effect c call answer (c.entries.touch identity)
  | stored {identity : Identity} {entry : Entry} (huses : call.uses? = some identity)
      (hstores : stores? c.defaultTtl (call, answer) = some (identity, entry)) :
      Effect c call answer (c.entries.put identity entry).2

/-- A look for a fresh snapshot finds nothing, or an expired entry, or a fresh one. -/
theorem get_cases (c : SchemaCache) (identity : Identity) (now : Nat) :
    (c.entries.find? identity = none ∧ c.get identity now = (none, c.countMiss))
      ∨ (∃ entry, c.entries.find? identity = some entry ∧ entry.isExpired now = true
          ∧ c.get identity now = (none, (c.dropExpired identity).countMiss))
      ∨ ∃ entry, c.entries.find? identity = some entry ∧ entry.isExpired now = false
          ∧ c.get identity now
            = (some entry.snapshot, { c with entries := c.entries.touch identity }.countHit) := by
  rw [get]
  cases hfind : c.entries.find? identity with
  | none => exact .inl ⟨rfl, rfl⟩
  | some entry =>
    cases hexpired : entry.isExpired now with
    | true => exact .inr (.inl ⟨entry, rfl, hexpired, by simp [hexpired]⟩)
    | false => exact .inr (.inr ⟨entry, rfl, hexpired, by simp [hexpired]⟩)

/-- An errand looks at once, or only when it may fetch. -/
theorem serve_cases (c : SchemaCache) (errand : Errand) (fetched : Except Failure Schema)
    (consulted rechecked settled : Nat) :
    (errand.aim ≠ .fresh ∧ c.serve errand fetched consulted rechecked settled
        = c.pursue errand fetched rechecked settled)
      ∨ errand.aim = .fresh ∧ c.serve errand fetched consulted rechecked settled
        = match c.get errand.identity consulted with
          | (some snapshot, c) => (.served (.ok snapshot) false, c)
          | (none, c) => c.pursue errand fetched rechecked settled := by
  rw [serve, consult]
  cases errand.aim with
  | fresh => exact .inr ⟨rfl, rfl⟩
  | newerThan stale => exact .inl ⟨nofun, rfl⟩

/-! ### What it does to the entries -/

/-- The second look makes an entry the most recently used. -/
theorem entries_recheck (c : SchemaCache) (errand : Errand) (now : Nat) :
    (c.recheck errand now).2.entries = c.entries.touch errand.identity := by
  simp only [recheck, peekFresh]
  split <;> rfl

section
variable (errand : Errand) (fetched : Except Failure Schema) (consulted rechecked settled : Nat)

/-- An errand that looks again stores what it fetched, or has looked and no more. -/
theorem entries_pursue (c : SchemaCache) (defaultTtl : Nat) :
    (stores? defaultTtl (.serve errand fetched consulted rechecked settled,
          (c.pursue errand fetched rechecked settled).1) = none
        ∧ (c.pursue errand fetched rechecked settled).2.entries = c.entries.touch errand.identity)
      ∨ ∃ entry, stores? defaultTtl (.serve errand fetched consulted rechecked settled,
            (c.pursue errand fetched rechecked settled).1) = some (errand.identity, entry)
          ∧ (c.pursue errand fetched rechecked settled).2.entries
            = (c.entries.put errand.identity entry).2 := by
  have hentries := entries_recheck c errand rechecked
  unfold pursue
  split
  · next snapshot c' hrecheck =>
    rw [hrecheck] at hentries
    exact .inl ⟨rfl, hentries⟩
  · next c' hrecheck =>
    rw [hrecheck] at hentries
    cases fetched with
    | error cause => exact .inl ⟨rfl, hentries⟩
    | ok schema =>
      refine .inr ⟨⟨⟨c'.nextSerial, schema⟩, settled, errand.ttl⟩, rfl, ?_⟩
      rw [← Recent.put_touch, ← hentries]
      rfl

/-- An errand for which there is no expired entry looks, and stores what it fetched if it comes to
that. -/
theorem effect_pursue {c' : SchemaCache} (hentries : c'.entries = c.entries) :
    Effect c (.serve errand fetched consulted rechecked settled)
      (c'.pursue errand fetched rechecked settled).1
      (c'.pursue errand fetched rechecked settled).2.entries := by
  obtain ⟨hstores, heq⟩ | ⟨entry, hstores, heq⟩ :=
    entries_pursue errand fetched consulted rechecked settled c' c.defaultTtl
  · rw [heq, hentries]
    exact .looked rfl hstores
  · rw [heq, hentries]
    exact .stored rfl hstores

/-- What an errand can do to the entries. -/
theorem effect_serve (h : c.entries.Sound) :
    Effect c (.serve errand fetched consulted rechecked settled)
      (c.serve errand fetched consulted rechecked settled).1
      (c.serve errand fetched consulted rechecked settled).2.entries := by
  obtain ⟨-, heq⟩ | ⟨haim, heq⟩ := serve_cases c errand fetched consulted rechecked settled
  · rw [heq]
    exact effect_pursue _ _ _ _ _ rfl
  rw [heq]
  obtain ⟨-, hget⟩ | ⟨entry, hfind, hexpired, hget⟩ | ⟨entry, -, -, hget⟩ :=
    get_cases c errand.identity consulted
  · rw [hget]
    exact effect_pursue _ _ _ _ _ rfl
  · rw [hget]
    obtain ⟨hstores, heq⟩ | ⟨entry', hstores, heq⟩ := entries_pursue errand fetched consulted
      rechecked settled (c.dropExpired errand.identity).countMiss c.defaultTtl
    · have hgone : (c.entries.erase errand.identity).touch errand.identity
          = c.entries.erase errand.identity := by
        rw [Recent.touch, Recent.find?_erase_self]
      simp only [heq]
      exact hgone ▸ .expired rfl ⟨haim, rfl, rfl⟩ hfind hexpired hstores
    · have hput : ((c.entries.erase errand.identity).put errand.identity entry').2
          = (c.entries.put errand.identity entry').2 := Recent.put_erase h _ _
      simp only [heq]
      exact hput ▸ .stored rfl hstores
  · rw [hget]
    exact .looked rfl rfl

end

/-- What a call can do to the entries. -/
theorem effect_perform (h : c.entries.Sound) (call : Call) :
    Effect c call (c.perform call).1 (c.perform call).2.entries := by
  cases call with
  | store identity schema now =>
    have hstores : stores? c.defaultTtl (.store identity schema now,
        (c.perform (.store identity schema now)).1)
          = some (identity, ⟨⟨c.nextSerial, schema⟩, now, c.defaultTtl⟩) := rfl
    exact .stored rfl hstores
  | storeFor identity schema ttl now =>
    have hstores : stores? c.defaultTtl (.storeFor identity schema ttl now,
        (c.perform (.storeFor identity schema ttl now)).1)
          = some (identity, ⟨⟨c.nextSerial, schema⟩, now, ttl⟩) := rfl
    exact .stored rfl hstores
  | get identity now =>
    rw [perform_get]
    obtain ⟨hfind, hget⟩ | ⟨entry, hfind, hexpired, hget⟩ | ⟨entry, -, -, hget⟩ :=
      get_cases c identity now
    · have hsame : c.entries.touch identity = c.entries := by rw [Recent.touch, hfind]
      rw [hget]
      exact hsame ▸ .looked rfl rfl
    · rw [hget]
      exact .expired rfl ⟨rfl, rfl⟩ hfind hexpired rfl
    · rw [hget]
      exact .looked rfl rfl
  | age identity now => exact .aside rfl rfl
  | invalidate identity => exact .invalidated rfl rfl
  | serve errand fetched consulted rechecked settled => exact effect_serve _ _ _ _ _ h

/-! ### What it stores -/

section
variable (defaultTtl : Nat) (errand : Errand) (fetched : Except Failure Schema)
  (consulted rechecked settled : Nat)

/-- An errand that looks again stores the schema that it fetched. -/
theorem map_stores_pursue (c : SchemaCache) :
    (stores? defaultTtl (.serve errand fetched consulted rechecked settled,
        (c.pursue errand fetched rechecked settled).1)).map
        (fun stored => (stored.1, stored.2.snapshot.schema))
      = brings? (.serve errand fetched consulted rechecked settled,
        (c.pursue errand fetched rechecked settled).1) := by
  unfold pursue
  split
  · cases fetched <;> rfl
  · cases fetched <;> rfl

/-- A call stores the schema that it brings, and nothing if it brings none. -/
theorem map_stores_perform (c : SchemaCache) (call : Call) :
    (stores? defaultTtl (call, (c.perform call).1)).map
        (fun stored => (stored.1, stored.2.snapshot.schema))
      = brings? (call, (c.perform call).1) := by
  cases call with
  | store | storeFor | get | age | invalidate => rfl
  | serve errand fetched consulted rechecked settled =>
    rw [perform_serve]
    obtain ⟨-, heq⟩ | ⟨-, heq⟩ := serve_cases c errand fetched consulted rechecked settled
    · rw [heq, map_stores_pursue]
    · rw [heq]
      split
      · cases fetched <;> rfl
      · exact map_stores_pursue _ _ _ _ _ _ _

end

/-! ### What it does to the counts -/

/-- The counts of a cache after a call, given those before it. -/
structure Counts (before after : Stats) (call : Call) (answer : Answer) : Prop where
  looks : after.hits + after.misses = before.hits + before.misses + call.isCounted.toNat
  fetches : after.fetches = before.fetches + answer.isFetched.toNat
  /-- Every expired entry that is dropped makes for a miss. -/
  evictions : after.expiredEvictions + before.misses ≤ before.expiredEvictions + after.misses

/-- An errand that looks again counts its fetch and nothing else. -/
theorem stats_pursue (c : SchemaCache) (errand : Errand) (fetched : Except Failure Schema)
    (rechecked settled : Nat) :
    (c.pursue errand fetched rechecked settled).2.stats
      = { c.stats with fetches := c.stats.fetches
            + (c.pursue errand fetched rechecked settled).1.isFetched.toNat } := by
  have hpeek : (c.peekFresh errand.identity rechecked).2.stats = c.stats := rfl
  unfold pursue recheck
  cases hfound : (c.peekFresh errand.identity rechecked).1.filter errand.aim.accepts with
  | some snapshot => simp [hfound, hpeek, Answer.isFetched]
  | none => cases fetched <;> simp [hfound, hpeek, Answer.isFetched, settle, storeFor, countFetch]

/-- A look for a fresh snapshot is a hit or a miss, and drops an entry only as a miss. -/
theorem stats_get (c : SchemaCache) (identity : Identity) (now : Nat) :
    (c.get identity now).2.stats.hits + (c.get identity now).2.stats.misses
        = c.stats.hits + c.stats.misses + 1
      ∧ (c.get identity now).2.stats.fetches = c.stats.fetches
      ∧ (c.get identity now).2.stats.expiredEvictions + c.stats.misses
        ≤ c.stats.expiredEvictions + (c.get identity now).2.stats.misses := by
  obtain ⟨-, hget⟩ | ⟨entry, -, -, hget⟩ | ⟨entry, -, -, hget⟩ := get_cases c identity now <;>
    simp [hget, countMiss, countHit, dropExpired] <;> omega

/-- What a call does to the counts. -/
theorem counts_perform (c : SchemaCache) (call : Call) :
    Counts c.stats (c.perform call).2.stats call (c.perform call).1 := by
  cases call with
  | store | storeFor | age | invalidate => exact ⟨rfl, rfl, Nat.le_refl _⟩
  | get identity now =>
    obtain ⟨hlooks, hfetches, hevictions⟩ := stats_get c identity now
    exact ⟨hlooks, hfetches, hevictions⟩
  | serve errand fetched consulted rechecked settled =>
    rw [perform_serve]
    obtain ⟨haim, heq⟩ | ⟨haim, heq⟩ := serve_cases c errand fetched consulted rechecked settled
    · have hstats := stats_pursue c errand fetched rechecked settled
      rw [heq]
      refine ⟨?_, ?_, ?_⟩ <;> simp [hstats, Call.isCounted, haim]
    · obtain ⟨hlooks, hfetches, hevictions⟩ := stats_get c errand.identity consulted
      rw [heq]
      cases hfound : c.get errand.identity consulted with
      | mk found c' =>
        rw [hfound] at hlooks hfetches hevictions
        cases found with
        | some snapshot =>
          refine ⟨?_, hfetches, hevictions⟩
          simpa [Call.isCounted, haim] using hlooks
        | none =>
          have hstats := stats_pursue c' errand fetched rechecked settled
          refine ⟨?_, ?_, ?_⟩ <;> simp [hstats, Call.isCounted, haim]
          · exact hlooks
          · exact hfetches
          · exact hevictions

/-! ### What it leaves alone -/

/-- The default time to live is the same after a look for a fresh snapshot. -/
theorem defaultTtl_get (c : SchemaCache) (identity : Identity) (now : Nat) :
    (c.get identity now).2.defaultTtl = c.defaultTtl := by
  obtain ⟨-, hget⟩ | ⟨entry, -, -, hget⟩ | ⟨entry, -, -, hget⟩ := get_cases c identity now <;>
    rw [hget] <;> rfl

/-- The same after an errand from its second look on. -/
theorem defaultTtl_pursue (c : SchemaCache) (errand : Errand) (fetched : Except Failure Schema)
    (rechecked settled : Nat) :
    (c.pursue errand fetched rechecked settled).2.defaultTtl = c.defaultTtl := by
  have hrecheck : (c.recheck errand rechecked).2.defaultTtl = c.defaultTtl := by
    simp only [recheck, peekFresh]
    split <;> rfl
  unfold pursue
  split
  · next hfound => rwa [hfound] at hrecheck
  · next hfound =>
    rw [hfound] at hrecheck
    cases fetched <;> exact hrecheck

/-- The same after any call. -/
theorem defaultTtl_perform (c : SchemaCache) (call : Call) :
    (c.perform call).2.defaultTtl = c.defaultTtl := by
  cases call with
  | store | storeFor | age | invalidate => rfl
  | get identity now => exact defaultTtl_get c identity now
  | serve errand fetched consulted rechecked settled =>
    rw [perform_serve]
    obtain ⟨-, heq⟩ | ⟨-, heq⟩ := serve_cases c errand fetched consulted rechecked settled
    · rw [heq, defaultTtl_pursue]
    · have hget := defaultTtl_get c errand.identity consulted
      rw [heq]
      split
      · next hfound => rwa [hfound] at hget
      · next hfound =>
        rw [hfound] at hget
        rw [defaultTtl_pursue, hget]

/-! ## What a run keeps -/

theorem lastUse_concat (events : List (Call × Answer)) (event : Call × Answer)
    (identity : Identity) :
    lastUse (events ++ [event]) identity
      = if event.1.uses? = some identity then events.length + 1 else lastUse events identity := by
  rw [lastUse, List.reverse_concat, List.dropWhile_cons]
  by_cases h : event.1.uses? = some identity <;> simp [h, lastUse]

theorem lastUse_le_length (events : List (Call × Answer)) (identity : Identity) :
    lastUse events identity ≤ events.length := by
  have hle := (List.dropWhile_sublist (l := events.reverse)
    fun event => decide (event.1.uses? ≠ some identity)).length_le
  rwa [List.length_reverse] at hle

theorem lastStored_concat (defaultTtl : Nat) (events : List (Call × Answer))
    (event : Call × Answer) (identity : Identity) :
    lastStored defaultTtl (events ++ [event]) identity
      = match stores? defaultTtl event with
        | some (stored, entry) =>
          if stored = identity then some entry else lastStored defaultTtl events identity
        | none => lastStored defaultTtl events identity := by
  rw [lastStored, List.reverse_concat, List.filterMap_cons]
  cases hstores : stores? defaultTtl event with
  | none => rfl
  | some stored =>
    obtain ⟨stored, entry⟩ := stored
    rw [List.lookup_cons]
    by_cases h : stored = identity
    · simp [h]
    · have hbeq : (identity == stored) = false := by simpa using Ne.symm h
      simp [h, hbeq, lastStored]

namespace Ledger

variable {l : Ledger} {capacity defaultTtl : Nat}

/-- What a ledger says of its cache at every point of a run. -/
structure Kept (capacity defaultTtl : Nat) (l : Ledger) : Prop where
  capacity_eq : l.cache.entries.capacity = capacity
  ttl_eq : l.cache.defaultTtl = defaultTtl
  sound : l.cache.entries.Sound
  /-- The entries stand in the order in which they were last stored or looked up. -/
  ordered : l.cache.entries.OrderedBy (lastUse l.events)
  stored : ∀ identity entry, l.cache.entries.find? identity = some entry →
    lastStored defaultTtl l.events identity = some entry
  looks : l.cache.stats.hits + l.cache.stats.misses = l.events.countP fun e => e.1.isCounted
  fetches : l.cache.stats.fetches = l.events.countP fun e => e.2.isFetched
  evictions : l.cache.stats.expiredEvictions ≤ l.cache.stats.misses

/-- A new cache keeps to its empty ledger. -/
theorem kept_new (hcapacity : 1 ≤ capacity) :
    Kept capacity defaultTtl ⟨ofCapacity capacity defaultTtl, []⟩ where
  capacity_eq := Nat.max_eq_left hcapacity
  ttl_eq := rfl
  sound := Recent.sound_ofCapacity capacity
  ordered := .nil
  stored := nofun
  looks := rfl
  fetches := rfl
  evictions := Nat.le_refl 0

/-- The last use of the other identities stays the same. -/
theorem lastUse_add_of_ne {call : Call} {used other : Identity} (huses : call.uses? = some used)
    (hne : other ≠ used) : lastUse (l.add call).events other = lastUse l.events other := by
  rw [add, lastUse_concat, huses, if_neg fun heq => hne (Option.some.inj heq).symm]

/-- The identity that a call uses is used later than all others were. -/
theorem lastUse_lt_add {call : Call} {used : Identity} (huses : call.uses? = some used)
    (other : Identity) : lastUse l.events other < lastUse (l.add call).events used := by
  rw [add, lastUse_concat, huses, if_pos rfl]
  exact Nat.lt_succ_of_le (lastUse_le_length _ _)

/-- The last use of an identity stays the same when a call uses none. -/
theorem lastUse_add_of_none {call : Call} (huses : call.uses? = none) (identity : Identity) :
    lastUse (l.add call).events identity = lastUse l.events identity := by
  rw [add, lastUse_concat, huses, if_neg nofun]

/-- What was stored last stays the same when a call stores nothing. -/
theorem lastStored_add_of_none {call : Call}
    (hstores : stores? defaultTtl (call, (l.cache.perform call).1) = none) (identity : Identity) :
    lastStored defaultTtl (l.add call).events identity
      = lastStored defaultTtl l.events identity := by
  rw [add, lastStored_concat, hstores]

/-- What a call stores is what was stored last for its identity. -/
theorem lastStored_add_of_some {call : Call} {identity : Identity} {entry : Entry}
    (hstores : stores? defaultTtl (call, (l.cache.perform call).1) = some (identity, entry))
    (other : Identity) :
    lastStored defaultTtl (l.add call).events other
      = if identity = other then some entry else lastStored defaultTtl l.events other := by
  rw [add, lastStored_concat, hstores]

/-- What a call stores is there when the call is answered. -/
theorem Kept.find?_add (h : l.Kept capacity defaultTtl) {call : Call} {identity : Identity}
    {entry : Entry}
    (hstores : stores? defaultTtl (call, (l.cache.perform call).1) = some (identity, entry)) :
    (l.add call).cache.entries.find? identity = some entry := by
  have heffect : Effect l.cache call (l.cache.perform call).1 (l.add call).cache.entries :=
    effect_perform h.sound call
  rw [← h.ttl_eq] at hstores
  generalize (l.add call).cache.entries = entries at heffect ⊢
  cases heffect with
  | @stored stored entry' _ hentry =>
    obtain ⟨rfl, rfl⟩ := Prod.mk.inj (Option.some.inj (hentry.symm.trans hstores))
    exact Recent.find?_put_self ..
  | aside _ hnone | invalidated _ hnone | expired _ _ _ _ hnone | looked _ hnone =>
    rw [hnone] at hstores
    cases hstores

/-- What is there when a call is answered was there before, or the call has stored it. -/
theorem Kept.find?_or_stores (h : l.Kept capacity defaultTtl) {call : Call} {identity : Identity}
    {entry : Entry} (hfind : (l.add call).cache.entries.find? identity = some entry) :
    l.cache.entries.find? identity = some entry
      ∨ stores? defaultTtl (call, (l.cache.perform call).1) = some (identity, entry) := by
  have heffect : Effect l.cache call (l.cache.perform call).1 (l.add call).cache.entries :=
    effect_perform h.sound call
  generalize (l.add call).cache.entries = entries at heffect hfind
  cases heffect with
  | aside => exact .inl hfind
  | invalidated | expired => exact .inl (Recent.find?_of_erase hfind)
  | looked => exact .inl (by rwa [Recent.find?_touch] at hfind)
  | @stored stored entry' _ hstores =>
    rw [h.ttl_eq] at hstores
    by_cases hne : identity = stored
    · rw [hne, Recent.find?_put_self] at hfind
      rw [hne, hstores, Option.some.inj hfind]
      exact .inr rfl
    · rw [Recent.find?_put_of_ne h.sound hne] at hfind
      split at hfind
      · cases hfind
      · exact .inl hfind

/-- What is there when a call is answered was stored last. -/
theorem Kept.lastStored_add (h : l.Kept capacity defaultTtl) (call : Call) {identity : Identity}
    {entry : Entry} (hfind : (l.add call).cache.entries.find? identity = some entry) :
    lastStored defaultTtl (l.add call).events identity = some entry := by
  cases hstores : stores? defaultTtl (call, (l.cache.perform call).1) with
  | none =>
    rw [lastStored_add_of_none hstores]
    obtain hbefore | hnow := h.find?_or_stores hfind
    · exact h.stored identity entry hbefore
    · rw [hstores] at hnow
      cases hnow
  | some stored =>
    obtain ⟨other, entry'⟩ := stored
    rw [lastStored_add_of_some hstores]
    split
    · next heq => rw [← h.find?_add hstores, heq, hfind]
    · next hne =>
      obtain hbefore | hnow := h.find?_or_stores hfind
      · exact h.stored identity entry hbefore
      · rw [hstores] at hnow
        exact absurd (Prod.mk.inj (Option.some.inj hnow)).1 hne

/-- The entries stay in good order when one more call is answered. -/
theorem Kept.entries_add (h : l.Kept capacity defaultTtl) (call : Call) :
    (l.add call).cache.entries.capacity = capacity ∧ (l.add call).cache.entries.Sound
      ∧ (l.add call).cache.entries.OrderedBy (lastUse (l.add call).events) := by
  have heffect : Effect l.cache call (l.cache.perform call).1 (l.add call).cache.entries :=
    effect_perform h.sound call
  have hcapacity := h.capacity_eq
  have hother {used : Identity} (huses : call.uses? = some used) :
      ∀ other, other ≠ used → lastUse (l.add call).events other = lastUse l.events other :=
    fun other => lastUse_add_of_ne huses
  have hused {used : Identity} (huses : call.uses? = some used) :
      ∀ other ∈ l.cache.entries.keys, lastUse l.events other < lastUse (l.add call).events used :=
    fun other _ => lastUse_lt_add huses other
  generalize (l.add call).cache.entries = entries at heffect ⊢
  cases heffect with
  | aside huses =>
    refine ⟨hcapacity, h.sound, ?_⟩
    simpa only [Recent.OrderedBy, lastUse_add_of_none huses] using h.ordered
  | invalidated hcall =>
    refine ⟨hcapacity, Recent.sound_erase h.sound _, h.ordered.erase _ fun k _ => ?_⟩
    rw [lastUse_add_of_none (by rw [hcall]; rfl)]
  | expired huses =>
    exact ⟨hcapacity, Recent.sound_erase h.sound _, h.ordered.erase _ (hother huses)⟩
  | looked huses =>
    exact ⟨(Recent.capacity_touch ..).trans hcapacity, Recent.sound_touch h.sound _,
      h.ordered.touch (hused huses) (hother huses)⟩
  | stored huses =>
    exact ⟨(Recent.capacity_put ..).trans hcapacity, Recent.sound_put h.sound _ _,
      h.ordered.put _ (hused huses) (hother huses)⟩

/-- One more call is answered. -/
theorem Kept.add (h : l.Kept capacity defaultTtl) (call : Call) :
    (l.add call).Kept capacity defaultTtl := by
  obtain ⟨hcapacity, hsound, hordered⟩ := h.entries_add call
  obtain ⟨hlooks, hfetches, hevictions⟩ :
      Counts l.cache.stats (l.add call).cache.stats call (l.cache.perform call).1 :=
    counts_perform l.cache call
  have hcounted (p : Call × Answer → Bool) : (l.add call).events.countP p
      = l.events.countP p + (p (call, (l.cache.perform call).1)).toNat := by
    rw [Ledger.add, List.countP_append, List.countP_singleton]
    cases p (call, (l.cache.perform call).1) <;> rfl
  refine ⟨hcapacity, (defaultTtl_perform l.cache call).trans h.ttl_eq, hsound, hordered,
    fun _ _ => h.lastStored_add call, ?_, ?_, ?_⟩
  · rw [hlooks, h.looks, hcounted]
  · rw [hfetches, h.fetches, hcounted]
  · have hbefore := h.evictions
    omega

/-- A cache keeps to its ledger at every point of a run. -/
theorem kept_ofCalls (hcapacity : 1 ≤ capacity) (calls : List Call) :
    (ofCalls capacity defaultTtl calls).Kept capacity defaultTtl := by
  induction calls using List.reverseRecOn with
  | nil => exact kept_new hcapacity
  | append_singleton calls call ih =>
    rw [ofCalls, List.foldl_concat]
    exact ih.add call

/-! ## Why an entry leaves -/

/-- An entry that is there before a call and not afterwards has left for a reason. -/
theorem Kept.leaves (h : l.Kept capacity defaultTtl) {identity : Identity} {entry : Entry}
    (hfind : l.cache.entries.find? identity = some entry)
    (hgone : (l.add call).cache.entries.find? identity ≠ some entry) :
    l.Leaves call identity entry := by
  have heffect : Effect l.cache call (l.cache.perform call).1 (l.add call).cache.entries :=
    effect_perform h.sound call
  generalize (l.add call).cache.entries = entries at heffect hgone
  cases heffect with
  | aside => exact absurd hfind hgone
  | @invalidated other hcall =>
    by_cases hne : identity = other
    · exact .invalidated (hne ▸ hcall)
    · exact absurd ((Recent.find?_erase_of_ne hne).trans hfind) hgone
  | @expired other now entry' _ hlook hentry hexpired =>
    by_cases hne : identity = other
    · subst hne
      cases Option.some.inj (hentry.symm.trans hfind)
      exact .expired hlook hexpired
    · exact absurd ((Recent.find?_erase_of_ne hne).trans hfind) hgone
  | looked => exact absurd ((Recent.find?_touch ..).trans hfind) hgone
  | @stored other entry' _ hstores =>
    by_cases hne : identity = other
    · exact .replaced (hne ▸ hstores)
    rw [Recent.find?_put_of_ne h.sound hne] at hgone
    split at hgone
    · next hkey =>
      obtain ⟨gone, hput, rfl⟩ := Option.map_eq_some_iff.1 hkey
      obtain ⟨-, rfl | ⟨hnew, hfull, holdest⟩⟩ := Recent.displaced_of_put h.sound hput
      · exact absurd rfl hne
      · exact .displaced hstores hnew hfull fun k hk hk' => h.ordered.oldest holdest hk hk'
    · exact absurd hfind hgone

end Ledger

/-- A look for a fresh snapshot finds the one of the entry, if that has not expired. -/
theorem get_eq_some_iff (c : SchemaCache) (identity : Identity) (now : Nat) (snapshot : Snapshot) :
    (c.get identity now).1 = some snapshot ↔ ∃ entry, c.entries.find? identity = some entry
      ∧ entry.isExpired now = false ∧ entry.snapshot = snapshot := by
  obtain ⟨hfind, hget⟩ | ⟨entry, hfind, hexpired, hget⟩ | ⟨entry, hfind, hexpired, hget⟩ :=
    get_cases c identity now
  · simp [hget, hfind]
  · simp [hget, hfind, hexpired]
  · simp [hget, hfind, hexpired]

/-- At every point of a run a cache holds no more than it has room for and every identity once. A
schema that is given to it or fetched is stored, and its entry is there when the call is answered;
no entry comes in another way. An entry leaves it when it is invalidated, when a look finds it
expired, when it is replaced, or when it has to go for a new identity as the one stored or looked up
the longest ago. What is found is the snapshot that was stored last, as long as it is there and has
not expired. The counts are those of the calls. -/
theorem keeps_ledger {capacity : Nat} (hcapacity : 1 ≤ capacity) (defaultTtl : Nat)
    (calls : List Call) :
    let l := Ledger.ofCalls capacity defaultTtl calls
    l.cache.size ≤ capacity ∧ l.cache.entries.keys.Nodup
      ∧ (∀ call, (stores? defaultTtl (call, (l.cache.perform call).1)).map
          (fun stored => (stored.1, stored.2.snapshot.schema))
            = brings? (call, (l.cache.perform call).1))
      ∧ (∀ call identity entry,
          stores? defaultTtl (call, (l.cache.perform call).1) = some (identity, entry) →
            (l.add call).cache.entries.find? identity = some entry)
      ∧ (∀ call identity entry, (l.add call).cache.entries.find? identity = some entry →
          l.cache.entries.find? identity = some entry
            ∨ stores? defaultTtl (call, (l.cache.perform call).1) = some (identity, entry))
      ∧ (∀ call identity entry, l.cache.entries.find? identity = some entry →
          (l.add call).cache.entries.find? identity ≠ some entry → l.Leaves call identity entry)
      ∧ (∀ identity now snapshot, (l.cache.get identity now).1 = some snapshot ↔
          ∃ entry, l.cache.entries.find? identity = some entry ∧ entry.isExpired now = false
            ∧ entry.snapshot = snapshot
            ∧ lastStored defaultTtl l.events identity = some entry)
      ∧ l.cache.stats.hits + l.cache.stats.misses = l.events.countP (fun e => e.1.isCounted)
      ∧ l.cache.stats.fetches = l.events.countP (fun e => e.2.isFetched)
      ∧ l.cache.stats.expiredEvictions ≤ l.cache.stats.misses := by
  intro l
  have h : l.Kept capacity defaultTtl := Ledger.kept_ofCalls hcapacity calls
  refine ⟨?_, h.sound.distinct, map_stores_perform defaultTtl l.cache, fun _ _ _ => h.find?_add,
    fun _ _ _ => h.find?_or_stores, fun _ _ _ => h.leaves, fun identity now snapshot => ?_, h.looks,
    h.fetches, h.evictions⟩
  · exact h.capacity_eq ▸ h.sound.bounded
  · rw [get_eq_some_iff]
    constructor
    · rintro ⟨entry, hfind, hexpired, rfl⟩
      exact ⟨entry, hfind, hexpired, rfl, h.stored identity entry hfind⟩
    · rintro ⟨entry, hfind, hexpired, rfl, -⟩
      exact ⟨entry, hfind, hexpired, rfl⟩

section

/-- Two identities fill a cache, and the first of them is looked up again. -/
def fullAndLooked : List Call :=
  [.store ⟨"a"⟩ ⟨[]⟩ 0, .storeFor ⟨"b"⟩ ⟨[]⟩ 5 1, .get ⟨"a"⟩ 2]

/-- The schema of a third identity is fetched. -/
def fetchThird : Call :=
  .serve ⟨⟨"c"⟩, 7, .fresh⟩ (.ok ⟨[]⟩) 3 3 4

/-- The second one has to go for a third, whose schema is there as soon as it is fetched. -/
theorem keeps_ledger_fullAndLooked :
    1 ≤ 2
      ∧ (Ledger.ofCalls 2 60 fullAndLooked).cache.entries.find? ⟨"b"⟩ = some ⟨⟨1, ⟨[]⟩⟩, 1, 5⟩
      ∧ ((Ledger.ofCalls 2 60 fullAndLooked).add fetchThird).cache.entries.find? ⟨"b"⟩
        ≠ some ⟨⟨1, ⟨[]⟩⟩, 1, 5⟩
      ∧ (Ledger.ofCalls 2 60 fullAndLooked).Leaves fetchThird ⟨"b"⟩ ⟨⟨1, ⟨[]⟩⟩, 1, 5⟩
      ∧ stores? 60 (fetchThird, ((Ledger.ofCalls 2 60 fullAndLooked).cache.perform fetchThird).1)
        = some (⟨"c"⟩, ⟨⟨2, ⟨[]⟩⟩, 4, 7⟩)
      ∧ ((Ledger.ofCalls 2 60 fullAndLooked).add fetchThird).cache.entries.find? ⟨"c"⟩
        = some ⟨⟨2, ⟨[]⟩⟩, 4, 7⟩ := by
  have hfound : (Ledger.ofCalls 2 60 fullAndLooked).cache.entries.find? ⟨"b"⟩
      = some ⟨⟨1, ⟨[]⟩⟩, 1, 5⟩ := by decide
  have hgone : ((Ledger.ofCalls 2 60 fullAndLooked).add fetchThird).cache.entries.find? ⟨"b"⟩
      ≠ some ⟨⟨1, ⟨[]⟩⟩, 1, 5⟩ := by decide
  have hstores : stores? 60
      (fetchThird, ((Ledger.ofCalls 2 60 fullAndLooked).cache.perform fetchThird).1)
        = some (⟨"c"⟩, ⟨⟨2, ⟨[]⟩⟩, 4, 7⟩) := by decide
  obtain ⟨-, -, -, hcomes, -, hleaves, -⟩ := keeps_ledger (by decide : 1 ≤ 2) 60 fullAndLooked
  exact ⟨by decide, hfound, hgone, hleaves _ _ _ hfound hgone, hstores, hcomes _ _ _ hstores⟩

end

end Pushdown.SchemaCache
