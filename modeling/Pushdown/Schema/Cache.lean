import Pushdown.Connection.Identity
import Pushdown.Recent
import Pushdown.Schema.Basic

/-!
# Schema cache

Schemas are kept per connection identity for a limited time. What is handed out is a `Snapshot`:
a schema with the serial number of the moment it was stored, so that a caller can tell a newer
snapshot from the one it knows, even when both say the same. A snapshot is fresh as long as no
more than its time to live has passed since it was stored.

The cache counts what happens to it: `get` is a hit or a miss, and an entry that it finds expired
is dropped. Looking again while holding the right to fetch (`peekFresh`) makes an entry the most
recently used but counts nothing, and `age` leaves everything as it is.

A caller comes with an `Errand`: any fresh snapshot will do, or one is wanted that is newer than
the snapshot it found wanting. `consult` is the first look, made by everyone; `recheck` is the
second, made by the caller who may fetch, and counts the fetch that follows when it finds nothing;
`settle` stores what was fetched.
-/

namespace Pushdown

/-- A schema as it was stored. -/
structure Snapshot where
  serial : Nat
  schema : Schema
  deriving DecidableEq, Repr, Inhabited

namespace SchemaCache

/-- A snapshot with the time at which it was stored and how long it stays fresh. -/
structure Entry where
  snapshot : Snapshot
  storedAt : Nat
  ttl : Nat
  deriving DecidableEq, Repr, Inhabited

/-- Whether more than the time to live has passed. -/
def Entry.isExpired (e : Entry) (now : Nat) : Bool := e.ttl < now - e.storedAt

/-- What has happened to a cache. -/
structure Stats where
  hits : Nat
  misses : Nat
  fetches : Nat
  expiredEvictions : Nat
  deriving DecidableEq, Repr, Inhabited

/-- What a caller wants of the cache. -/
inductive Aim where
  /-- Any fresh snapshot. -/
  | fresh
  /-- A snapshot other than the one found wanting; without one, a newly fetched snapshot. -/
  | newerThan (stale : Option Snapshot)
  deriving DecidableEq, Repr, Inhabited

/-- A caller's errand: the connection, how long a newly fetched schema stays fresh, and what is
wanted. -/
structure Errand where
  identity : Identity
  ttl : Nat
  aim : Aim
  deriving DecidableEq, Repr, Inhabited

end SchemaCache

/-- The schemas kept per connection identity. -/
structure SchemaCache where
  entries : Recent Identity SchemaCache.Entry
  stats : SchemaCache.Stats
  /-- How long a schema stays fresh if nothing else is said. -/
  defaultTtl : Nat
  /-- The serial number of the next snapshot. -/
  nextSerial : Nat
  deriving DecidableEq, Repr, Inhabited

namespace SchemaCache

/-- An empty cache. -/
def ofCapacity (capacity defaultTtl : Nat) : SchemaCache :=
  ⟨.ofCapacity capacity, ⟨0, 0, 0, 0⟩, defaultTtl, 0⟩

/-- The number of entries, expired ones included. -/
def size (c : SchemaCache) : Nat := c.entries.size

/-- The cache with a hit counted. -/
def countHit (c : SchemaCache) : SchemaCache :=
  { c with stats := { c.stats with hits := c.stats.hits + 1 } }

/-- The cache with a miss counted. -/
def countMiss (c : SchemaCache) : SchemaCache :=
  { c with stats := { c.stats with misses := c.stats.misses + 1 } }

/-- The cache with a fetch counted. -/
def countFetch (c : SchemaCache) : SchemaCache :=
  { c with stats := { c.stats with fetches := c.stats.fetches + 1 } }

/-- The cache with an expired entry dropped and counted. -/
def dropExpired (c : SchemaCache) (identity : Identity) : SchemaCache :=
  { c with
    entries := c.entries.erase identity
    stats := { c.stats with expiredEvictions := c.stats.expiredEvictions + 1 } }

/-- The fresh snapshot of an identity. An expired one is dropped and counts as missing. -/
def get (c : SchemaCache) (identity : Identity) (now : Nat) : Option Snapshot × SchemaCache :=
  match c.entries.find? identity with
  | none => (none, c.countMiss)
  | some entry =>
    if entry.isExpired now then (none, (c.dropExpired identity).countMiss)
    else (some entry.snapshot, { c with entries := c.entries.touch identity }.countHit)

/-- The fresh snapshot of an identity, found without counting. -/
def peekFresh (c : SchemaCache) (identity : Identity) (now : Nat) :
    Option Snapshot × SchemaCache :=
  (((c.entries.find? identity).filter fun entry => !entry.isExpired now).map (·.snapshot),
    { c with entries := c.entries.touch identity })

/-- A new snapshot of a schema and the cache with it as the entry of an identity. -/
def storeFor (c : SchemaCache) (identity : Identity) (schema : Schema) (ttl now : Nat) :
    Snapshot × SchemaCache :=
  let snapshot : Snapshot := ⟨c.nextSerial, schema⟩
  (snapshot,
    { c with
      entries := (c.entries.put identity ⟨snapshot, now, ttl⟩).2
      nextSerial := c.nextSerial + 1 })

/-- The same with the default time to live. -/
def store (c : SchemaCache) (identity : Identity) (schema : Schema) (now : Nat) :
    Snapshot × SchemaCache :=
  c.storeFor identity schema c.defaultTtl now

/-- How long ago the entry of an identity was stored, whether it has expired or not. -/
def age (c : SchemaCache) (identity : Identity) (now : Nat) : Option Nat :=
  (c.entries.find? identity).map fun entry => now - entry.storedAt

/-- Whether there was an entry of an identity, and the cache without it. -/
def invalidate (c : SchemaCache) (identity : Identity) : Bool × SchemaCache :=
  ((c.entries.find? identity).isSome, { c with entries := c.entries.erase identity })

/-- The first look on an errand: a caller who wants a newer snapshot does not look. -/
def consult (c : SchemaCache) (errand : Errand) (now : Nat) : Option Snapshot × SchemaCache :=
  match errand.aim with
  | .fresh => c.get errand.identity now
  | .newerThan _ => (none, c)

/-- Whether a fresh snapshot is what an errand wants. -/
def Aim.accepts : Aim → Snapshot → Bool
  | .fresh, _ => true
  | .newerThan (some stale), current => stale.serial ≠ current.serial
  | .newerThan none, _ => false

/-- The second look on an errand, by the caller who may fetch: the snapshot that has come in the
meantime, or none, in which case a fetch is counted and follows. -/
def recheck (c : SchemaCache) (errand : Errand) (now : Nat) : Option Snapshot × SchemaCache :=
  let (current, c) := c.peekFresh errand.identity now
  match current.filter errand.aim.accepts with
  | some snapshot => (some snapshot, c)
  | none => (none, c.countFetch)

/-- The outcome of a fetch: what was fetched is stored, a failure leaves the cache alone. -/
def settle (c : SchemaCache) (errand : Errand) (fetched : Except Failure Schema) (now : Nat) :
    Except Failure Snapshot × SchemaCache :=
  match fetched with
  | .ok schema =>
    let (snapshot, c) := c.storeFor errand.identity schema errand.ttl now
    (.ok snapshot, c)
  | .error cause => (.error cause, c)

end SchemaCache

end Pushdown
