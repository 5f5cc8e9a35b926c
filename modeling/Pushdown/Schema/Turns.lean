import Pushdown.Schema.Cache

/-!
# Taking turns at fetching

Calls on one cache that run at the same time fetch one after another per connection identity. A call
that does not find what it wants takes the lock of its identity, which is set up if there is none;
of the calls that hold on to one lock the one that came first may go on, and the others look again
when their turn comes. A `SharedCache` is a cache with these locks.

A call goes through `enter`, then, as often as its turn has not come, `resume`, and, when it was
let in to fetch, `finish`. A lock is taken down by the call that leaves it last. A call that is
given up (`abandon`) lets go of its lock, but the lock itself stays.
-/

namespace Pushdown

/-- The locks under which calls fetch. Each lock has a number of its own. -/
structure FetchLocks where
  /-- The lock of each identity. -/
  table : List (Identity × Nat)
  /-- The calls that hold on to a lock, in the order in which they came. -/
  holders : List (Nat × Nat)
  nextLock : Nat
  deriving DecidableEq, Repr, Inhabited

namespace FetchLocks

/-- No locks. -/
def empty : FetchLocks := ⟨[], [], 0⟩

/-- The lock of an identity. -/
def lockOf? (l : FetchLocks) (identity : Identity) : Option Nat := l.table.lookup identity

/-- The lock that a call holds on to. -/
def heldBy? (l : FetchLocks) (call : Nat) : Option Nat := l.holders.lookup call

/-- The call that came first of those that hold on to a lock. -/
def first? (l : FetchLocks) (lock : Nat) : Option Nat :=
  (l.holders.find? fun holder => holder.2 = lock).map (·.1)

/-- Whether a call may go on: it is the first of those that hold on to its lock. -/
def mayGo (l : FetchLocks) (call : Nat) : Bool :=
  (l.heldBy? call).any fun lock => l.first? lock = some call

/-- A call takes the lock of an identity, which is set up if need be. -/
def take (l : FetchLocks) (identity : Identity) (call : Nat) : FetchLocks :=
  match l.lockOf? identity with
  | some lock => { l with holders := l.holders ++ [(call, lock)] }
  | none =>
    { table := l.table ++ [(identity, l.nextLock)]
      holders := l.holders ++ [(call, l.nextLock)]
      nextLock := l.nextLock + 1 }

/-- A call lets go of its lock. -/
def quit (l : FetchLocks) (call : Nat) : FetchLocks :=
  { l with holders := l.holders.filter fun holder => holder.1 ≠ call }

/-- The lock of an identity is taken down, unless some call holds on to it. -/
def sweep (l : FetchLocks) (identity : Identity) : FetchLocks :=
  match l.lockOf? identity with
  | some lock =>
    if (l.first? lock).isSome then l
    else { l with table := l.table.filter fun entry => entry.1 ≠ identity }
  | none => l

/-- A call leaves in good order: it lets go of its lock, which is taken down if it was the last. -/
def leave (l : FetchLocks) (identity : Identity) (call : Nat) : FetchLocks :=
  (l.quit call).sweep identity

end FetchLocks

/-- A cache with the locks of the calls that fetch for it. -/
structure SharedCache where
  cache : SchemaCache
  locks : FetchLocks
  deriving DecidableEq, Repr, Inhabited

namespace SharedCache

open SchemaCache (Errand)

/-- How far a call has got. -/
inductive Progress where
  /-- The call has its snapshot, which it found in the cache. -/
  | found (snapshot : Snapshot)
  /-- The call waits for its turn. -/
  | waiting
  /-- The call fetches. -/
  | fetching
  deriving DecidableEq, Repr, Inhabited

/-- A cache without calls. -/
def ofCache (cache : SchemaCache) : SharedCache := ⟨cache, .empty⟩

/-- A call begins with a look at the cache. -/
def look (s : SharedCache) (errand : Errand) (now : Nat) : Option Snapshot × SharedCache :=
  (s.cache.consult errand now).map id fun cache => { s with cache }

/-- A call that has not found what it wants takes the lock. -/
def join (s : SharedCache) (call : Nat) (errand : Errand) : SharedCache :=
  { s with locks := s.locks.take errand.identity call }

/-- A call that holds on to its lock looks whether its turn has come. If so it either finds what it
wants and leaves, or fetches. -/
def resume (s : SharedCache) (call : Nat) (errand : Errand) (now : Nat) :
    Progress × SharedCache :=
  if s.locks.mayGo call then
    match s.cache.recheck errand now with
    | (some snapshot, cache) =>
      (.found snapshot, ⟨cache, s.locks.leave errand.identity call⟩)
    | (none, cache) => (.fetching, { s with cache })
  else (.waiting, s)

/-- A call begins: it has what it wants, or it takes the lock and goes on if it can. -/
def enter (s : SharedCache) (call : Nat) (errand : Errand) (now : Nat) :
    Progress × SharedCache :=
  match s.look errand now with
  | (some snapshot, s) => (.found snapshot, s)
  | (none, s) => (s.join call errand).resume call errand now

/-- A call has fetched: it stores what it got and leaves. -/
def finish (s : SharedCache) (call : Nat) (errand : Errand) (fetched : Except Failure Schema)
    (now : Nat) : Except Failure Snapshot × SharedCache :=
  let (outcome, cache) := s.cache.settle errand fetched now
  (outcome, ⟨cache, s.locks.leave errand.identity call⟩)

/-- A call that holds on to its lock, or fetches, is given up. -/
def abandon (s : SharedCache) (call : Nat) : SharedCache :=
  { s with locks := s.locks.quit call }

end SharedCache

end Pushdown
