import Pushdown.Config
import Pushdown.Connection.Basic
import Pushdown.Recent

/-!
# Connection pool

Connections are shared between requests of one identity. A pool holds a bounded number of them,
each with the time of its last use; one that has not been used for longer than the idle time is
closed and replaced at the next request, and so is the least recently used one when there is no
room. A connection is put into the pool after it has been connected, so two requests of one
identity may connect at the same time; the later one then takes the place of the earlier.

A call to a pool stands at a `Stage`, which names the connection that the call waits for or has
to close; whatever leaves the pool is closed by the call that took it out. `checkOut`, `connected`,
`evict` and `drain` are what a call does to the pool at one moment, and many calls may be under
way between such moments. `obtain` and `closeAll` run a call that has the pool to itself.
-/

namespace Pushdown

/-- A connection in a pool. -/
structure Pooled (γ : Type) where
  connection : γ
  lastUsed : Nat
  deriving DecidableEq, Repr, Inhabited

/-- The connections kept per identity. -/
structure ConnectionPool (γ : Type) where
  entries : Recent Identity (Pooled γ)
  /-- How long an unused connection is kept. -/
  idleTtl : Nat
  connectTimeout : Nat
  deriving DecidableEq, Repr, Inhabited

/-- Where a call to a pool has got to. -/
inductive Stage (γ : Type) where
  /-- A connection that was idle for too long is being closed. -/
  | closingIdle (old : γ)
  /-- A new connection is about to be made. -/
  | making
  | connecting (fresh : γ)
  /-- The new connection is in the pool, and the one that had to go is being closed. -/
  | closingDisplaced (old fresh : γ)
  /-- Connections taken out of the pool are being closed one after another. -/
  | closing (rest : List γ)
  | ended (result : Except Failure γ)
  deriving Repr, Inhabited

namespace ConnectionPool

variable {γ : Type}

/-- An empty pool. -/
def ofCapacity (capacity idleTtl connectTimeout : Nat) : ConnectionPool γ :=
  ⟨.ofCapacity capacity, idleTtl, connectTimeout⟩

/-- The pool that a configuration asks for. -/
def ofConfig (config : Config) : ConnectionPool γ :=
  ofCapacity config.poolCapacity config.poolIdleTtl config.connectTimeout

/-- The number of connections in the pool. -/
def size (p : ConnectionPool γ) : Nat := p.entries.size

/-- Whether a pooled connection has not been used for longer than it is kept. -/
def isIdle (p : ConnectionPool γ) (pooled : Pooled γ) (now : Nat) : Bool :=
  p.idleTtl < now - pooled.lastUsed

/-- A request for the connection of an identity: it is handed out, taken out to be closed, or has
to be made. -/
def checkOut (p : ConnectionPool γ) (identity : Identity) (now : Nat) :
    Stage γ × ConnectionPool γ :=
  match p.entries.find? identity with
  | none => (.making, p)
  | some pooled =>
    if p.isIdle pooled now then
      (.closingIdle pooled.connection, { p with entries := p.entries.erase identity })
    else
      (.ended (.ok pooled.connection),
        { p with entries := (p.entries.put identity { pooled with lastUsed := now }).2 })

/-- A connection that has been connected is put into the pool. What had to go for it is closed. -/
def checkIn [DecidableEq γ] (p : ConnectionPool γ) (identity : Identity) (fresh : γ) (now : Nat) :
    Stage γ × ConnectionPool γ :=
  let (displaced, entries) := p.entries.put identity ⟨fresh, now⟩
  let stage :=
    match displaced with
    | some (_, old) =>
      if old.connection = fresh then .ended (.ok fresh)
      else .closingDisplaced old.connection fresh
    | none => .ended (.ok fresh)
  (stage, { p with entries })

/-- The connection of an identity is taken out to be closed. -/
def evict (p : ConnectionPool γ) (identity : Identity) : Stage γ × ConnectionPool γ :=
  ( .closing (((p.entries.find? identity).map (·.connection)).toList),
    { p with entries := p.entries.erase identity } )

/-- All connections are taken out to be closed, the least recently used first. -/
def drain (p : ConnectionPool γ) : Stage γ × ConnectionPool γ :=
  let (drained, entries) := p.entries.drain
  (.closing (drained.map (·.2.connection)), { p with entries })

end ConnectionPool

namespace Stage

variable {γ : Type}

/-- The connection that a stage waits to see closed. -/
def toClose? : Stage γ → Option γ
  | .closingIdle old => some old
  | .closingDisplaced old _ => some old
  | .closing (old :: _) => some old
  | _ => none

/-- The stage after that connection has been closed, however that ended. -/
def closed : Stage γ → Stage γ
  | .closingIdle _ => .making
  | .closingDisplaced _ fresh => .ended (.ok fresh)
  | .closing (_ :: rest) => .closing rest
  | stage => stage

/-- The stage after a connection has been made, or could not be. -/
def made : Except Failure γ → Stage γ
  | .ok fresh => .connecting fresh
  | .error cause => .ended (.error cause)

end Stage

/-- What a call to a pool makes happen. -/
structure PoolEffects (m : Type → Type) (γ : Type) where
  now : m Nat
  make : m (Except Failure γ)
  connect : γ → (budget : Nat) → m (Reply Unit)
  close : γ → m (Except Failure Unit)

namespace ConnectionPool

variable {γ : Type} {m : Type → Type} [Monad m]

/-- A new connection has been connected, or could not be. -/
def connected [DecidableEq γ] (p : ConnectionPool γ) (identity : Identity) (fresh : γ)
    (reply : Reply Unit) (now : Nat) : Stage γ × ConnectionPool γ :=
  match reply.result .connect .connect p.connectTimeout with
  | .ok () => p.checkIn identity fresh now
  | .error cause => (.ended (.error cause), p)

/-- A call moves on by one effect. -/
def advance [DecidableEq γ] (effects : PoolEffects m γ) (identity : Identity) (stage : Stage γ) :
    StateT (ConnectionPool γ) m (Stage γ) := do
  match stage with
  | .making => return .made (← effects.make)
  | .connecting fresh =>
    let reply ← effects.connect fresh (← get).connectTimeout
    let now ← effects.now
    modifyGet fun p => p.connected identity fresh reply now
  | stage =>
    match stage.toClose? with
    | some old =>
      discard <| (effects.close old : m _)
      return stage.closed
    | none => return stage

/-- The connection of an identity, connected before it is handed out. A call has at most four
effects: to close, to make, to connect and to close again. -/
def obtain [DecidableEq γ] (effects : PoolEffects m γ) (identity : Identity) :
    StateT (ConnectionPool γ) m (Except Failure γ) := do
  let now ← effects.now
  let mut stage ← modifyGet fun p => p.checkOut identity now
  for _ in [0, 1, 2, 3] do
    stage ← advance effects identity stage
  match stage with
  | .ended result => return result
  | _ => return .error (.interrupted .connect)

/-- Closes every connection. -/
def closeAll (effects : PoolEffects m γ) : StateT (ConnectionPool γ) m Unit := do
  let drained ← modifyGet fun p => (p.entries.drain.1, p.drain.2)
  for entry in drained do
    discard <| (effects.close entry.2.connection : m _)

end ConnectionPool

end Pushdown
