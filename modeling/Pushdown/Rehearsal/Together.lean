/-!
# Calls that run at the same time

A rehearsal runs calls together on a clock of its own. Every call runs until it has to wait, in
the order of the list; when nothing more can happen at one moment, the clock moves on to the next
moment at which a call has waited long enough. `Together.run` does this for any kind of call that
can say how it goes on (`poll`) and until when it waits (`wake?`). What the calls wait for is a
`Delayed` answer, or each other.
-/

namespace Pushdown

/-- Something that comes after a delay. -/
structure Delayed (α : Type) where
  delay : Nat
  value : α
  deriving Repr, Inhabited

namespace Together

/-- A kind of call `τ` that works on something shared, `σ`. -/
structure Behaviour (σ τ : Type) where
  /-- Runs the call of some number at a time until it is over or has to wait. A call that has to
  wait longer stays as it is. -/
  poll : (call time : Nat) → τ → σ → τ × σ
  /-- The time until which a call waits. A call without one is over or waits for another. -/
  wake? : τ → Option Nat

variable {σ τ : Type}

/-- Every call runs once, in order. -/
def round (b : Behaviour σ τ) (time : Nat) : (call : Nat) → List τ → σ → List τ × σ
  | _, [], shared => ([], shared)
  | call, t :: ts, shared =>
    let (t, shared) := b.poll call time t shared
    let (ts, shared) := round b time (call + 1) ts shared
    (t :: ts, shared)

/-- So many rounds at one time. -/
def rounds (b : Behaviour σ τ) (time : Nat) : Nat → List τ → σ → List τ × σ
  | 0, ts, shared => (ts, shared)
  | n + 1, ts, shared =>
    let (ts, shared) := round b time 0 ts shared
    rounds b time n ts shared

/-- The next time at which a call has waited long enough. -/
def nextTime? (b : Behaviour σ τ) (time : Nat) (ts : List τ) : Option Nat :=
  ((ts.filterMap b.wake?).filter (time < ·)).min?

/-- Runs calls at so many moments, starting at a time. In each round at one moment some call gets
on or none will, so there are no more rounds than calls, but for the first. -/
def moments (b : Behaviour σ τ) : Nat → (time : Nat) → List τ → σ → List τ × σ
  | 0, _, ts, shared => (ts, shared)
  | n + 1, time, ts, shared =>
    let (ts, shared) := rounds b time (ts.length + 1) ts shared
    match nextTime? b time ts with
    | some later => moments b n later ts shared
    | none => (ts, shared)

/-- Runs calls of which each waits for time to pass at most once. -/
def run (b : Behaviour σ τ) (ts : List τ) (shared : σ) : List τ × σ :=
  moments b (ts.length + 1) 0 ts shared

end Together

end Pushdown
