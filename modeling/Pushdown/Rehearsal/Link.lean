import Pushdown.Cluster.Connector
import Pushdown.Rehearsal.Engine

/-!
# Rehearsing a connection to a cluster

The calls of a connection one by one, or through an engine. `silence` is a network on which nobody
listens, so that every request comes to nothing before it is sent.
-/

namespace Pushdown

namespace EngineRehearsal

/-- A network on which nobody listens. -/
def silence : Http.Transport (StateM EngineRehearsal) := fun _ _ => return .unreachable

/-- A step of a rehearsal of a connection. -/
inductive LinkStep where
  | connect (budget : Nat)
  | fetchSchema (budget : Nat)
  | execute (query : NativeQuery) (budget : Nat)
  | nextPage (query : NativeQuery) (continuation : Continuation) (budget : Nat)
  | release (continuation : Continuation)
  | close
  | engine (step : Step)
  deriving Repr, Inhabited

/-- What such a step brings. -/
inductive LinkOutcome where
  | done (result : Except Failure Unit)
  | columns (result : Except Failure (List ReportedColumn))
  | page (result : Except Failure Page)
  | engine (outcome : Outcome)
  deriving Repr, Inhabited

/-- Makes one call on the connection. -/
def Performance.call {α : Type} (p : Performance) (outcome : α → LinkOutcome)
    (act : StateM EngineRehearsal α) : LinkOutcome × Performance :=
  let (result, rehearsal) := act.run p.rehearsal
  (outcome result, { p with rehearsal })

/-- Performs a step. -/
def Performance.reach (p : Performance) : LinkStep → LinkOutcome × Performance
  | .connect budget =>
    p.call (fun r => .done (r.result .connect .connect budget)) (p.link.connect budget)
  | .fetchSchema budget =>
    p.call (fun r => .columns (r.result .schemaFetch .schemaFetch budget))
      (p.link.fetchSchema budget)
  | .execute query budget =>
    p.call (fun r => .page (r.result .query .query budget)) (p.link.execute query budget)
  | .nextPage query continuation budget =>
    p.call (fun r => .page (r.result .pageFetch .pageFetch budget))
      (p.link.nextPage query continuation budget)
  | .release continuation => p.call .done (p.link.release continuation)
  | .close => p.call .done p.link.close
  | .engine step =>
    let (outcome, p) := p.perform step
    (.engine outcome, p)

end EngineRehearsal

end Pushdown
