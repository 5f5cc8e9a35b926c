import Pushdown.Connection.Identity
import Pushdown.Failure
import Pushdown.Query.Native
import Pushdown.Row.Basic

/-!
# Connections

What the library asks of a live connection to a backend. A `Connection` is a record of calls in
whatever monad the caller works in; each call that may take long is given a time budget in
milliseconds, and its `Reply` says whether an answer came in time. A `Caller` is the caller's side
of a request: a clock, and whether the caller has cancelled.
-/

namespace Pushdown

/-- What comes of a call with a time budget. -/
inductive Reply (α : Type) where
  | answered (result : Except Failure α)
  /-- The budget was used up. -/
  | tooSlow
  /-- The caller cancelled while the call was under way. -/
  | interrupted
  deriving Repr, Inhabited

namespace Reply

/-- The result of a call; a call that took too long or was interrupted has failed. The two are
told to the caller under a name each, since a call may be made on behalf of another. -/
def result {α : Type} (slow cancelled : Activity) (budget : Nat) : Reply α → Except Failure α
  | .answered result => result
  | .tooSlow => .error (.tooSlow slow budget)
  | .interrupted => .error (.interrupted cancelled)

/-- The reply with its answer changed. -/
def map {α β : Type} (f : α → β) : Reply α → Reply β
  | .answered result => .answered (result.map f)
  | .tooSlow => .tooSlow
  | .interrupted => .interrupted

end Reply

/-- A connection to one backend, with credentials if it needs any. -/
structure Connection (m : Type → Type) where
  kind : BackendKind
  identity : Identity
  connect : (budget : Nat) → m (Reply Unit)
  fetchSchema : (budget : Nat) → m (Reply (List ReportedColumn))
  execute : NativeQuery → (budget : Nat) → m (Reply Page)
  /-- The query is the one for the page after the continuation. -/
  nextPage : NativeQuery → Continuation → (budget : Nat) → m (Reply Page)
  /-- Frees a cursor on the server that will not be read any further. -/
  release : Continuation → m (Except Failure Unit)
  close : m (Except Failure Unit)

/-- The caller of a request. -/
structure Caller (m : Type → Type) where
  /-- The time in milliseconds, from any beginning. -/
  now : m Nat
  cancelled : m Bool

end Pushdown
