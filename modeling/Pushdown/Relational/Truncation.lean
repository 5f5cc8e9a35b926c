import Pushdown.Relational.Fragment
import Pushdown.Request.Basic

/-!
# Truncating instants in statements

Two of the dialects have no function that truncates an instant, so the start of a period is
computed: a number of whole units is counted from a fixed origin and added to it again.
`InstantTerm` is the small language of these computations. How units are counted and how a term
is spelled is up to the dialect.
-/

namespace Pushdown

/-- An instant computed from a column. -/
inductive InstantTerm where
  | column
  /-- 1 January 1900, a Monday. -/
  | origin
  /-- The start of the day. -/
  | midnight (of : InstantTerm)
  | dayBefore (of : InstantTerm)
  /-- `base`, and as many units on as there are between `start` and `stop`. -/
  | advance (level : DateLevel) (base start stop : InstantTerm)
  /-- The start of the period, by the dialect's own function. -/
  | truncated (level : DateLevel)
  deriving DecidableEq, Repr, Inhabited

namespace InstantTerm

/-- The start of the period, counted from the origin. -/
def sinceOrigin (level : DateLevel) : InstantTerm :=
  .advance level .origin .origin .column

end InstantTerm

end Pushdown
