import Pushdown.Json.Basic

/-!
# Rows and pages

What a connection hands back: rows as the backend shapes them, a page of them at a time, and what
the next page is asked for by.
-/

namespace Pushdown

/-- A row as a backend shapes it. -/
inductive NativeRow where
  /-- Values in the order of the projections. -/
  | positional (values : List Json)
  /-- A document, its fields found by name or by path. -/
  | document (fields : Members)
  /-- A group: the values of its keys and of its metrics, and how many rows it holds. -/
  | bucket (keys values : Members) (docCount : Option Nat)
  deriving DecidableEq, Repr, Inhabited

/-- What the next page is asked for by. -/
inductive Continuation where
  /-- The number of rows already handed over. -/
  | offset (rows : Nat)
  /-- A cursor kept open on the server. -/
  | cursor (id : String)
  /-- The group key to go on after. -/
  | afterKey (key : Json)
  deriving DecidableEq, Repr, Inhabited

/-- Whether the continuation is a cursor kept open on the server. -/
def Continuation.isCursor : Continuation → Bool
  | .cursor _ => true
  | _ => false

/-- A page of rows. -/
structure Page where
  rows : List NativeRow
  continuation : Option Continuation
  deriving DecidableEq, Repr, Inhabited

/-- A row of a result: a value for each requested column, in order. -/
abbrev ResultRow := List Json

end Pushdown
