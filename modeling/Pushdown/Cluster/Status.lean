import Pushdown.Failure
import Pushdown.Json.Source
import Pushdown.Text.Lower
import Pushdown.Text.Search

/-!
# Rejected search requests

A rejected request is sorted by its status. A client error only counts as a stale schema when the
body of the rejection names an index or a field that the mapping lacks; other client errors are
not worth fetching the schema again.
-/

namespace Pushdown

namespace Cluster

/-- Words by which a reason names a missing field or index. -/
def missingMarks : List String :=
  ["no mapping found", "unknown field", "no such index", "no such field"]

/-- The type and the reason of a cause in a rejection. -/
def causeOf (node : Json) : String × String :=
  ( ((node.get? "type").bind Json.text?).getD "",
    ((node.get? "reason").bind Json.text?).getD "" )

/-- The error of a rejection and its causes. -/
def causes (body : Json) : List (String × String) :=
  match body.get? "error" with
  | none => []
  | some error =>
    (error :: ((error.get? "root_cause").bind Json.items?).getD []
      ++ (error.get? "caused_by").toList).map causeOf

/-- Whether a cause names something the mapping lacks. -/
def namesMissing (cause : String × String) : Bool :=
  cause.1 = "index_not_found_exception"
    || ((cause.1 = "query_shard_exception" || cause.1 = "illegal_argument_exception")
      && missingMarks.any fun mark => Text.contains mark (Text.lower cause.2))

/-- The fault of a rejection. -/
def faultOfStatus (status : Nat) (body : Json) : Fault :=
  if status = 401 ∨ status = 403 then .unauthorized
  else if (status = 400 ∨ status = 404) ∧ (causes body).any namesMissing then .staleSchema
  else if status = 400 then .badRequest
  else if status = 408 ∨ status = 504 then .timeout
  else if 500 ≤ status ∧ status ≤ 599 then .unavailable
  else .unexpected

/-- The failure of a rejection with some body, which may be any text. -/
def rejection (status : Nat) (body : List UInt8) : Failure :=
  .searchStatus (faultOfStatus status ((Json.ofBytes? body).getD .null)) status

end Cluster

end Pushdown
