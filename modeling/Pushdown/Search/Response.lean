import Pushdown.Failure
import Pushdown.Query.Native
import Pushdown.Row.Basic
import Pushdown.Search.Body

/-!
# Search responses

`Search.pageOfResponse` reads the page in a response, as the mode of the search says. A hit is its
source document with the separately answered fields on top; a scroll id is a cursor. A bucket of
the composite aggregation is a group, and the next page goes on after the key that the response
names or else after the last bucket's own key. A totals response is one group over everything.
-/

namespace Pushdown

namespace Search

/-- The document of a hit. -/
def hitDocument (hit : Json) : Members :=
  let source := ((hit.get? "_source").bind Json.members?).getD []
  let fields := ((hit.get? "fields").bind Json.members?).getD []
  fields.foldl (fun doc field => Json.insertMember field.1 field.2 doc) source

/-- The page of a response with hits. -/
def hitsPage (response : Json) : Except Failure Page :=
  match (response.at? ["hits", "hits"]).bind Json.items? with
  | some hits =>
    .ok {
      rows := hits.map fun hit => .document (hitDocument hit)
      continuation := ((response.get? "_scroll_id").bind Json.text?).map .cursor }
  | none => .error .missingHits

/-- The group of a bucket. -/
def bucketRow : Json → NativeRow
  | .object members =>
    .bucket
      (((Json.lookup "key" members).bind Json.members?).getD [])
      (Json.eraseMember "doc_count" (Json.eraseMember "key" members))
      ((Json.lookup "doc_count" members).bind Json.nat64?)
  | _ => .bucket [] [] none

/-- The key to go on after: the one the response names, or else the last bucket's. -/
def resumeKey? (groups : Json) (buckets : List Json) : Option Json :=
  (groups.get? "after_key").or (buckets.getLast?.bind (Json.get? "key"))

/-- The page of a response with groups. There is nothing to go on after without buckets. -/
def groupsPage (response : Json) : Except Failure Page :=
  match response.at? ["aggregations", groupsName] with
  | some groups =>
    let buckets := ((groups.get? "buckets").bind Json.items?).getD []
    .ok {
      rows := buckets.map bucketRow
      continuation :=
        if buckets.isEmpty then none else (resumeKey? groups buckets).map .afterKey }
  | none => .error .missingBuckets

/-- The number of documents found, given as itself or in a `value` member. -/
def totalHits? (response : Json) : Option Nat :=
  (response.at? ["hits", "total"]).bind fun total =>
    total.nat64?.or ((total.get? "value").bind Json.nat64?)

/-- The page of a response over everything. -/
def totalsPage (response : Json) : Page :=
  { rows :=
      [.bucket [] (((response.get? "aggregations").bind Json.members?).getD [])
        (totalHits? response)]
    continuation := none }

/-- The page in a response. -/
def pageOfResponse (mode : SearchMode) (response : Json) : Except Failure Page :=
  match mode with
  | .hits _ => hitsPage response
  | .composite => groupsPage response
  | .totals => .ok (totalsPage response)

end Search

end Pushdown
