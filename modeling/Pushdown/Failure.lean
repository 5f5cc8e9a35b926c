import Pushdown.Backend.Kind
import Pushdown.Column.Basic
import Pushdown.Json.Printer
import Pushdown.Request.Basic

/-!
# Failures

A failure is its cause: each constructor of `Failure` names one way in which a request, a
configuration, a backend or a connection fails, with what it takes to say so. `Failure.fault`
sorts the causes into the faults a caller can act on, and `Failure.message` is the one place
where a cause is put into words. What a connection reports in words of its own is
`Failure.reported`.
-/

namespace Pushdown

/-- The faults a caller can act on. A bad configuration is told apart here, but callers see it as
an unexpected fault (`Fault.kindName`). -/
inductive Fault where
  | badRequest
  | notFound
  | unauthorized
  | timeout
  | staleSchema
  | unavailable
  | cancelled
  | configuration
  | unexpected
  deriving DecidableEq, Repr, Inhabited

namespace Fault

/-- The stable name of the kind of fault that callers see. -/
def kindName : Fault → String
  | .badRequest => "bad_request"
  | .notFound => "dataset_or_column_not_found"
  | .unauthorized => "unauthorized"
  | .timeout => "query_timeout"
  | .staleSchema => "stale_schema"
  | .unavailable => "upstream_unavailable"
  | .cancelled => "cancelled"
  | .configuration => "unexpected"
  | .unexpected => "unexpected"

/-- The words a message starts with. -/
def words : Fault → String
  | .badRequest => "bad request"
  | .notFound => "not found"
  | .unauthorized => "unauthorized"
  | .timeout => "query timeout"
  | .staleSchema => "stale schema"
  | .unavailable => "upstream unavailable"
  | .cancelled => "cancelled"
  | .configuration => "configuration error"
  | .unexpected => "unexpected"

end Fault

/-- The calls that are given a time budget. -/
inductive Activity where
  | schemaFetch
  | schemaRefresh
  | query
  | pageFetch
  | connect
  deriving DecidableEq, Repr, Inhabited

/-- The name of a call. -/
def Activity.name : Activity → String
  | .schemaFetch => "schema fetch"
  | .schemaRefresh => "schema refresh"
  | .query => "query"
  | .pageFetch => "page fetch"
  | .connect => "connect"

/-- Why something failed. -/
inductive Failure where
  /-- The request could not be read. -/
  | malformedRequest
  | unknownBackend (name : String)
  | unknownLevel (name : String)
  | noColumns
  | unknownDataset (name : String)
  | unknownColumn (name datasetId : String)
  | wildcardAggregation (aggregation : Aggregation)
  | unsupportedAggregation (aggregation : Aggregation) (column : Column)
  | missingValue (test : FilterTest) (columnId : String)
  | nullComparison (test : FilterTest) (columnId : String)
  | invalidValue (value : Json) (column : Column)
  | noBackend (kind : BackendKind)
  | emptyBatches
  | emptyCapacity
  | invalidSetting (name value : String)
  | tooSlow (activity : Activity) (budgetMs : Nat)
  | interrupted (activity : Activity)
  /-- The caller cancelled between two pages. -/
  | queryCancelled
  | unknownToBackend (code : String)
  | credentialsRejected
  | statementTimeout
  | backendUnreachable
  | backendError (code : String)
  | missingHits
  | missingBuckets
  | notASearch
  | searchStatus (fault : Fault) (status : Nat)
  | searchTimeout
  | searchUnreachable
  | searchInterrupted
  | malformedResponse
  /-- What a connection reports in words of its own. -/
  | reported (fault : Fault) (text : String)
  deriving DecidableEq, Repr, Inhabited

namespace Failure

/-- The fault a cause belongs to. -/
def fault : Failure → Fault
  | .malformedRequest | .unknownBackend _ | .unknownLevel _ | .noColumns
  | .wildcardAggregation _ | .unsupportedAggregation .. | .missingValue .. | .nullComparison ..
  | .invalidValue .. => .badRequest
  | .unknownDataset _ | .unknownColumn .. => .notFound
  | .noBackend _ | .emptyBatches | .emptyCapacity | .invalidSetting .. => .configuration
  | .tooSlow .. | .statementTimeout | .searchTimeout => .timeout
  | .interrupted _ | .queryCancelled => .cancelled
  | .unknownToBackend _ => .staleSchema
  | .credentialsRejected => .unauthorized
  | .backendUnreachable | .searchUnreachable | .searchInterrupted => .unavailable
  | .backendError _ | .missingHits | .missingBuckets | .notASearch | .malformedResponse =>
    .unexpected
  | .searchStatus fault _ => fault
  | .reported fault _ => fault

/-- A cause in words, without its fault. -/
def detail : Failure → String
  | .malformedRequest => "malformed json"
  | .unknownBackend name => "unknown backend " ++ name
  | .unknownLevel name => "unknown date level " ++ name
  | .noColumns => "no columns provided"
  | .unknownDataset name => "dataset " ++ name ++ " does not exist"
  | .unknownColumn name datasetId =>
    "column " ++ name ++ " does not exist in dataset " ++ datasetId
  | .wildcardAggregation aggregation => "aggregation " ++ aggregation.name ++ " is not valid on *"
  | .unsupportedAggregation aggregation column =>
    "aggregation " ++ aggregation.name ++ " is not supported on " ++ column.type.name
      ++ " column " ++ column.id
  | .missingValue test columnId =>
    "filter '" ++ test.spelling ++ "' on " ++ columnId ++ " requires a value"
  | .nullComparison test columnId =>
    "cannot compare " ++ columnId ++ " with null using '" ++ test.spelling ++ "'"
  | .invalidValue value column =>
    "value " ++ value.compact ++ " is not valid for " ++ column.type.name ++ " column "
      ++ column.id
  | .noBackend kind => "no backend registered for " ++ kind.name
  | .emptyBatches => "batch size must be positive"
  | .emptyCapacity => "cache and pool capacities must be positive"
  | .invalidSetting name value => name ++ " has an invalid value: " ++ value
  | .tooSlow activity budgetMs => activity.name ++ " exceeded " ++ toString budgetMs ++ " ms"
  | .interrupted activity => activity.name ++ " cancelled by caller"
  | .queryCancelled => "query cancelled by caller"
  | .unknownToBackend code => "backend reported an unknown table or column (code " ++ code ++ ")"
  | .credentialsRejected => "backend rejected the credentials"
  | .statementTimeout => "backend cancelled the statement after its timeout"
  | .backendUnreachable => "backend is unreachable"
  | .backendError code => "backend error (code " ++ code ++ ")"
  | .missingHits => "search response without hits"
  | .missingBuckets => "search response without group buckets"
  | .notASearch => "elasticsearch cannot run a non-search query"
  | .searchStatus _ status => "elasticsearch responded with status " ++ toString status
  | .searchTimeout => "elasticsearch request timed out"
  | .searchUnreachable => "cannot reach elasticsearch"
  | .searchInterrupted => "elasticsearch request failed"
  | .malformedResponse => "malformed elasticsearch response"
  | .reported _ text => text

/-- A cause in words. -/
def message (f : Failure) : String :=
  f.fault.words ++ ": " ++ f.detail

/-- Whether a newer schema might help. -/
def isSchemaMiss (f : Failure) : Bool :=
  f.fault = .staleSchema || f.fault = .notFound

end Failure

end Pushdown
