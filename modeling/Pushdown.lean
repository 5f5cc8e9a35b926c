import Pushdown.Main
import Pushdown.Rehearsal.Cache
import Pushdown.Rehearsal.Pool
import Pushdown.Rehearsal.Link
import Pushdown.Proofs.Backend.Selection
import Pushdown.Proofs.Relational.Frame
import Pushdown.Proofs.Stream.OffsetPages
import Pushdown.Proofs.Stream.GroupPages
import Pushdown.Proofs.Engine.Release
import Pushdown.Proofs.Engine.Retry
import Pushdown.Proofs.Stream.CursorPages
import Pushdown.Proofs.Json.Members
import Pushdown.Proofs.Query.Answers
import Pushdown.Proofs.Schema.Reports
import Pushdown.Proofs.Search.Answers
import Pushdown.Proofs.Document.Sampling
import Pushdown.Proofs.Document.Groups
import Pushdown.Proofs.Schema.Ledger
import Pushdown.Proofs.Connection.Ownership
import Pushdown.Proofs.Schema.Turns
import Pushdown.Proofs.Schema.SingleFlight
import Pushdown.Proofs.Cluster.Sharing
import Pushdown.Proofs.Backend.Grouping
import Pushdown.Proofs.Relational.WhereClause
import Pushdown.Proofs.Query.Integers
import Pushdown.Proofs.Row.Instants
import Pushdown.Proofs.Backend.Instants
import Pushdown.Proofs.Query.Validity
import Pushdown.Proofs.Request.Records
import Pushdown.Proofs.Request.Spelling
import Pushdown.Proofs.Document.Columns
import Pushdown.Proofs.Row.Lookup
import Pushdown.Proofs.Backend.Counting
import Pushdown.Proofs.Engine.Refresh
import Pushdown.Proofs.Schema.Listing
import Pushdown.Proofs.Search.Leaves
import Pushdown.Proofs.Column.Parameters
import Pushdown.Proofs.Relational.Truncation
import Pushdown.Proofs.Schema.Locks
import Pushdown.Proofs.Document.Flat
import Pushdown.Proofs.Backend.Rendering
