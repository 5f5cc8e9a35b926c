import Pushdown.Column.TypeTable
import Pushdown.Failure
import Pushdown.Predicate.Basic
import Pushdown.Relational.Fragment
import Pushdown.Relational.Truncation
import Pushdown.Text.Split

/-!
# Dialects

The three relational dialects and what differs between them: quotes, literals, the computation
that truncates an instant, the paging clause, the query that lists the columns of a database, and
the codes a database answers with when a statement fails.

Names and texts are quoted so that the quote that closes them is the first lone one:
the closing quote is doubled inside, and where a backslash escapes, it is doubled too.
-/

namespace Pushdown

/-- A relational dialect. -/
inductive Dialect where
  | mySql
  | postgres
  | sqlServer
  deriving DecidableEq, Repr, Inhabited

namespace Dialect

/-- The kind of backend that speaks the dialect. -/
def kind : Dialect → BackendKind
  | .mySql => .mysql
  | .postgres => .postgres
  | .sqlServer => .sqlserver

/-! ## Quotes and literals -/

/-- A quoted name. -/
def quoteName (d : Dialect) (s : String) : String :=
  match d with
  | .mySql => "`" ++ doubled '`' s ++ "`"
  | .postgres => "\"" ++ doubled '"' s ++ "\""
  | .sqlServer => "[" ++ doubled ']' s ++ "]"

/-- A quoted text. -/
def quoteText (d : Dialect) (s : String) : String :=
  match d with
  | .mySql => "'" ++ doubled '\'' (doubled '\\' s) ++ "'"
  | .postgres => "'" ++ doubled '\'' s ++ "'"
  | .sqlServer => "N'" ++ doubled '\'' s ++ "'"

/-- The text of a fragment. -/
def renderFragment (d : Dialect) : Fragment → String
  | .words s => s
  | .name s => d.quoteName s
  | .text s => d.quoteText s

/-- The text of a statement. -/
def render (d : Dialect) (parts : Fragments) : String :=
  String.join (parts.map d.renderFragment)

/-- The fragments of a dataset name: its parts between dots, each a name. -/
def tableName (dataset : String) : Fragments :=
  Fragment.separated "." ((Text.split '.' dataset).map fun part => [.name part])

/-- A truth value. -/
def boolText (d : Dialect) (b : Bool) : String :=
  match d with
  | .sqlServer => if b then "1" else "0"
  | _ => if b then "TRUE" else "FALSE"

/-- An instant, to the millisecond. -/
def instantText (d : Dialect) (t : Instant) : String :=
  match d with
  | .mySql => "'" ++ t.stamp " " ++ "'"
  | .postgres => "TIMESTAMP '" ++ t.stamp " " ++ "'"
  | .sqlServer => "CONVERT(datetime2, '" ++ t.stamp "T" ++ "', 126)"

/-- A number: an integer where it is one, and never with an exponent. -/
def numberText (x : Binary64) : String :=
  if x.writesAsInteger then toString x.truncate else Layout.statement.text x

/-- A literal. -/
def literal (d : Dialect) : Literal → Fragment
  | .number x => .words (numberText x)
  | .text s => .text s
  | .bool b => .words (d.boolText b)
  | .timestamp t => .words (d.instantText t)

/-! ## Truncation -/

/-- The computation that truncates a column to the start of its period. Periods of a second are
counted from midnight where a count since the origin would not fit, and weeks start on Monday:
where the dialect counts the Sundays passed, the day before is counted. -/
def truncation (d : Dialect) (level : DateLevel) : InstantTerm :=
  match d, level with
  | .postgres, level => .truncated level
  | _, .millisecond => .column
  | .sqlServer, .week => .advance .week .origin .origin (.dayBefore .column)
  | .sqlServer, .second => .advance .second (.midnight .column) (.midnight .column) .column
  | _, level => .sinceOrigin level

/-- A level as the dialect's functions name it. -/
def unitName (d : Dialect) (level : DateLevel) : String :=
  match d with
  | .mySql => level.name.map Char.toUpper
  | .postgres => if level = .millisecond then "milliseconds" else level.name
  | .sqlServer => level.name

/-- The fragments of a term over a column. -/
def term (d : Dialect) (column : Fragments) : InstantTerm → Fragments
  | .column => column
  | .origin =>
    match d with
    | .sqlServer => [.words "0"]
    | _ => [.words "'1900-01-01'"]
  | .midnight t => .words "CAST(CAST(" :: d.term column t ++ [.words " AS DATE) AS DATETIME)"]
  | .dayBefore t => .words "DATEADD(day, -1, " :: d.term column t ++ [.words ")"]
  | .advance level base start stop =>
    let unit := d.unitName level
    match d with
    | .sqlServer =>
      .words ("DATEADD(" ++ unit ++ ", DATEDIFF(" ++ unit ++ ", ") :: d.term column start
        ++ .words ", " :: d.term column stop ++ .words "), " :: d.term column base
        ++ [.words ")"]
    | _ =>
      .words "DATE_ADD(" :: d.term column base
        ++ .words (", INTERVAL TIMESTAMPDIFF(" ++ unit ++ ", ") :: d.term column start
        ++ .words ", " :: d.term column stop ++ [.words (") " ++ unit ++ ")")]
  | .truncated level =>
    .words ("date_trunc('" ++ d.unitName level ++ "', ") :: column ++ [.words ")"]

/-! ## Counting and paging -/

/-- The number of distinct values of an expression. -/
def countDistinct (expression : Fragments) : Fragments :=
  .words "COUNT(DISTINCT " :: expression ++ [.words ")"]

/-- The ordering by ordinals of the select list, if there are any. -/
def orderClause? (orderBy : List Nat) : Option String :=
  if orderBy.isEmpty then none
  else some ("ORDER BY " ++ ", ".intercalate (orderBy.map toString))

/-- What follows a statement to ask for one page of its result. -/
def pageClause (d : Dialect) (orderBy : List Nat) (limit offset : Nat) : String :=
  match d with
  | .sqlServer =>
    " " ++ (orderClause? orderBy).getD "ORDER BY (SELECT NULL)" ++ " OFFSET " ++ toString offset
      ++ " ROWS FETCH NEXT " ++ toString limit ++ " ROWS ONLY"
  | _ =>
    (match orderClause? orderBy with
      | some order => " " ++ order
      | none => "")
      ++ " LIMIT " ++ toString limit ++ " OFFSET " ++ toString offset

/-- The statement for one page of a statement's result. -/
def paginate (d : Dialect) (text : String) (orderBy : List Nat) (limit offset : Nat) : String :=
  text ++ d.pageClause orderBy limit offset

/-! ## The catalogue and its failures -/

/-- The statement that lists the schema, table, column and type of every column. -/
def columnListing : Dialect → String
  | .mySql =>
    "SELECT tbl.table_schema, tbl.table_name, col.column_name, col.data_type "
      ++ "FROM information_schema.tables tbl "
      ++ "JOIN information_schema.columns col ON tbl.table_schema = col.table_schema "
      ++ "AND tbl.table_name = col.table_name "
      ++ "WHERE tbl.table_schema NOT IN ('information_schema', 'mysql', 'sys', "
      ++ "'performance_schema') "
      ++ "ORDER BY tbl.table_schema, tbl.table_name, col.ordinal_position"
  | .postgres =>
    "SELECT table_schema, table_name, column_name, data_type "
      ++ "FROM information_schema.columns "
      ++ "WHERE table_schema NOT IN ('pg_catalog', 'information_schema') "
      ++ "ORDER BY table_schema, table_name, ordinal_position"
  | .sqlServer =>
    "SELECT table_schema, table_name, column_name, data_type "
      ++ "FROM information_schema.columns "
      ++ "WHERE table_schema NOT IN ('information_schema', 'sys') "
      ++ "ORDER BY table_schema, table_name, ordinal_position"

/-- The fault an error code stands for. -/
def faultOf (d : Dialect) (code : String) : Fault :=
  let codes : List (Fault × List String) := match d with
    | .mySql =>
      [ (.staleSchema, ["1054", "1146", "1051", "ER_BAD_FIELD_ERROR", "ER_NO_SUCH_TABLE"]),
        (.unauthorized, ["1045", "1044", "ER_ACCESS_DENIED_ERROR"]),
        (.timeout, ["3024", "1317"]),
        (.unavailable, ["2002", "2003", "2005", "2013", "ECONNREFUSED", "ENOTFOUND"]) ]
    | .postgres =>
      [ (.staleSchema, ["42703", "42P01"]),
        (.unauthorized, ["28P01", "28000"]),
        (.timeout, ["57014"]),
        (.unavailable, ["08001", "08006", "08004", "57P03"]) ]
    | .sqlServer =>
      [ (.staleSchema, ["207", "208"]),
        (.unauthorized, ["18456", "ELOGIN"]),
        (.timeout, ["57014", "ETIMEOUT", "-2"]),
        (.unavailable, ["ESOCKET", "ECONNCLOSED", "EINSTLOOKUP"]) ]
  match codes.find? fun entry => entry.2.contains code with
  | some (fault, _) => fault
  | none => .unexpected

/-- The failure an error code stands for. -/
def failureOf (d : Dialect) (code : String) : Failure :=
  match d.faultOf code with
  | .staleSchema => .unknownToBackend code
  | .unauthorized => .credentialsRejected
  | .timeout => .statementTimeout
  | .unavailable => .backendUnreachable
  | _ => .backendError code

end Dialect

end Pushdown
