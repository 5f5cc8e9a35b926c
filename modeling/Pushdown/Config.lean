import Pushdown.Failure
import Pushdown.Number.Numeral
import Pushdown.Text.Blank

/-!
# Configuration

The time budgets, sizes and ages an engine works with. Times are in milliseconds. Every option
has a default and may be set by an environment variable: `Config.settings` lists the variables in
the order in which they are looked at, the first that cannot be read being reported.
-/

namespace Pushdown

/-- The options of an engine. -/
structure Config where
  /-- How long a cached schema stays fresh. -/
  schemaTtl : Nat
  /-- The same for one kind of backend; the first entry of a kind counts. -/
  schemaTtlOverrides : List (BackendKind × Nat)
  /-- How old a cached schema must be before a missing name is worth fetching it again. -/
  schemaRefreshMinAge : Nat
  schemaTimeout : Nat
  queryTimeout : Nat
  pageTimeout : Nat
  connectTimeout : Nat
  /-- Rows or groups asked for per page. -/
  batchSize : Nat
  schemaCacheCapacity : Nat
  poolCapacity : Nat
  /-- How long an unused connection is kept. -/
  poolIdleTtl : Nat
  deriving DecidableEq, Repr, Inhabited

namespace Config

/-- The options nobody has set. -/
def default : Config :=
  { schemaTtl := 300000
    schemaTtlOverrides := [(.mysql, 86400000)]
    schemaRefreshMinAge := 30000
    schemaTimeout := 10000
    queryTimeout := 120000
    pageTimeout := 60000
    connectTimeout := 10000
    batchSize := 10000
    schemaCacheCapacity := 1000
    poolCapacity := 1000
    poolIdleTtl := 3600000 }

/-- The options with how long the schemas of one kind stay fresh. -/
def withSchemaTtlFor (c : Config) (kind : BackendKind) (ttl : Nat) : Config :=
  { c with schemaTtlOverrides := (kind, ttl) :: c.schemaTtlOverrides }

/-- How long the schemas of a kind stay fresh. -/
def schemaTtlFor (c : Config) (kind : BackendKind) : Nat :=
  (c.schemaTtlOverrides.lookup kind).getD c.schemaTtl

/-- What an engine needs of its options: something fits into a page, a cache and a pool. -/
def validate (c : Config) : Except Failure Unit :=
  if c.batchSize = 0 then .error .emptyBatches
  else if c.schemaCacheCapacity = 0 ∨ c.poolCapacity = 0 then .error .emptyCapacity
  else .ok ()

/-- An environment variable and the option it sets, given the number it holds. -/
structure Setting where
  envName : String
  apply : Nat → Config → Config

/-- The environment variables, in the order in which they are looked at. -/
def settings : List Setting :=
  [ ⟨"QUERYBRIDGE_SCHEMA_TTL_SECS", fun n c => { c with schemaTtl := n * 1000 }⟩,
    ⟨"QUERYBRIDGE_MYSQL_SCHEMA_TTL_SECS", fun n c => c.withSchemaTtlFor .mysql (n * 1000)⟩,
    ⟨"QUERYBRIDGE_SCHEMA_REFRESH_MIN_AGE_SECS",
      fun n c => { c with schemaRefreshMinAge := n * 1000 }⟩,
    ⟨"QUERYBRIDGE_SCHEMA_TIMEOUT_MS", fun n c => { c with schemaTimeout := n }⟩,
    ⟨"QUERYBRIDGE_QUERY_TIMEOUT_MS", fun n c => { c with queryTimeout := n }⟩,
    ⟨"QUERYBRIDGE_PAGE_TIMEOUT_MS", fun n c => { c with pageTimeout := n }⟩,
    ⟨"QUERYBRIDGE_CONNECT_TIMEOUT_MS", fun n c => { c with connectTimeout := n }⟩,
    ⟨"QUERYBRIDGE_BATCH_SIZE", fun n c => { c with batchSize := n }⟩,
    ⟨"QUERYBRIDGE_SCHEMA_CACHE_ENTRIES", fun n c => { c with schemaCacheCapacity := n }⟩,
    ⟨"QUERYBRIDGE_POOL_CAPACITY", fun n c => { c with poolCapacity := n }⟩,
    ⟨"QUERYBRIDGE_POOL_IDLE_SECS", fun n c => { c with poolIdleTtl := n * 1000 }⟩ ]

/-- The options with one setting applied, if its variable is set. -/
def applySetting (environment : String → Option String) (c : Config) (setting : Setting) :
    Except Failure Config :=
  match environment setting.envName with
  | none => .ok c
  | some raw =>
    match nat64OfText? (Text.trim raw) with
    | some n => .ok (setting.apply n c)
    | none => .error (.invalidSetting setting.envName raw)

/-- The options an environment sets; they must do for an engine. -/
def ofEnvironment (environment : String → Option String) : Except Failure Config := do
  let c ← settings.foldlM (applySetting environment) default
  c.validate
  return c

end Config

end Pushdown
