import Pushdown.Cluster.Connector
import Pushdown.Command.Basic
import Pushdown.Connection.Pool
import Pushdown.Engine.Stream
import Pushdown.Request.Decode

/-!
# Running commands

`Command.carryOut` does what a command line asks for, in `Surroundings` that say what there is to
read and where requests go. The options of the engine are read before anything else is done. A
command ends well, or it was not understood, or it fails with a message; what was printed before
stays.
-/

namespace Pushdown

/-- What a command finds around it. -/
structure Surroundings (m : Type → Type) where
  environment : String → Option String
  /-- The bytes of a file, if it can be read. -/
  read : (path : String) → m (Option (List UInt8))
  transport : Http.Transport m
  /-- The time in milliseconds. -/
  now : m Nat
  print : String → m Unit

/-- How a command ends. -/
inductive CommandEnd where
  | done
  | misused
  | failed (message : String)
  deriving DecidableEq, Repr, Inhabited

/-- The number that stands for an end. -/
def CommandEnd.exitCode : CommandEnd → Nat
  | .done => 0
  | .failed _ => 1
  | .misused => 2

namespace Shape

/-- The name of a shape as it is reported. -/
def label : Shape → String
  | .rows => "Rows"
  | .grouped => "Grouped"
  | .aggregate => "Aggregate"

end Shape

namespace PageStrategy

/-- The name of a way of paging as it is reported. -/
def label : PageStrategy → String
  | .singleShot => "SingleShot"
  | .offset => "Offset"
  | .cursor => "Cursor"
  | .afterKey => "AfterKey"

end PageStrategy

namespace Command

variable {m : Type → Type} [Monad m]

/-- A part of a command: what it fails with is a message. -/
abbrev Act (m : Type → Type) := ExceptT String m

/-- Does something. -/
def lift {α : Type} (act : m α) : Act m α := ExceptT.lift act

/-- The result of something that can fail. -/
def orFail {α : Type} : Except Failure α → Act m α
  | .ok a => return a
  | .error cause => throw cause.message

/-- The bytes of a file that must be there. -/
def readFile (s : Surroundings m) (path : String) : Act m (List UInt8) := do
  match ← lift (s.read path) with
  | some bytes => return bytes
  | none => throw ("reading " ++ path)

/-- Reads a request from a file. -/
def readRequest (s : Surroundings m) (path : String) : Act m Request := do
  orFail (Request.ofBytes (← readFile s path))

/-- Reads the columns that stand in for a live backend from a file. -/
def readColumns (s : Surroundings m) (path : String) : Act m (List ReportedColumn) := do
  match ReportedColumn.listOfBytes? (← readFile s path) with
  | some columns => return columns
  | none => throw ("parsing " ++ path)

/-! ## The commands that need no connection -/

/-- A native type name and its canonical type. -/
def typeLine (kind : BackendKind) (name : String) : String :=
  name ++ "\t" ++ (kind.types.classify name).name ++ "\n"

/-- What a request compiles to, and the query for its first page. -/
def explanation (e : Engine) (kind : BackendKind) (columns : List ReportedColumn)
    (request : Request) : Except Failure String := do
  let schema := Schema.ofReported kind.types columns
  let compiled ← e.compileWith kind request schema
  let first := kind.pageQuery compiled none e.config.batchSize
  return "backend: " ++ compiled.backend.name ++ "\nshape: " ++ compiled.shape.label
    ++ "\npaging: " ++ compiled.strategy.label ++ "\ngroups: " ++ toString compiled.groupCount
    ++ "\n\n" ++ first.render ++ "\n"

/-! ## The commands that go to a cluster -/

/-- The caller of a command, who does not cancel. -/
def caller (s : Surroundings m) : Caller m := ⟨s.now, return false⟩

/-- The cluster that was chosen. Without a user there are no credentials. -/
def configOf (choice : ClusterChoice) : Cluster.Config :=
  let config := Cluster.Config.ofUrl choice.url
  match choice.username with
  | some username => config.withCredentials username (choice.password.getD "")
  | none => config

/-- Runs a part of a command over a connection to a cluster, which is closed at the end however
that part ends. -/
def connected {α : Type} (s : Surroundings m) (e : Engine) (choice : ClusterChoice)
    (act : Connection m → Act m α) : Act m α := do
  let link := Cluster.connection s.transport
  let config := configOf choice
  let effects : PoolEffects m Cluster.Config :=
    { now := s.now
      make := return .ok config
      connect := fun config budget => (link config).connect budget
      close := fun config => (link config).close }
  let (opened, pool) ← lift ((ConnectionPool.obtain effects config.identity).run
    (ConnectionPool.ofConfig e.config))
  let config ← orFail opened
  let result ← lift (act (link config)).run
  discard <| lift ((ConnectionPool.closeAll effects).run pool)
  MonadExcept.ofExcept result

/-- Runs a session of the engine on an empty cache. -/
def session {α : Type} (e : Engine) (session : Session m α) : Act m α := do
  orFail (← lift (session.run.run e.newCache)).1

/-- Prints the rows of a stream as they come, in at most so many turns. -/
def printRows (s : Surroundings m) (link : Connection m) :
    Nat → RowStream → (printed : Nat) → Act m Unit
  | 0, _, _ => return ()
  | turns + 1, rows, printed => do
    match ← lift (rows.turn link (caller s)) with
    | .row values rest =>
      lift (s.print ((Json.list values).compact ++ "\n"))
      printRows s link turns rest (printed + 1)
    | .page rest => printRows s link turns rest printed
    | .ended => return ()
    | .failed cause =>
      throw ("query failed after " ++ toString printed ++ " rows: " ++ cause.message)

/-- More turns than a stream can take in any time. -/
def endless : Nat := 4611686018427387904

/-- Does what a command says. -/
def perform (s : Surroundings m) (e : Engine) : Command → Act m Unit
  | .types kind names => do
    orFail (e.registry.require kind)
    names.forM fun name => lift (s.print (typeLine kind name))
  | .explain kind schemaPath requestPath => do
    let columns ← readColumns s schemaPath
    let request ← readRequest s requestPath
    lift (s.print (← orFail (explanation e kind columns request)))
  | .datasets choice => do
    let datasets ← connected s e choice fun link => session e (e.datasets link (caller s))
    lift (s.print ((Json.list (datasets.map DatasetDescriptor.toJson)).indented ++ "\n"))
  | .query choice requestPath _ => do
    let request ← readRequest s requestPath
    connected s e choice fun link => do
      let rows ← session e (e.query link (caller s) request)
      printRows s link endless rows 0

/-- The options of the engine for a command. -/
def engineFor (s : Surroundings m) (command : Command) : Except Failure Engine := do
  let config ← Config.ofEnvironment s.environment
  match command with
  | .query _ _ (some batchSize) => Engine.ofConfig { config with batchSize }
  | _ => Engine.ofConfig config

/-- Does what a command line asks for. -/
def carryOut (s : Surroundings m) (words : List String) : m CommandEnd := do
  match ofWords s.environment words with
  | .misused => return .misused
  | .showHelp text =>
    s.print text
    return .done
  | .run command =>
    let act : Act m Unit := do
      let engine ← orFail (engineFor s command)
      perform s engine command
    match ← act.run with
    | .ok () => return .done
    | .error message => return .failed message

end Command

end Pushdown
