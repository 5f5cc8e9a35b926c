import Pushdown.Command.Arguments

/-!
# Commands

The four commands: the canonical types of native type names, what a request compiles to, the
datasets of a cluster, and the rows of a request to a cluster. `Command.ofWords` finds in a
command line what is to be done; the environment stands in for an option that is not given.
`Command.usage` is the help of a command.
-/

namespace Pushdown

/-- The cluster a command goes to. -/
structure ClusterChoice where
  url : String
  username : Option String
  password : Option String
  deriving DecidableEq, Repr, Inhabited

/-- What is to be done. -/
inductive Command where
  | types (kind : BackendKind) (names : List String)
  | explain (kind : BackendKind) (schemaPath requestPath : String)
  | datasets (cluster : ClusterChoice)
  | query (cluster : ClusterChoice) (requestPath : String) (batchSize : Option Nat)
  deriving DecidableEq, Repr, Inhabited

namespace Command

/-- The kind of backend a command works for. -/
def backendOption : OptionSpec :=
  { long := "backend"
    short := none
    valueName := "BACKEND"
    help := ""
    required := true
    standIn? := none
    usual? := none
    accepts := fun value => (BackendKind.parse value).toOption.isSome }

/-- An option that names a file, and must be given. -/
def fileOption (long valueName help : String) : OptionSpec :=
  { long := long
    short := none
    valueName := valueName
    help := help
    required := true
    standIn? := none
    usual? := none
    accepts := fun value => value ≠ "" }

/-- Where a cluster is, if nothing is said. -/
def usualUrl : String := "http://localhost:9200"

/-- The variable that says where a cluster is. -/
def urlVariable : Variable := ⟨"QUERYBRIDGE_ES_URL", false⟩

/-- The variable that holds the password of a cluster. -/
def passwordVariable : Variable := ⟨"QUERYBRIDGE_ES_PASSWORD", true⟩

/-- The options that choose a cluster. -/
def clusterOptions : List OptionSpec :=
  [ { long := "url"
      short := none
      valueName := "URL"
      help := "Elasticsearch base URL"
      required := false
      standIn? := some urlVariable
      usual? := some usualUrl
      accepts := fun _ => true },
    { long := "user"
      short := some 'u'
      valueName := "USER"
      help := "Username for basic authentication"
      required := false
      standIn? := none
      usual? := none
      accepts := fun _ => true },
    { long := "password"
      short := some 'P'
      valueName := "PASSWORD"
      help := "Password for basic authentication"
      required := false
      standIn? := some passwordVariable
      usual? := none
      accepts := fun _ => true } ]

/-- The size of a page. -/
def batchSizeOption : OptionSpec :=
  { long := "batch-size"
    short := none
    valueName := "BATCH_SIZE"
    help := "Rows or buckets per page (overrides QUERYBRIDGE_BATCH_SIZE)"
    required := false
    standIn? := none
    usual? := none
    accepts := fun value => (nat64OfText? value).isSome }

/-- The command that shows canonical types. -/
def typesSpec : CommandSpec :=
  { name := "types"
    about := "Show the canonical type of native column types"
    details? := none
    options := [backendOption]
    others := some
      { name := "NAMES"
        help :=
          "Native type names, e.g. \x60varchar(255)\x60 or \x60timestamp with time zone\x60" } }

/-- The command that shows what a request compiles to. -/
def explainSpec : CommandSpec :=
  { name := "explain"
    about := "Compile a request offline and print the native query"
    details? := some <|
      "The schema file is a JSON array of \x60\x7b\"dataset\", \"column\", \"native_type\", "
        ++ "\"has_keyword\"\x7d\x60 objects."
    options :=
      [ backendOption,
        fileOption "schema" "SCHEMA" "",
        fileOption "request" "REQUEST"
          "Request JSON: \x60\x7b\"id\", \"columns\", \"filters\", \"pushdown\"\x7d\x60" ]
    others := none }

/-- The command that lists datasets. -/
def datasetsSpec : CommandSpec :=
  { name := "datasets"
    about := "List the datasets of an Elasticsearch cluster"
    details? := none
    options := clusterOptions
    others := none }

/-- The command that runs a request. -/
def querySpec : CommandSpec :=
  { name := "query"
    about := "Run a request against an Elasticsearch cluster, printing one JSON array per row"
    details? := none
    options := clusterOptions ++ [fileOption "request" "REQUEST" "", batchSizeOption]
    others := none }

/-- Every command. -/
def specs : List CommandSpec := [typesSpec, explainSpec, datasetsSpec, querySpec]

/-! ## Help -/

/-- The name of the program. -/
def programName : String := "querybridge"

/-- A text whose lines after the first start as many columns further right. -/
def hang (columns : Nat) (text : String) : String :=
  ("\n" ++ "".pushn ' ' columns).intercalate (text.splitOn "\n")

/-- Texts side by side, the first ones filled up to the same width. -/
def sideBySide (rows : List (String × String)) : List String :=
  let width := (rows.map fun row => row.1.length).foldl max 0
  rows.map fun row =>
    "  " ++ row.1.pushn ' ' (width - row.1.length + 2) ++ hang (width + 4) row.2

/-- Texts below each other, the second ones further right, with empty lines between the pairs. -/
def belowEachOther (rows : List (String × String)) : List String :=
  ["\n\n".intercalate (rows.map fun row => "  " ++ row.1 ++ "\n          " ++ hang 10 row.2)]

/-- What the word for help is said to do. -/
def helpAbout : String := "Print this message or the help of the given subcommand(s)"

/-- The help of the program. -/
def overview : String :=
  "\n".intercalate
    (["Compile and run pushdown queries against SQL, search and document backends", "",
      "Usage: " ++ programName ++ " <COMMAND>", "", "Commands:"]
    ++ sideBySide (specs.map (fun spec => (spec.name, spec.about)) ++ [("help", helpAbout)])
    ++ ["", "Options:", "  -h, --help  Print help", ""])

/-- The help of the word for help. -/
def helpOfHelp : String :=
  "\n".intercalate
    [helpAbout, "", "Usage: " ++ programName ++ " help [COMMAND]...", "", "Arguments:",
      "  [COMMAND]...  Print help for the subcommand(s)", ""]

/-- An option with its value. -/
def optionForm (o : OptionSpec) : String := "--" ++ o.long ++ " <" ++ o.valueName ++ ">"

/-- An option in a list of options. -/
def optionEntry (o : OptionSpec) : String :=
  (match o.short with
    | some c => "-" ++ String.singleton c ++ ", "
    | none => "    ")
  ++ optionForm o

/-- A text as the help shows it: of the control characters only blanks are kept. -/
def withoutControls (text : String) : String :=
  String.ofList <| text.toList.filter fun c =>
    (0x20 ≤ c.val ∧ c.val ≠ 0x7F) ∨ "\t\n\x0c\x0d".toList.contains c

/-- What the help says of an option: what it is for, the variable that stands in for it, with the
value it has at the moment, and the value it has otherwise. -/
def optionHelp (environment : String → Option String) (o : OptionSpec) : String :=
  let valueOf (v : Variable) : String :=
    if v.secret then "" else "=" ++ withoutControls ((environment v.name).getD "")
  let ofVariable := o.standIn?.map fun v => "[env: " ++ v.name ++ valueOf v ++ "]"
  let ofUsual := o.usual?.map fun value => "[default: " ++ value ++ "]"
  " ".intercalate ((o.help :: ofVariable.toList ++ ofUsual.toList).filter (· ≠ ""))

/-- How a command is used: the options that must be given are listed, the others are not. -/
def usageLine (spec : CommandSpec) : String :=
  " ".intercalate
    (["Usage:", programName, spec.name]
    ++ (if spec.options.all (·.required) then [] else ["[OPTIONS]"])
    ++ (spec.options.filter (·.required)).map optionForm
    ++ (spec.others.map fun others => "<" ++ others.name ++ ">...").toList)

/-- The help of a command. The full one differs only for a command with details. -/
def usage (environment : String → Option String) (spec : CommandSpec) (full : Bool) : String :=
  let full := full && spec.details?.isSome
  let listed := if full then belowEachOther else sideBySide
  let helpHelp :=
    if spec.details?.isNone then "Print help"
    else if full then "Print help (see a summary with '-h')"
    else "Print help (see more with '--help')"
  "\n".intercalate
    ([spec.about, ""]
    ++ (if full then spec.details?.toList.flatMap fun details => [details, ""] else [])
    ++ [usageLine spec, ""]
    ++ (spec.others.toList.flatMap fun others =>
      "Arguments:" :: listed [("<" ++ others.name ++ ">...", others.help)] ++ [""])
    ++ ["Options:"]
    ++ listed (spec.options.map (fun o => (optionEntry o, optionHelp environment o))
      ++ [("-h, --help", helpHelp)])
    ++ [""])

/-! ## Reading a command line -/

/-- What a command line comes to. -/
inductive Intent where
  | run (command : Command)
  | showHelp (text : String)
  | misused
  deriving Repr, Inhabited

/-- The cluster that is chosen. -/
def clusterOf (environment : String → Option String) (a : Arguments) : ClusterChoice :=
  { url := ((a.option? "url").or (environment urlVariable.name)).getD usualUrl
    username := a.option? "user"
    password := (a.option? "password").or (environment passwordVariable.name) }

/-- The kind of backend that is chosen. -/
def kindOf (a : Arguments) : Except Refusal BackendKind := do
  match BackendKind.parse (← a.require "backend") with
  | .ok kind => return kind
  | .error _ => throw .usage

/-- The command that the arguments of a command ask for. -/
def ofArguments (environment : String → Option String) (name : String) (a : Arguments) :
    Except Refusal Command := do
  match name with
  | "types" => if a.others = [] then throw .usage else return .types (← kindOf a) a.others
  | "explain" => return .explain (← kindOf a) (← a.require "schema") (← a.require "request")
  | "datasets" => return .datasets (clusterOf environment a)
  | "query" =>
    return .query (clusterOf environment a) (← a.require "request")
      ((a.option? "batch-size").bind nat64OfText?)
  | _ => throw .usage

/-- The command of a name. -/
def spec? (name : String) : Option CommandSpec := specs.find? (·.name = name)

/-- What is asked for behind the word for help. -/
def helpFor (environment : String → Option String) : List String → Intent
  | [] => .showHelp overview
  | [name] =>
    match spec? name with
    | some spec => .showHelp (usage environment spec true)
    | none => if name = "help" then .showHelp helpOfHelp else .misused
  | _ => .misused

/-- What a command line asks for. -/
def ofWords (environment : String → Option String) : List String → Intent
  | [] => .misused
  | word :: rest =>
    if word = "help" then helpFor environment rest
    else if word = "--help" ∨ (word.startsWith "-h" : Bool) then .showHelp overview
    else
      match spec? word with
      | none => .misused
      | some spec =>
        match (Arguments.read spec rest).bind (ofArguments environment spec.name) with
        | .ok command => .run command
        | .error (.help full) => .showHelp (usage environment spec full)
        | .error .usage => .misused

end Command

end Pushdown
