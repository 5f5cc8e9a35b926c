import Pushdown.Backend.Compiler

/-!
# Command lines

What a command is told on its command line: options with a value each, written `--name value`,
`--name=value` or with one dash and a letter, and other arguments. Everything after `--` is an
argument, and what starts with a dash is never taken for the value of an option. An option may be
given once. `Arguments.read` reads the command line of a `CommandSpec`, the first thing wrong with
it deciding.
-/

namespace Pushdown

/-- A variable of the environment that stands in for an option. -/
structure Variable where
  name : String
  /-- Whether its value is kept out of the help. -/
  secret : Bool
  deriving DecidableEq, Repr, Inhabited

/-- An option a command takes. -/
structure OptionSpec where
  long : String
  short : Option Char
  /-- The name its value goes by. -/
  valueName : String
  help : String
  /-- Whether it must be given. -/
  required : Bool
  standIn? : Option Variable
  /-- The value it has when nothing is said. -/
  usual? : Option String
  /-- Whether a value will do. -/
  accepts : String → Bool

/-- The other arguments of a command, of which there must be one at least. -/
structure OthersSpec where
  name : String
  help : String
  deriving DecidableEq, Repr, Inhabited

/-- What may be said on the command line of a command. -/
structure CommandSpec where
  name : String
  about : String
  /-- What else there is to say about the command, for those who ask for more. -/
  details? : Option String
  options : List OptionSpec
  others : Option OthersSpec

/-- What a command line says. -/
structure Arguments where
  /-- The values of the options that are given. -/
  options : List (String × String)
  /-- The other arguments. -/
  others : List String
  deriving DecidableEq, Repr, Inhabited

/-- Why nothing is done. -/
inductive Refusal where
  /-- The command line makes no sense. -/
  | usage
  /-- Help was asked for, with all there is to say or without. -/
  | help (full : Bool)
  deriving DecidableEq, Repr, Inhabited

namespace Arguments

/-- A command line without anything. -/
def empty : Arguments := ⟨[], []⟩

/-- The arguments with an option given a value. -/
def withOption (a : Arguments) (spec : OptionSpec) (value : String) : Except Refusal Arguments :=
  if (a.options.lookup spec.long).isSome ∨ !spec.accepts value then .error .usage
  else .ok { a with options := (spec.long, value) :: a.options }

/-- The arguments with more that are not options. -/
def withOthers (a : Arguments) (spec : CommandSpec) (values : List String) :
    Except Refusal Arguments :=
  if spec.others.isSome ∨ values = [] then .ok { a with others := a.others ++ values }
  else .error .usage

/-- Whether a word starts like an option. -/
def isOptionLike (word : String) : Bool :=
  match word.toList with
  | '-' :: _ :: _ => true
  | _ => false

/-- What a word that starts like an option says. -/
inductive Word where
  | unknown
  | help (full : Bool)
  | option (spec : OptionSpec)
  | valued (spec : OptionSpec) (value : String)

/-- Reads a word that starts like an option. -/
def wordOf (spec : CommandSpec) (word : String) : Word :=
  match word.toList with
  | '-' :: '-' :: cs =>
    let name := String.ofList (cs.takeWhile (· ≠ '='))
    match spec.options.find? (·.long = name), cs.dropWhile (· ≠ '=') with
    | some spec, [] => .option spec
    | some spec, _ :: value => .valued spec (String.ofList value)
    | none, [] => if name = "help" then .help true else .unknown
    | none, _ => .unknown
  | '-' :: c :: cs =>
    match spec.options.find? (·.short = some c), cs with
    | some spec, [] => .option spec
    | some spec, '=' :: value => .valued spec (String.ofList value)
    | some spec, value => .valued spec (String.ofList value)
    | none, _ => if c = 'h' then .help false else .unknown
  | _ => .unknown

/-- Reads words one by one. An option may wait for its value (`pending`). -/
def readFrom (spec : CommandSpec) (pending : Option OptionSpec) (a : Arguments) :
    List String → Except Refusal Arguments
  | [] => if pending.isSome then .error .usage else .ok a
  | word :: rest =>
    match pending with
    | some option =>
      if isOptionLike word then .error .usage
      else do readFrom spec none (← a.withOption option word) rest
    | none =>
      if word = "--" then a.withOthers spec rest
      else if isOptionLike word then
        match wordOf spec word with
        | .unknown => .error .usage
        | .help full => .error (.help full)
        | .option option => readFrom spec (some option) a rest
        | .valued option value => do readFrom spec none (← a.withOption option value) rest
      else do readFrom spec none (← a.withOthers spec [word]) rest

/-- Reads the command line of a command. -/
def read (spec : CommandSpec) (words : List String) : Except Refusal Arguments :=
  readFrom spec none empty words

/-- The value of an option. -/
def option? (a : Arguments) (long : String) : Option String := a.options.lookup long

/-- The value of an option that must be given. -/
def require (a : Arguments) (long : String) : Except Refusal String :=
  match a.option? long with
  | some value => .ok value
  | none => .error .usage

end Arguments

end Pushdown
