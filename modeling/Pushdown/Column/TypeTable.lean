import Pushdown.Column.Basic
import Pushdown.Text.Blank
import Pushdown.Text.Digit
import Pushdown.Text.Lower

/-!
# Type tables

A type table says what the native type names of one backend stand for. It either lists names,
looked up without the parameters in parentheses, or gives patterns, of which the first that
matches decides. A name is trimmed and lower-cased first; one that the table does not know is a
label, so that `TypeTable.classify` is total.
-/

namespace Pushdown

/-- A pattern for a part of a type name. -/
inductive TypePattern where
  | word (letters : String)
  | digit
  | maybe (part : TypePattern)
  | either (first second : TypePattern)
  | seq (first second : TypePattern)
  deriving Repr, DecidableEq

namespace TypePattern

/-- What may remain of a text after a part of it that the pattern matches. -/
def rests : TypePattern → List Char → List (List Char)
  | .word letters, cs =>
    if letters.toList.isPrefixOf cs then [cs.drop letters.toList.length] else []
  | .digit, cs =>
    match cs with
    | c :: rest => if Text.isDecimalDigit c then [rest] else []
    | [] => []
  | .maybe part, cs => part.rests cs ++ [cs]
  | .either first second, cs => first.rests cs ++ second.rests cs
  | .seq first second, cs => (first.rests cs).flatMap second.rests

end TypePattern

/-- A pattern for a whole type name: whether it must stand at the start and reach the end. -/
structure TypeRule where
  atStart : Bool
  pattern : TypePattern
  atEnd : Bool
  type : ColumnType
  deriving Repr, DecidableEq

namespace TypeRule

/-- The rule for names that are exactly the pattern. -/
def exactly (pattern : TypePattern) (type : ColumnType) : TypeRule := ⟨true, pattern, true, type⟩

/-- The rule for names that start with a word. -/
def startingWith (letters : String) (type : ColumnType) : TypeRule :=
  ⟨true, .word letters, false, type⟩

/-- The rule for names that hold a word anywhere. -/
def holding (letters : String) (type : ColumnType) : TypeRule :=
  ⟨false, .word letters, false, type⟩

/-- Whether the pattern matches at the start of the text, up to its end where that is asked. -/
def admitsHere (rule : TypeRule) (cs : List Char) : Bool :=
  (rule.pattern.rests cs).any fun rest => !rule.atEnd || rest.isEmpty

/-- Whether the pattern matches at some place of the text. -/
def admitsWithin (rule : TypeRule) : List Char → Bool
  | [] => rule.admitsHere []
  | c :: cs => rule.admitsHere (c :: cs) || rule.admitsWithin cs

/-- Whether the rule matches the name. -/
def admits (rule : TypeRule) (cs : List Char) : Bool :=
  if rule.atStart then rule.admitsHere cs else rule.admitsWithin cs

end TypeRule

/-- What the native type names of a backend stand for. -/
inductive TypeTable where
  | names (entries : List (String × ColumnType))
  | rules (entries : List TypeRule)

namespace TypeTable

/-- The number of entries. -/
def size : TypeTable → Nat
  | .names entries => entries.length
  | .rules entries => entries.length

/-- The name without its parameters, a trailing ` unsigned`, and the blanks that leaves. -/
def baseName (cs : List Char) : List Char :=
  Text.trimChars (Text.dropEndings " unsigned".toList (cs.takeWhile (· ≠ '(')))

/-- The type a native name stands for, if the table knows it. -/
def find? (table : TypeTable) (native : String) : Option ColumnType :=
  let cs := (Text.lower (Text.trim native)).toList
  match table with
  | .names entries => entries.lookup (String.ofList (baseName cs))
  | .rules entries => (entries.find? (·.admits cs)).map (·.type)

/-- The type a native name stands for; a name the table does not know is a label. -/
def classify (table : TypeTable) (native : String) : ColumnType :=
  (table.find? native).getD .hierarchy

end TypeTable

end Pushdown
