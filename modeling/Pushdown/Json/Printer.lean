import Pushdown.Json.Basic
import Pushdown.Number.Layout

/-!
# Writing JSON

`Json.compact` is the one-line text of a value, without blanks; `Json.indented` is the text over
several lines, two blanks a level. Texts are quoted with the short escapes where JSON has one and
the code of the character for the other controls; everything else is written as it is.
-/

namespace Pushdown.Json

/-- A digit of base sixteen, in lower case. -/
def hexDigit (n : Nat) : Char :=
  if n < 10 then Char.ofNat ('0'.toNat + n) else Char.ofNat ('a'.toNat + (n - 10))

/-- A character inside a quoted text. -/
def escapeChar (c : Char) : List Char :=
  if c = '"' then ['\\', '"']
  else if c = '\\' then ['\\', '\\']
  else if c.val = 0x08 then ['\\', 'b']
  else if c.val = 0x0C then ['\\', 'f']
  else if c = '\n' then ['\\', 'n']
  else if c = '\r' then ['\\', 'r']
  else if c = '\t' then ['\\', 't']
  else if c.val < 0x20 then
    ['\\', 'u', '0', '0', hexDigit (c.toNat / 16), hexDigit (c.toNat % 16)]
  else [c]

/-- A quoted text. -/
def quote (s : String) : String :=
  "\"" ++ String.ofList (s.toList.flatMap escapeChar) ++ "\""

/-- A number that is no integer; what is not finite has no JSON number and is written `null`. -/
def floatText (x : Binary64) : String :=
  if x.isFinite then Layout.json.text x else "null"

/-- The opening brace of an object. -/
def openBrace : String := "\x7b"

/-- The closing brace of an object. -/
def closeBrace : String := "\x7d"

mutual

/-- The text of a value on one line. -/
def compact : Json → String
  | .null => "null"
  | .bool b => if b then "true" else "false"
  | .int k => toString k
  | .float x => floatText x
  | .text s => quote s
  | .list items => "[" ++ ",".intercalate (compactItems items) ++ "]"
  | .object members => openBrace ++ ",".intercalate (compactMembers members) ++ closeBrace

/-- The texts of the items of a list. -/
def compactItems : List Json → List String
  | [] => []
  | j :: rest => compact j :: compactItems rest

/-- The texts of the members of an object. -/
def compactMembers : Members → List String
  | [] => []
  | (k, v) :: rest => (quote k ++ ":" ++ compact v) :: compactMembers rest

end

/-- A line break and the blanks of a level. -/
def newLine (level : Nat) : String :=
  "\n" ++ String.ofList (List.replicate (2 * level) ' ')

/-- Bracketed parts, each on its own line; nothing stands between the brackets of none. -/
def block (left right : String) (level : Nat) (parts : List String) : String :=
  match parts with
  | [] => left ++ right
  | parts =>
    left ++ newLine (level + 1) ++ ("," ++ newLine (level + 1)).intercalate parts
      ++ newLine level ++ right

mutual

/-- The text of a value over several lines, standing at a level. -/
def indentedAt (level : Nat) : Json → String
  | .null => "null"
  | .bool b => if b then "true" else "false"
  | .int k => toString k
  | .float x => floatText x
  | .text s => quote s
  | .list items => block "[" "]" level (indentedItems (level + 1) items)
  | .object members => block openBrace closeBrace level (indentedMembers (level + 1) members)

/-- The texts of the items of a list. -/
def indentedItems (level : Nat) : List Json → List String
  | [] => []
  | j :: rest => indentedAt level j :: indentedItems level rest

/-- The texts of the members of an object. -/
def indentedMembers (level : Nat) : Members → List String
  | [] => []
  | (k, v) :: rest => (quote k ++ ": " ++ indentedAt level v) :: indentedMembers level rest

end

/-- The text of a value over several lines. -/
def indented (j : Json) : String :=
  indentedAt 0 j

end Pushdown.Json
