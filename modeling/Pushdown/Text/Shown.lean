import Pushdown.Text.HiddenTable

/-!
# Texts in reports for operators

`shown s` is a text in quotes in which everything that would not be seen, or would be mistaken
for a quote, is escaped: quotes and backslashes, the usual controls by their letters, and all
other characters that are not seen by their code points.
-/

namespace Pushdown.Text

/-- A digit of base sixteen, in lower case. -/
def baseSixteenDigit (n : Nat) : Char :=
  if n < 10 then Char.ofNat ('0'.toNat + n) else Char.ofNat ('a'.toNat + (n - 10))

/-- A number in base sixteen, with no leading zeros. -/
def baseSixteen (n : Nat) : String :=
  if n < 16 then String.singleton (baseSixteenDigit n)
  else (baseSixteen (n / 16)).push (baseSixteenDigit (n % 16))
termination_by n

/-- Whether a character is written as its code point. -/
def isHidden (c : Char) : Bool :=
  c.val < 0x20 || c.val == 0x7F
    || hiddenRanges.any fun r => r.1 ≤ c.toNat && c.toNat ≤ r.2

/-- A character inside the quotes. -/
def showChar (c : Char) : String :=
  if c = '"' then "\\\""
  else if c = '\\' then "\\\\"
  else if c = '\n' then "\\n"
  else if c = '\r' then "\\r"
  else if c = '\t' then "\\t"
  else if c.val = 0 then "\\0"
  else if isHidden c then "\\u\x7b" ++ baseSixteen c.toNat ++ "\x7d"
  else String.singleton c

/-- A text in quotes. -/
def shown (s : String) : String :=
  "\"" ++ String.join (s.toList.map showChar) ++ "\""

/-- An optional text. -/
def shownOption : Option String → String
  | some s => "Some(" ++ shown s ++ ")"
  | none => "None"

end Pushdown.Text
