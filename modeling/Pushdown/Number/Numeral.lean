import Pushdown.Number.Binary64
import Pushdown.Text.Digit

/-!
# Reading decimal numerals

`Binary64.ofDecimal` is the number nearest to `digits * 10 ^ exponent`. Two grammars lead to it:
the numerals in a text (`Binary64.ofText?`: an optional sign, digits with an optional point, an
optional exponent, or one of the words for what is not finite), and the number tokens of JSON,
which `Pushdown.Json` reads. `int64OfText?` reads a signed 64-bit integer.
-/

namespace Pushdown

namespace Binary64

/-- The number nearest to `digits * 10 ^ exponent`. Exponents that put every number of that many
digits out of range are answered without computing the power. -/
def ofDecimal (negative : Bool) (digits : Nat) (exponent : Int) : Binary64 :=
  if digits = 0 then .finite negative 0 minExponent
  else
    let size : Int := (digits.log2 : Int) * 30103 / 100000 + 1 + exponent
    if 400 < size then .infinite negative
    else if size < -400 then .finite negative 0 minExponent
    else if 0 ≤ exponent then ofRatio negative (digits * Nat.pow 10 exponent.toNat) 1
    else ofRatio negative digits (Nat.pow 10 (-exponent).toNat)

end Binary64

namespace Text

/-- The digits a text starts with, and what follows them. -/
def spanDigits (cs : List Char) : List Char × List Char :=
  (cs.takeWhile Char.isDigit, cs.dropWhile Char.isDigit)

/-- The value of a list of ASCII digits, most significant first. -/
def digitsValue (cs : List Char) : Nat :=
  cs.foldl (fun n c => 10 * n + (c.toNat - '0'.toNat)) 0

/-- The optional sign a numeral starts with: whether it is a minus, and what follows. -/
def takeSign : List Char → Bool × List Char
  | '-' :: rest => (true, rest)
  | '+' :: rest => (false, rest)
  | rest => (false, rest)

/-- The exponent part of a numeral: none when it is malformed, zero when it is absent. -/
def exponentPart? : List Char → Option Int
  | [] => some 0
  | c :: rest =>
    if c = 'e' ∨ c = 'E' then
      let (negative, digits) := takeSign rest
      if digits ≠ [] ∧ digits.all Char.isDigit then
        some (if negative then -(digitsValue digits : Int) else digitsValue digits)
      else none
    else none

end Text

open Text in
/-- The number a text denotes: an optional sign, then `inf`, `infinity` or `nan` in any case, or
digits with an optional point and an optional exponent. Nothing else may stand in the text. -/
def Binary64.ofText? (s : String) : Option Binary64 :=
  let (negative, body) := takeSign s.toList
  let word := String.ofList (body.map Char.toLower)
  if word = "inf" ∨ word = "infinity" then some (.infinite negative)
  else if word = "nan" then some .nan
  else
    let (whole, rest) := spanDigits body
    let (fraction, rest) :=
      match rest with
      | '.' :: rest => spanDigits rest
      | rest => ([], rest)
    if whole = [] ∧ fraction = [] then none
    else (exponentPart? rest).map fun e =>
      .ofDecimal negative (digitsValue (whole ++ fraction)) (e - fraction.length)

open Text in
/-- The integer a text denotes: an optional sign and digits, within the signed 64-bit range. -/
def int64OfText? (s : String) : Option Int :=
  let (negative, digits) := takeSign s.toList
  if digits = [] ∨ !digits.all Char.isDigit then none
  else
    let k : Int := if negative then -(digitsValue digits : Int) else digitsValue digits
    if Binary64.int64Min ≤ k ∧ k ≤ Binary64.int64Max then some k else none

open Text in
/-- The natural number a text denotes: an optional plus sign and digits, below `2 ^ 64`. -/
def nat64OfText? (s : String) : Option Nat :=
  let digits := match s.toList with
    | '+' :: rest => rest
    | cs => cs
  if digits = [] ∨ !digits.all Char.isDigit then none
  else
    let k := digitsValue digits
    if k ≤ Binary64.nat64Max then some k else none

end Pushdown
