import Pushdown.Number.Binary64

/-!
# The shortest decimal of a number

Of all decimals that read back as a given binary64 number, its text uses one with the fewest
digits, and of those the nearest; a `Tie` says which of two equally near ones is taken. A decimal
reads back as the number when it lies in the interval half way to both neighbours, ends included
when the significand is even. `shortest` tries one to seventeen digits and takes the first length
at which one of the value's two neighbours on that decimal grid lies in the interval.

Lengths and places are computed on exact fractions: a value is `num / den`.
-/

namespace Pushdown

namespace Binary64

/-- `digits * 10 ^ exponent`, the digits without trailing zeros. -/
structure Decimal where
  digits : Nat
  exponent : Int
  deriving DecidableEq, Repr

/-- Which of two equally near decimals is taken. -/
inductive Tie where
  /-- The one with an even last digit. -/
  | toEven
  /-- The greater one. -/
  | up
  deriving DecidableEq, Repr

/-- Whether the smaller of two equally near decimals is taken, given its digits. -/
def Tie.takesLower (tie : Tie) (digits : Nat) : Bool :=
  match tie with
  | .toEven => digits % 2 == 0
  | .up => false

namespace Decimal

/-- Zeros at the end of the digits moved into the exponent, at most `fuel` of them. -/
def strip : Nat → Decimal → Decimal
  | 0, d => d
  | fuel + 1, d =>
    if d.digits ≠ 0 ∧ d.digits % 10 = 0 then strip fuel ⟨d.digits / 10, d.exponent + 1⟩ else d

end Decimal

/-- The interval of values that read back as `m * 2 ^ e`, with the value itself, all over one
denominator: `(low, value, high, den)`. The neighbour below is half as far when the significand
is the least one of its exponent. -/
def readBackInterval (m : Nat) (e : Int) : Nat × Nat × Nat × Nat :=
  let below := if m = halfSignificand ∧ minExponent < e then 1 else 2
  let (value, den) := scaled (4 * m) 4 e
  let (unit, _) := scaled 1 4 e
  (value - below * unit, value, value + 2 * unit, den)

/-- The greatest `k` with `10 ^ k ≤ num / den`, found by search from an estimate. -/
def decimalMagnitude (num den : Nat) : Int :=
  let guess : Int := (magnitude num den * 30103) / 100000
  let reaches (k : Int) : Bool :=
    if 0 ≤ k then den * Nat.pow 10 k.toNat ≤ num else den ≤ num * Nat.pow 10 (-k).toNat
  if reaches (guess + 1) then guess + 1
  else if reaches guess then guess
  else guess - 1

/-- The multiples of `10 ^ place` next to `num / den`, from below and from above, with the
denominator of the comparison: `(floor, scaledNum, scaledDen)`. -/
def gridFloor (num den : Nat) (place : Int) : Nat × Nat × Nat :=
  if 0 ≤ place then
    let d := den * Nat.pow 10 place.toNat
    (num / d, num, d)
  else
    let n := num * Nat.pow 10 (-place).toNat
    (n / den, n, den)

/-- The decimal with its last digit at `place` that reads back and is nearest, if one does. -/
def candidate (tie : Tie) (low value high den : Nat) (closed : Bool) (place : Int) :
    Option Decimal :=
  let (floor, num, d) := gridFloor value den place
  let up := if 0 ≤ place then 1 else Nat.pow 10 (-place).toNat
  let inside (k : Nat) : Bool :=
    if closed then low * up ≤ k * d && k * d ≤ high * up
    else low * up < k * d && k * d < high * up
  let downOk := inside floor
  let upOk := inside (floor + 1)
  let distDown := num - floor * d
  let distUp := (floor + 1) * d - num
  if downOk && (!upOk || distDown < distUp || (distDown == distUp && tie.takesLower floor)) then
    some ⟨floor, place⟩
  else if upOk then some ⟨floor + 1, place⟩
  else none

/-- The first candidate among the lengths `17 - fuel + 1, …, 17`, the full length last. -/
def search (tie : Tie) (low value high den : Nat) (closed : Bool) (top : Int) : Nat → Decimal
  | 0 => ⟨(gridFloor value den (top - 16)).1, top - 16⟩
  | fuel + 1 =>
    match candidate tie low value high den closed (top - (16 - fuel : Nat)) with
    | some d => d
    | none => search tie low value high den closed top fuel

/-- The shortest decimal that reads back as `m * 2 ^ e`; zero for zero. -/
def shortest (tie : Tie) (m : Nat) (e : Int) : Decimal :=
  if m = 0 then ⟨0, 0⟩
  else
    let (low, value, high, den) := readBackInterval m e
    (search tie low value high den (m % 2 = 0) (decimalMagnitude value den) 17).strip 20

end Binary64

end Pushdown
