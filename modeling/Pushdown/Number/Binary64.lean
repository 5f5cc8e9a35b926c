/-!
# Binary64 numbers

Filter values and document numbers that are not integers are IEEE 754 double-precision numbers.
A finite one is kept as what it is, `± significand * 2 ^ exponent`, so that comparison, sums and
the conversion to and from integers are exact arithmetic on integers. `ofRatio` is the one place
where a value is rounded: to the nearest number, a tie to the even significand.

`WellFormed` is the representation's invariant: the significand has 53 bits unless the exponent
is the least one.
-/

namespace Pushdown

/-- A double-precision number. Zero has a sign. -/
inductive Binary64 where
  | finite (negative : Bool) (significand : Nat) (exponent : Int)
  | infinite (negative : Bool)
  | nan
  deriving DecidableEq, Repr, Inhabited

namespace Binary64

/-- The exponent of the subnormal numbers and of the smallest normal ones. -/
def minExponent : Int := -1074

/-- The greatest exponent a finite number has. -/
def maxExponent : Int := 971

/-- The least significand of a normal number, the fifty-second power of two. A significand is less
than twice as much. -/
def halfSignificand : Nat := 4503599627370496

/-- What every number made by this module satisfies. -/
def WellFormed : Binary64 → Prop
  | .finite _ m e =>
    m < 2 * halfSignificand ∧ minExponent ≤ e ∧ e ≤ maxExponent
      ∧ (halfSignificand ≤ m ∨ e = minExponent)
  | _ => True

/-- Positive zero. -/
def zero : Binary64 := .finite false 0 minExponent

/-- Whether the number is neither infinite nor not a number. -/
def isFinite : Binary64 → Bool
  | .finite .. => true
  | _ => false

/-- The same number with the other sign. -/
def neg : Binary64 → Binary64
  | .finite n m e => .finite (!n) m e
  | .infinite n => .infinite (!n)
  | .nan => .nan

/-- The quotient rounded to the nearest integer, a tie to the even one. -/
def roundHalfEven (num den : Nat) : Nat :=
  let q := num / den
  let r := num % den
  if 2 * r < den then q
  else if den < 2 * r then q + 1
  else if q % 2 = 0 then q else q + 1

/-- `num * 2 ^ up / den` or `num / (den * 2 ^ -up)`, as numerator and denominator. -/
def scaled (num den : Nat) (up : Int) : Nat × Nat :=
  if 0 ≤ up then (num * Nat.pow 2 up.toNat, den) else (num, den * Nat.pow 2 (-up).toNat)

/-- The binary order of magnitude of `num / den`: the greatest `k` with `2 ^ k ≤ num / den`. -/
def magnitude (num den : Nat) : Int :=
  let guess : Int := num.log2 - den.log2
  let (a, b) := scaled num den (-guess)
  if b ≤ a then guess else guess - 1

/-- The number nearest to `num / den`, of two equally near ones the one with the even
significand; beyond the greatest finite number, infinity. -/
def ofRatio (negative : Bool) (num den : Nat) : Binary64 :=
  if num = 0 then .finite negative 0 minExponent
  else
    let e := max (magnitude num den - 52) minExponent
    let (a, b) := scaled num den (-e)
    let m := roundHalfEven a b
    let (m, e) := if m = 2 * halfSignificand then (halfSignificand, e + 1) else (m, e)
    if maxExponent < e then .infinite negative else .finite negative m e

/-- `m * 2 ^ e`, rounded. -/
def ofDyadic (negative : Bool) (m : Nat) (e : Int) : Binary64 :=
  let (a, b) := scaled m 1 e
  ofRatio negative a b

/-- The number nearest to an integer. -/
def ofInt (k : Int) : Binary64 :=
  ofRatio (k < 0) k.natAbs 1

/-- The signed significand of a finite number after its exponent was lowered to `e`. -/
def alignedTo (e : Int) : Bool → Nat → Int → Int
  | negative, m, e' =>
    let k : Int := (m * Nat.pow 2 (e' - e).toNat : Nat)
    if negative then -k else k

/-- The rounded sum. Exact cancellation gives positive zero; two negative zeros give one. -/
def add : Binary64 → Binary64 → Binary64
  | .nan, _ | _, .nan => .nan
  | .infinite a, .infinite b => if a = b then .infinite a else .nan
  | .infinite a, .finite .. => .infinite a
  | .finite .., .infinite b => .infinite b
  | .finite n₁ m₁ e₁, .finite n₂ m₂ e₂ =>
    let e := min e₁ e₂
    let s := alignedTo e n₁ m₁ e₁ + alignedTo e n₂ m₂ e₂
    if s = 0 then .finite (n₁ && n₂) 0 minExponent
    else ofDyadic (s < 0) s.natAbs e

/-- The rounded difference. -/
def sub (x y : Binary64) : Binary64 :=
  x.add y.neg

/-- Whether the number is an integer. -/
def isIntegral : Binary64 → Bool
  | .finite _ m e => 0 ≤ e || m % Nat.pow 2 (-e).toNat == 0
  | _ => false

/-- The integer part of a finite number's magnitude. -/
def floorAbs (m : Nat) (e : Int) : Nat :=
  if 0 ≤ e then m * Nat.pow 2 e.toNat else m / Nat.pow 2 (-e).toNat

/-- The number without its fraction; zero for what is not finite. -/
def truncate : Binary64 → Int
  | .finite negative m e => if negative then -(floorAbs m e : Int) else floorAbs m e
  | _ => 0

/-- The nearest integer of a finite number's magnitude, a tie going up. -/
def roundAbs (m : Nat) (e : Int) : Nat :=
  if 0 ≤ e then m * Nat.pow 2 e.toNat
  else (2 * m + Nat.pow 2 (-e).toNat) / (2 * Nat.pow 2 (-e).toNat)

/-- The least and the greatest 64-bit signed integer. -/
def int64Min : Int := -9223372036854775808

/-- See `int64Min`. -/
def int64Max : Int := 9223372036854775807

/-- The greatest 64-bit unsigned integer. -/
def nat64Max : Nat := 18446744073709551615

/-- The nearest integer, a tie going away from zero, held to the signed 64-bit range; not a
number gives zero. -/
def roundToInt64 : Binary64 → Int
  | .finite negative m e =>
    let k : Int := roundAbs m e
    max int64Min (min int64Max (if negative then -k else k))
  | .infinite negative => if negative then int64Min else int64Max
  | .nan => 0

/-- Whether a finite number's magnitude is below the integer `bound`. -/
def absBelow (bound : Nat) : Binary64 → Bool
  | .finite _ m e =>
    if 0 ≤ e then m * Nat.pow 2 e.toNat < bound else m < bound * Nat.pow 2 (-e).toNat
  | _ => false

/-- The order of the values of finite numbers; both zeros are one value. -/
def finiteLe (n₁ : Bool) (m₁ : Nat) (e₁ : Int) (n₂ : Bool) (m₂ : Nat) (e₂ : Int) : Bool :=
  let e := min e₁ e₂
  alignedTo e n₁ m₁ e₁ ≤ alignedTo e n₂ m₂ e₂

/-- Whether the first number is at most the second; never so for what is not a number. -/
def le : Binary64 → Binary64 → Bool
  | .nan, _ | _, .nan => false
  | .infinite a, .infinite b => a || !b
  | .infinite a, .finite .. => a
  | .finite .., .infinite b => !b
  | .finite n₁ m₁ e₁, .finite n₂ m₂ e₂ => finiteLe n₁ m₁ e₁ n₂ m₂ e₂

end Binary64

end Pushdown
