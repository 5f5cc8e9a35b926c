import Pushdown.Number.Shortest
import Pushdown.Text.Digit

/-!
# The text of a number

A number is written with its shortest digits. Which of two equally near decimals that is, where
the point stands, whether an integral number keeps a fraction, and when an exponent is used are
decisions of the language that is written, so they are the fields of a `Layout`: `Layout.json` and
`Layout.statement` are the two in use.
-/

namespace Pushdown

/-- How the digits of a number are laid out. `positional k` says whether a number whose first
digit has the weight `10 ^ k` is written without an exponent, and `integralMark` follows the
digits of an integral number that is. -/
structure Layout where
  positional : Int → Bool
  integralMark : String
  tie : Binary64.Tie

namespace Layout

/-- JSON numbers: positional from `10 ^ -5` up to `10 ^ 16`, and always told from integers. -/
def json : Layout := ⟨fun k => -5 ≤ k && k < 16, ".0", .toEven⟩

/-- Numbers in statements: always positional, and an integral number has no point. -/
def statement : Layout := ⟨fun _ => true, "", .up⟩

/-- A number of zeros. -/
def zeros (n : Nat) : String :=
  String.ofList (List.replicate n '0')

/-- The digits with the point where the exponent puts it. -/
def positionalText (mark : String) (digits : String) (exponent : Int) : String :=
  if 0 ≤ exponent then digits ++ zeros exponent.toNat ++ mark
  else
    let places := (-exponent).toNat
    let cs := digits.toList
    if places < cs.length then
      String.ofList (cs.take (cs.length - places)) ++ "."
        ++ String.ofList (cs.drop (cs.length - places))
    else "0." ++ zeros (places - cs.length) ++ digits

/-- The digits with a point after the first one, and the exponent of the first one. -/
def exponentText (digits : String) (order : Int) : String :=
  let mantissa := match digits.toList with
    | [] => ""
    | [d] => String.singleton d
    | d :: rest => String.singleton d ++ "." ++ String.ofList rest
  mantissa ++ "e" ++ (if 0 ≤ order then "+" else "-") ++ toString order.natAbs

/-- The text of a finite number's magnitude. -/
def magnitudeText (layout : Layout) (m : Nat) (e : Int) : String :=
  let d := Binary64.shortest layout.tie m e
  let digits := toString d.digits
  let order : Int := d.exponent + digits.length - 1
  if layout.positional order then positionalText layout.integralMark digits d.exponent
  else exponentText digits order

/-- The text of a number. -/
def text (layout : Layout) : Binary64 → String
  | .finite negative m e => (if negative then "-" else "") ++ layout.magnitudeText m e
  | .infinite negative => if negative then "-inf" else "inf"
  | .nan => "NaN"

end Layout

end Pushdown
