/-!
# Punycode

A label of a domain name that is not all ASCII is written in ASCII: its ASCII characters, a
hyphen, and the others in ascending order, each as the number of places and characters that are
passed over on the way to it. These numbers are written in base 36 with digits whose weights adapt
to the numbers before (`threshold`, `adapt`). `encode` and `decode?` work on what follows the mark
that such labels start with.
-/

namespace Pushdown.Domain.Punycode

/-- The digit of a value below 36. -/
def digitChar (n : Nat) : Char :=
  if n < 26 then Char.ofNat ('a'.toNat + n) else Char.ofNat ('0'.toNat + (n - 26))

/-- The value of a digit. -/
def digitValue? (c : Char) : Option Nat :=
  if 'a' ≤ c ∧ c ≤ 'z' then some (c.toNat - 'a'.toNat)
  else if '0' ≤ c ∧ c ≤ '9' then some (c.toNat - '0'.toNat + 26)
  else none

/-- A digit that is less than this ends a number. Places count in steps of 36. -/
def threshold (bias place : Nat) : Nat :=
  if place ≤ bias then 1 else if bias + 26 ≤ place then 26 else place - bias

theorem threshold_pos (bias place : Nat) : 0 < threshold bias place := by
  unfold threshold
  split
  · omega
  · split <;> omega

/-- How often a number is divided by 35 until it is small, and what remains. -/
def shrink (delta : Nat) : Nat × Nat :=
  if 455 < delta then
    let (times, rest) := shrink (delta / 35)
    (times + 1, rest)
  else (0, delta)
termination_by delta

/-- The bias after a number, given how many characters there are by then. -/
def adapt (delta count : Nat) (isFirst : Bool) : Nat :=
  let damped := if isFirst then delta / 700 else delta / 2
  let (times, rest) := shrink (damped + damped / count)
  36 * times + 36 * rest / (rest + 38)

/-! ## Reading -/

/-- Reads a number: its value, added to `value`, and what follows it. -/
def number? (bias place weight value : Nat) : List Char → Option (Nat × List Char)
  | [] => none
  | c :: rest =>
    match digitValue? c with
    | none => none
    | some digit =>
      if digit < threshold bias place then some (value + digit * weight, rest)
      else
        number? bias (place + 36) (weight * (36 - threshold bias place)) (value + digit * weight)
          rest

/-- A number is not empty. -/
theorem length_lt_of_number? {bias place weight value n : Nat} {cs rest : List Char}
    (h : number? bias place weight value cs = some (n, rest)) : rest.length < cs.length := by
  induction cs generalizing place weight value with
  | nil => cases h
  | cons c cs ih =>
    simp only [number?] at h
    split at h
    · cases h
    · split at h
      · cases h
        simp
      · have := ih h
        simp only [List.length_cons]
        omega

/-- Puts the characters that numbers stand for into a text. The one before was `code`, and the
next number counts from a position behind it. -/
def insertAll? (bias code position : Nat) (text cs : List Char) : Option (List Char) :=
  if cs.isEmpty then some text
  else
    match _h : number? bias 36 1 position cs with
    | none => none
    | some (n, rest) =>
      let count := text.length + 1
      let code := code + n / count
      if code.isValidChar then
        insertAll? (adapt (n - position) count (position == 0)) code (n % count + 1)
          (text.insertIdx (n % count) (Char.ofNat code)) rest
      else none
termination_by cs.length
decreasing_by exact length_lt_of_number? _h

/-- The label that is written as some characters. -/
def decode? (cs : List Char) : Option (List Char) :=
  let extended := (cs.reverse.takeWhile (· ≠ '-')).reverse
  let basic := cs.take (cs.length - extended.length - 1)
  if cs.any (0x80 ≤ ·.val) ∨ (basic.isEmpty ∧ cs.contains '-') then none
  else insertAll? 72 0x80 0 basic extended

/-! ## Writing -/

/-- Writes a number. -/
def writeNumber (bias place n : Nat) : List Char :=
  let t := threshold bias place
  if n < t then [digitChar n]
  else digitChar (t + (n - t) % (36 - t)) :: writeNumber bias (place + 36) ((n - t) / (36 - t))
termination_by n
decreasing_by
  have hpos := threshold_pos bias place
  have hle : (n - threshold bias place) / (36 - threshold bias place)
      ≤ n - threshold bias place := Nat.div_le_self _ _
  omega

/-- How far the writing of a label has come. -/
structure Progress where
  written : List Char
  /-- What has been passed over since the last character that was written. -/
  delta : Nat
  bias : Nat
  /-- How many characters of the label are accounted for. -/
  handled : Nat

/-- Passes over a character on the way to those of a code. -/
def Progress.pass (code basicCount : Nat) (p : Progress) (c : Char) : Progress :=
  if c.toNat < code then { p with delta := p.delta + 1 }
  else if c.toNat = code then
    { written := p.written ++ writeNumber p.bias 36 p.delta
      delta := 0
      bias := adapt p.delta (p.handled + 1) (p.handled == basicCount)
      handled := p.handled + 1 }
  else p

/-- Writes the characters of some codes in ascending order; the first code that may come is
`next`. -/
def Progress.writeCodes (cs : List Char) (basicCount : Nat) (next : Nat) (p : Progress) :
    List Nat → Progress
  | [] => p
  | code :: codes =>
    let p := { p with delta := p.delta + (code - next) * (p.handled + 1) }
    let p := cs.foldl (Progress.pass code basicCount) p
    writeCodes cs basicCount (code + 1) { p with delta := p.delta + 1 } codes

/-- A label in ASCII. -/
def encode (cs : List Char) : List Char :=
  let basic := cs.filter (·.val < 0x80)
  let codes := ((cs.filter (0x80 ≤ ·.val)).map Char.toNat).mergeSort.eraseReps
  let start : Progress := ⟨[], 0, 72, basic.length⟩
  basic ++ (if basic.isEmpty then [] else ['-'])
    ++ (start.writeCodes cs basic.length 0x80 codes).written

end Pushdown.Domain.Punycode
