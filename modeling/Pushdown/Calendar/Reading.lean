import Pushdown.Calendar.Instant
import Pushdown.Number.Numeral
import Pushdown.Text.Blank

/-!
# Reading instants

A written instant is read first in the strict internet format, in which every field has its full
width and an offset is required, and then by lenient patterns. A `Pattern` is a list of `Field`s:
a number field skips blanks and may be shorter than its width, a blank field skips any blanks or
none, the fraction is optional and keeps nine digits, and an offset may leave out its minutes. A
text without an offset is universal time. `Instant.ofText?` tries them in order.
-/

namespace Pushdown

namespace Calendar

/-- What has been read of a written instant. Fields that were not written are zero; the offset is
in seconds east of universal time. -/
structure Reading where
  year : Int
  month : Nat
  day : Nat
  hour : Nat
  minute : Nat
  second : Nat
  nanos : Nat
  offset : Int
  deriving Repr, DecidableEq

namespace Reading

/-- Nothing read yet. -/
def empty : Reading := ⟨0, 0, 0, 0, 0, 0, 0, 0⟩

/-- The date that was read, if it exists. -/
def date? (r : Reading) : Option Date :=
  let d : Date := ⟨r.year, r.month, r.day⟩
  if d.isValid then some d else none

/-- The instant that was read: the date exists, the time is on the clock, a sixtieth second is a
leap second, and the offset is less than a day. -/
def instant? (r : Reading) : Option Instant := do
  let d ← r.date?
  if r.hour ≤ 23 ∧ r.minute ≤ 59 ∧ r.second ≤ 60 ∧ -86400 < r.offset ∧ r.offset < 86400 then
    let (second, leap) := if r.second = 60 then (59, Instant.billion) else (r.second, 0)
    Instant.shiftBack? r.offset
      ⟨d.toDays, r.hour * 3600 + r.minute * 60 + second, r.nanos + leap⟩
  else none

end Reading

open Text

/-- Digits at the start of a text, at least `least` and no more than `most` of them. -/
def takeNumber? (least most : Nat) (cs : List Char) : Option (Nat × List Char) :=
  let digits := (cs.takeWhile Char.isDigit).take most
  if digits.length < least then none
  else some (digitsValue digits, cs.drop digits.length)

/-- The digits after the point as nanoseconds: at least one, and the tenth and later ones are
dropped. -/
def takeNanos? (cs : List Char) : Option (Nat × List Char) :=
  let (digits, rest) := spanDigits cs
  if digits = [] then none
  else
    let kept := digits.take 9
    some (digitsValue kept * Nat.pow 10 (9 - kept.length), rest)

/-- The optional fraction of a second. -/
def takeFraction? : List Char → Option (Nat × List Char)
  | '.' :: rest => takeNanos? rest
  | rest => some (0, rest)

/-- A fixed character. -/
def takeChar? (c : Char) : List Char → Option (List Char)
  | d :: rest => if d = c then some rest else none
  | [] => none

/-- The sign of an offset; the minus may be the mathematical one. -/
def takeOffsetSign? : List Char → Option (Bool × List Char)
  | '+' :: rest => some (false, rest)
  | '-' :: rest => some (true, rest)
  | c :: rest => if c.val = 0x2212 then some (true, rest) else none
  | [] => none

/-- Two digits below sixty. -/
def takeMinutes? (cs : List Char) : Option (Nat × List Char) := do
  let (n, rest) ← takeNumber? 2 2 cs
  if n < 60 then some (n, rest) else none

/-- An offset in seconds: `Z`, or a sign, two digits of hours and two of minutes. The strict form
has a colon between them; the lenient form allows any colons and blanks there, and may end after
the hours. -/
def takeOffset? (strict : Bool) : List Char → Option (Int × List Char)
  | [] => none
  | c :: rest =>
    if c = 'Z' ∨ c = 'z' then some (0, rest)
    else do
      let (negative, cs) ← takeOffsetSign? (c :: rest)
      let (hours, cs) ← takeNumber? 2 2 cs
      let cs ← if strict then takeChar? ':' cs
        else some (cs.dropWhile fun c => c = ':' || isBlank c)
      let (minutes, cs) ← if !strict && cs.isEmpty then some (0, cs) else takeMinutes? cs
      let seconds : Int := hours * 3600 + minutes * 60
      return (if negative then -seconds else seconds, cs)

/-- The strict internet format. -/
def strict? (cs : List Char) : Option Instant := do
  let (year, cs) ← takeNumber? 4 4 cs
  let cs ← takeChar? '-' cs
  let (month, cs) ← takeNumber? 2 2 cs
  let cs ← takeChar? '-' cs
  let (day, cs) ← takeNumber? 2 2 cs
  let cs ← match cs with
    | c :: cs => if c = 't' ∨ c = 'T' ∨ c = ' ' then some cs else none
    | [] => none
  let (hour, cs) ← takeNumber? 2 2 cs
  let cs ← takeChar? ':' cs
  let (minute, cs) ← takeNumber? 2 2 cs
  let cs ← takeChar? ':' cs
  let (second, cs) ← takeNumber? 2 2 cs
  let (nanos, cs) ← takeFraction? cs
  let (offset, cs) ← takeOffset? true cs
  if cs.isEmpty then Reading.instant? ⟨year, month, day, hour, minute, second, nanos, offset⟩
  else none

/-- One field of a lenient pattern. -/
inductive Field where
  | year
  | month
  | day
  | hour
  | minute
  | second
  | fraction
  | offset
  | blanks
  | mark (c : Char)
  deriving DecidableEq, Repr

/-- A lenient pattern. -/
abbrev Pattern := List Field

/-- A year: with a sign, as many digits as there are; without one, at most four. -/
def takeYear? (cs : List Char) : Option (Int × List Char) :=
  match trimStartChars cs with
  | '-' :: rest => (takeNumber? 1 rest.length rest).map fun (n, rest) => (-(n : Int), rest)
  | '+' :: rest => (takeNumber? 1 rest.length rest).map fun (n, rest) => ((n : Int), rest)
  | cs => (takeNumber? 1 4 cs).map fun (n, rest) => ((n : Int), rest)

/-- A field of at most two digits, after blanks. -/
def takeShort? (cs : List Char) : Option (Nat × List Char) :=
  takeNumber? 1 2 (trimStartChars cs)

/-- Reads one field. -/
def Field.read? (r : Reading) (cs : List Char) : Field → Option (Reading × List Char)
  | .year => (takeYear? cs).map fun (n, cs) => ({ r with year := n }, cs)
  | .month => (takeShort? cs).map fun (n, cs) => ({ r with month := n }, cs)
  | .day => (takeShort? cs).map fun (n, cs) => ({ r with day := n }, cs)
  | .hour => (takeShort? cs).map fun (n, cs) => ({ r with hour := n }, cs)
  | .minute => (takeShort? cs).map fun (n, cs) => ({ r with minute := n }, cs)
  | .second => (takeShort? cs).map fun (n, cs) => ({ r with second := n }, cs)
  | .fraction => (takeFraction? cs).map fun (n, cs) => ({ r with nanos := n }, cs)
  | .offset =>
    (takeOffset? false (trimStartChars cs)).map fun (n, cs) => ({ r with offset := n }, cs)
  | .blanks => some (r, trimStartChars cs)
  | .mark c => (takeChar? c cs).map fun cs => (r, cs)

/-- Reads a whole text by a pattern. -/
def Pattern.read? (r : Reading) : Pattern → List Char → Option Reading
  | [], cs => if cs.isEmpty then some r else none
  | field :: rest, cs =>
    match field.read? r cs with
    | some (r, cs) => Pattern.read? r rest cs
    | none => none

/-- `year-month-day`. -/
def datePattern : Pattern := [.year, .mark '-', .month, .mark '-', .day]

/-- `hour:minute`. -/
def minutePattern : Pattern := [.hour, .mark ':', .minute]

/-- `hour:minute:second` and the fraction. -/
def timePattern : Pattern := minutePattern ++ [.mark ':', .second, .fraction]

/-- The lenient patterns, in the order in which they are tried. -/
def patterns : List Pattern :=
  [ datePattern ++ [.blanks] ++ timePattern ++ [.offset],
    datePattern ++ [.mark 'T'] ++ timePattern ++ [.offset],
    datePattern ++ [.blanks] ++ timePattern,
    datePattern ++ [.mark 'T'] ++ timePattern,
    datePattern ++ [.blanks] ++ minutePattern,
    datePattern ]

end Calendar

open Calendar in
/-- The instant a text denotes, blanks around it left aside. -/
def Instant.ofText? (s : String) : Option Instant :=
  let cs := Text.trimChars s.toList
  (strict? cs).orElse fun _ =>
    patterns.findSome? fun p => (p.read? .empty cs).bind Reading.instant?

end Pushdown
