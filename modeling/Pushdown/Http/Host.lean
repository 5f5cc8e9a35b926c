import Pushdown.Domain.Name
import Pushdown.Text.Digit

/-!
# Hosts

A host is a number of version 4 or version 6 of the internet protocol, or a domain name.
`Host.ofText?` reads one as it stands in a URL: percent signs with two digits are bytes of it,
brackets hold a number of version 6, and a name whose last label is a number is a number of
version 4, in up to four parts of base 8, 10 or 16, of which the last fills what the others leave.
-/

namespace Pushdown

namespace Http

/-- Where a connection goes. -/
inductive Host where
  | v4 (number : Nat)
  /-- Eight parts of sixteen bits. -/
  | v6 (parts : List Nat)
  | name (ascii : String)
  deriving DecidableEq, Repr, Inhabited

namespace Host

/-! ## Bytes -/

/-- The value of a digit of base sixteen. -/
def hexValue? (c : Char) : Option Nat :=
  if '0' ≤ c ∧ c ≤ '9' then some (c.toNat - '0'.toNat)
  else if 'a' ≤ c ∧ c ≤ 'f' then some (c.toNat - 'a'.toNat + 10)
  else if 'A' ≤ c ∧ c ≤ 'F' then some (c.toNat - 'A'.toNat + 10)
  else none

/-- The bytes of a text in which percent signs with two digits stand for bytes. -/
def bytesOf : List Char → List UInt8
  | '%' :: a :: b :: rest =>
    match hexValue? a, hexValue? b with
    | some high, some low => UInt8.ofNat (16 * high + low) :: bytesOf rest
    | _, _ => '%'.toUInt8 :: bytesOf (a :: b :: rest)
  | c :: rest => (String.singleton c).toUTF8.toList ++ bytesOf rest
  | [] => []

/-- The characters that bytes are, if they are UTF-8. -/
def charsOfBytes? (bytes : List UInt8) : Option (List Char) :=
  (String.fromUTF8? ⟨bytes.toArray⟩).map String.toList

/-! ## Version 4 -/

/-- The value of digits of a base. -/
def natOfBase? (base : Nat) (cs : List Char) : Option Nat :=
  cs.foldlM (fun n c => (hexValue? c).bind fun d => if d < base then some (base * n + d) else none)
    0

/-- The value of a part: base 16 after a zero and an x, base 8 after a zero, base 10 else. -/
def part? : List Char → Option Nat
  | [] => none
  | '0' :: 'x' :: digits => natOfBase? 16 digits
  | ['0'] => some 0
  | '0' :: digits => natOfBase? 8 digits
  | digits => natOfBase? 10 digits

/-- The labels of a name, without the empty one that a point at the end leaves. -/
def partsOf (name : List Char) : List (List Char) :=
  let labels := Text.splitChars '.' name
  if labels.getLast? = some [] then labels.dropLast else labels

/-- Whether a name ends in a number, so that it is one as a whole. -/
def endsInNumber (name : List Char) : Bool :=
  match (partsOf name).getLast? with
  | some label => (part? label).isSome || (!label.isEmpty && label.all Char.isDigit)
  | none => false

/-- The number that a name is. -/
def v4OfName? (name : List Char) : Option Nat := do
  let numbers ← (partsOf name).mapM part?
  let last ← numbers.getLast?
  let front := numbers.dropLast
  if front.length ≤ 3 ∧ front.all (· < 256) ∧ last < Nat.pow 256 (4 - front.length) then
    return front.foldl (fun n part => 256 * n + part) 0 * Nat.pow 256 (4 - front.length) + last
  none

/-- A number of version 4 in four parts. -/
def v4Text (number : Nat) : String :=
  ".".intercalate ([16777216, 65536, 256, 1].map fun unit => toString (number / unit % 256))

/-! ## Version 6 -/

/-- A part of sixteen bits, in one to four digits. -/
def group? (digits : List Char) : Option Nat :=
  if digits.isEmpty ∨ 4 < digits.length then none else natOfBase? 16 digits

/-- The value of a byte in base ten without leading zeros. -/
def byte? : List Char → Option Nat
  | [] => none
  | ['0'] => some 0
  | '0' :: _ => none
  | digits => (natOfBase? 10 digits).bind fun n => if n < 256 then some n else none

/-- The two parts that a number of version 4 stands for, when all of its four parts are there. -/
def groupsOfV4? (cs : List Char) : Option (List Nat) :=
  match (Text.splitChars '.' cs).mapM byte? with
  | some [a, b, c, d] => some [256 * a + b, 256 * c + d]
  | _ => none

/-- Parts between colons, the last of which may be a number of version 4. -/
def groups? : List (List Char) → Option (List Nat)
  | [] => some []
  | [last] => if last.contains '.' then groupsOfV4? last else (group? last).map ([·])
  | group :: rest => do return (← group? group) :: (← groups? rest)

/-- The parts in a text without two colons in a row. -/
def groupsOf? (cs : List Char) : Option (List Nat) :=
  if cs.isEmpty then some [] else groups? (Text.splitChars ':' cs)

/-- What stands before and after the first two colons in a row. -/
def splitGap? : List Char → Option (List Char × List Char)
  | ':' :: ':' :: rest => some ([], rest)
  | c :: rest => (splitGap? rest).map fun (before, after) => (c :: before, after)
  | [] => none

/-- The eight parts of a number of version 6. Two colons in a row stand for parts that are zero,
one at least. -/
def v6OfText? (cs : List Char) : Option (List Nat) :=
  match splitGap? cs with
  | none => (groupsOf? cs).bind fun groups => if groups.length = 8 then some groups else none
  | some (before, after) => do
    if before.contains '.' then none
    let before ← groupsOf? before
    let after ← groupsOf? after
    let count := before.length + after.length
    if count ≤ 7 then return before ++ List.replicate (8 - count) 0 ++ after
    none

/-- How many parts from the front on are zero. -/
def zerosAhead (parts : List Nat) : Nat := (parts.takeWhile (· = 0)).length

/-- The longest run of zero parts, the first of equally long ones: where it starts and how long it
is. The parts are those from a position on. -/
def longestGap (position : Nat) : List Nat → Nat × Nat
  | [] => (position, 0)
  | part :: rest =>
    let here := zerosAhead (part :: rest)
    let (start, length) := longestGap (position + 1) rest
    if length ≤ here then (position, here) else (start, length)

/-- Parts of a number of version 6 between colons. -/
def groupsText (groups : List Nat) : String :=
  ":".intercalate (groups.map fun group => String.ofList (Nat.toDigits 16 group))

/-- A number of version 6. The longest run of zero parts is left out, if there is one of two. -/
def v6Text (groups : List Nat) : String :=
  let (start, length) := longestGap 0 groups
  if length < 2 then groupsText groups
  else groupsText (groups.take start) ++ "::" ++ groupsText (groups.drop (start + length))

/-! ## Hosts -/

/-- A host as text, without the brackets it has in a URL. -/
def text : Host → String
  | .v4 number => v4Text number
  | .v6 groups => v6Text groups
  | .name ascii => ascii

/-- A host as it stands in a URL. -/
def written : Host → String
  | .v6 groups => "[" ++ v6Text groups ++ "]"
  | host => host.text

/-- The host that stands in a URL. -/
def ofText? (cs : List Char) : Option Host :=
  match cs with
  | '[' :: inner =>
    if inner.getLast? = some ']' then (v6OfText? inner.dropLast).map .v6 else none
  | _ => do
    let name ← Domain.toAscii? (← charsOfBytes? (bytesOf cs))
    if name.isEmpty then none
    if endsInNumber name then (v4OfName? name).map .v4
    else return .name (String.ofList name)

end Host

end Http

end Pushdown
