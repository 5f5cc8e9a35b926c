import Pushdown.Json.Basic
import Pushdown.Number.Numeral

/-!
# Reading JSON

Reading has two stages. `Json.Source` is the grammar tree of a text: its objects hold every member
in the order given, and a part that keeps to the grammar but that no reader accepts stands in it
as `unreadable`: a number out of range, a string that is no text, a container nested too deeply.
What a reader makes of the tree is decided afterwards. `Source.value?` is the plain value, in
which the last of two equal names counts. A reader of records (`Pushdown.Request.Record`) looks
at the tree instead, so that it can refuse a member given twice and skip one that it does not
know, whatever that holds.
-/

namespace Pushdown.Json

/-- The grammar tree of a JSON text. A member whose name is no text has none. -/
inductive Source where
  | null
  | bool (b : Bool)
  | int (k : Int)
  | float (x : Binary64)
  | text (s : String)
  | list (items : List Source)
  | object (members : List (Option String × Source))
  | unreadable
  deriving Inhabited

/-- The byte of an ASCII character. -/
def byte (c : Char) : UInt8 := c.val.toUInt8

/-- The blanks between tokens. -/
def isGap (b : UInt8) : Bool :=
  b == 0x20 || b == 0x0A || b == 0x0D || b == 0x09

/-- The rest of a text after its blanks. -/
def skipGap (bs : List UInt8) : List UInt8 :=
  bs.dropWhile isGap

/-- Whether a byte is an ASCII digit. -/
def isDigitByte (b : UInt8) : Bool := 0x30 ≤ b && b ≤ 0x39

/-- The value of a digit of base sixteen. -/
def hexValue? (b : UInt8) : Option Nat :=
  if 0x30 ≤ b ∧ b ≤ 0x39 then some (b.toNat - 0x30)
  else if 0x41 ≤ b ∧ b ≤ 0x46 then some (b.toNat - 0x41 + 10)
  else if 0x61 ≤ b ∧ b ≤ 0x66 then some (b.toNat - 0x61 + 10)
  else none

/-- The value of four digits of base sixteen. -/
def hex4? (a b c d : UInt8) : Option Nat := do
  let a ← hexValue? a
  let b ← hexValue? b
  let c ← hexValue? c
  let d ← hexValue? d
  return ((a * 16 + b) * 16 + c) * 16 + d

/-! ## Tokens -/

/-- The written string up to its closing quote, and what follows it. Controls must not stand in a
string, and a backslash starts one of the nine escapes. -/
def scanString : List UInt8 → Option (List UInt8 × List UInt8)
  | [] => none
  | 0x22 :: rest => some ([], rest)
  | 0x5C :: 0x75 :: a :: b :: c :: d :: rest => do
    let _ ← hex4? a b c d
    let (s, rest) ← scanString rest
    return (0x5C :: 0x75 :: a :: b :: c :: d :: s, rest)
  | 0x5C :: e :: rest =>
    if e == 0x22 || e == 0x5C || e == 0x2F || e == 0x62 || e == 0x66 || e == 0x6E || e == 0x72
        || e == 0x74 then do
      let (s, rest) ← scanString rest
      return (0x5C :: e :: s, rest)
    else none
  | b :: rest =>
    if b < 0x20 || b == 0x5C then none
    else do
      let (s, rest) ← scanString rest
      return (b :: s, rest)

/-- One digit at least. -/
def scanDigits (bs : List UInt8) : Option (List UInt8 × List UInt8) :=
  match bs.takeWhile isDigitByte with
  | [] => none
  | digits => some (digits, bs.dropWhile isDigitByte)

/-- The digits before the point: a zero stands alone. -/
def scanWhole : List UInt8 → Option (List UInt8 × List UInt8)
  | 0x30 :: rest =>
    match rest with
    | b :: _ => if isDigitByte b then none else some ([0x30], rest)
    | [] => some ([0x30], rest)
  | bs => scanDigits bs

/-- The point and the digits after it, if there is one. -/
def scanFraction : List UInt8 → Option (List UInt8 × List UInt8)
  | 0x2E :: rest => do
    let (digits, rest) ← scanDigits rest
    return (0x2E :: digits, rest)
  | bs => some ([], bs)

/-- The exponent, if there is one. -/
def scanExponent : List UInt8 → Option (List UInt8 × List UInt8)
  | e :: rest =>
    if e == 0x65 || e == 0x45 then
      match rest with
      | s :: rest' =>
        if s == 0x2B || s == 0x2D then do
          let (digits, rest) ← scanDigits rest'
          return (e :: s :: digits, rest)
        else do
          let (digits, rest) ← scanDigits rest
          return (e :: digits, rest)
      | [] => none
    else some ([], e :: rest)
  | [] => some ([], [])

/-- A number token. -/
def scanNumber (bs : List UInt8) : Option (List UInt8 × List UInt8) := do
  let (sign, bs) : List UInt8 × List UInt8 := match bs with
    | 0x2D :: rest => ([0x2D], rest)
    | bs => ([], bs)
  let (whole, bs) ← scanWhole bs
  let (fraction, bs) ← scanFraction bs
  let (exponent, bs) ← scanExponent bs
  return (sign ++ whole ++ fraction ++ exponent, bs)

/-- The rest of a text after a fixed word. -/
def scanWord (word : String) (bs : List UInt8) : Option (List UInt8) :=
  let w := word.toUTF8.toList
  if w.isPrefixOf bs then some (bs.drop w.length) else none

/-! ## What tokens stand for -/

/-- The UTF-8 bytes of a character. -/
def utf8 (c : Char) : List UInt8 :=
  (String.singleton c).toUTF8.toList

/-- The bytes a written string stands for: escapes replaced. A low surrogate must follow a high
one, and none may stand alone. -/
def unescape : List UInt8 → Option (List UInt8)
  | [] => some []
  | 0x5C :: 0x75 :: a :: b :: c :: d :: rest => do
    let hi ← hex4? a b c d
    if 0xD800 ≤ hi ∧ hi ≤ 0xDBFF then
      match rest with
      | 0x5C :: 0x75 :: a :: b :: c :: d :: rest => do
        let lo ← hex4? a b c d
        if 0xDC00 ≤ lo ∧ lo ≤ 0xDFFF then
          let tail ← unescape rest
          return utf8 (Char.ofNat (0x10000 + (hi - 0xD800) * 0x400 + (lo - 0xDC00))) ++ tail
        else none
      | _ => none
    else if 0xDC00 ≤ hi ∧ hi ≤ 0xDFFF then none
    else
      let tail ← unescape rest
      return utf8 (Char.ofNat hi) ++ tail
  | 0x5C :: e :: rest => do
    let tail ← unescape rest
    if e == 0x62 then return 0x08 :: tail
    else if e == 0x66 then return 0x0C :: tail
    else if e == 0x6E then return 0x0A :: tail
    else if e == 0x72 then return 0x0D :: tail
    else if e == 0x74 then return 0x09 :: tail
    else return e :: tail
  | b :: rest => do
    let tail ← unescape rest
    return b :: tail

/-- The text a written string stands for. -/
def textOf? (written : List UInt8) : Option String := do
  let bytes ← unescape written
  String.fromUTF8? ⟨bytes.toArray⟩

/-- The characters of a number token, which is ASCII. -/
def asciiChars (bs : List UInt8) : List Char :=
  bs.map fun b => Char.ofNat b.toNat

/-- Whether a number, with a sign or without, is within the 64-bit range, signed or unsigned. -/
def isInt64Sized (negative : Bool) (n : Nat) : Bool :=
  if negative then Binary64.int64Min ≤ -(n : Int) else n ≤ Binary64.nat64Max

/-- What a number token stands for. A token of digits alone is an integer when it is within the
64-bit range, signed or unsigned; minus zero and every other token is a binary64 number, which
must be finite. -/
def numberOf (written : List UInt8) : Source :=
  let (negative, body) := Text.takeSign (asciiChars written)
  let (whole, rest) := Text.spanDigits body
  let n := Text.digitsValue whole
  if rest.isEmpty ∧ ¬ (negative ∧ n = 0) ∧ isInt64Sized negative n then
    .int (if negative then -(n : Int) else n)
  else
    let (fraction, rest) := match rest with
      | '.' :: rest => Text.spanDigits rest
      | rest => ([], rest)
    match Text.exponentPart? rest with
    | none => .unreadable
    | some e =>
      let x := Binary64.ofDecimal negative (Text.digitsValue (whole ++ fraction))
        (e - fraction.length)
      if x.isFinite then .float x else .unreadable

/-- What a written string stands for. -/
def stringOf (written : List UInt8) : Source :=
  match textOf? written with
  | some s => .text s
  | none => .unreadable

/-! ## The tree -/

mutual

/-- A value at the start of a text, and what follows it. Containers may be nested `levels` deep;
one that stands deeper is read over. Every step takes one unit of fuel. -/
def scanValue : Nat → Nat → List UInt8 → Option (Source × List UInt8)
  | 0, _, _ => none
  | fuel + 1, levels, bs =>
    match skipGap bs with
    | [] => none
    | 0x22 :: rest => (scanString rest).map fun (s, rest) => (stringOf s, rest)
    | 0x5B :: rest =>
      match skipGap rest with
      | 0x5D :: rest => some (if levels = 0 then .unreadable else .list [], rest)
      | rest => (scanItems fuel (levels - 1) rest).map fun (items, rest) =>
        (if levels = 0 then .unreadable else .list items, rest)
    | 0x7B :: rest =>
      match skipGap rest with
      | 0x7D :: rest => some (if levels = 0 then .unreadable else .object [], rest)
      | rest => (scanMembers fuel (levels - 1) rest).map fun (members, rest) =>
        (if levels = 0 then .unreadable else .object members, rest)
    | b :: rest =>
      if b == 0x6E then (scanWord "null" (b :: rest)).map fun rest => (.null, rest)
      else if b == 0x74 then (scanWord "true" (b :: rest)).map fun rest => (.bool true, rest)
      else if b == 0x66 then (scanWord "false" (b :: rest)).map fun rest => (.bool false, rest)
      else (scanNumber (b :: rest)).map fun (n, rest) => (numberOf n, rest)

/-- The items of a list, up to its closing bracket. -/
def scanItems : Nat → Nat → List UInt8 → Option (List Source × List UInt8)
  | 0, _, _ => none
  | fuel + 1, levels, bs => do
    let (item, rest) ← scanValue fuel levels bs
    match skipGap rest with
    | 0x5D :: rest => return ([item], rest)
    | 0x2C :: rest =>
      let (items, rest) ← scanItems fuel levels rest
      return (item :: items, rest)
    | _ => none

/-- The members of an object, up to its closing brace. -/
def scanMembers : Nat → Nat → List UInt8 →
    Option (List (Option String × Source) × List UInt8)
  | 0, _, _ => none
  | fuel + 1, levels, bs =>
    match skipGap bs with
    | 0x22 :: rest => do
      let (name, rest) ← scanString rest
      match skipGap rest with
      | 0x3A :: rest =>
        let (value, rest) ← scanValue fuel levels rest
        match skipGap rest with
        | 0x7D :: rest => return ([(textOf? name, value)], rest)
        | 0x2C :: rest =>
          let (members, rest) ← scanMembers fuel levels rest
          return ((textOf? name, value) :: members, rest)
        | _ => none
      | _ => none
    | _ => none

end

/-- How deeply containers may be nested. -/
def maxLevels : Nat := 127

/-- The tree of a text that holds one value and nothing else, its containers nested `levels`
deep at most. -/
def Source.ofBytesWithin? (levels : Nat) (bs : List UInt8) : Option Source :=
  match scanValue (2 * bs.length + 2) levels bs with
  | some (source, rest) => if (skipGap rest).isEmpty then some source else none
  | none => none

/-- The tree of a text that holds one value and nothing else. -/
def Source.ofBytes? (bs : List UInt8) : Option Source :=
  Source.ofBytesWithin? maxLevels bs

/-! ## What a tree stands for -/

namespace Source

mutual

/-- The value of a tree. -/
def value? : Source → Option Json
  | .null => some .null
  | .bool b => some (.bool b)
  | .int k => some (.int k)
  | .float x => some (.float x)
  | .text s => some (.text s)
  | .list items => (values? items).map .list
  | .object members => (memberValues? members).map ofMembers
  | .unreadable => none

/-- The values of items. -/
def values? : List Source → Option (List Json)
  | [] => some []
  | s :: rest => do
    let j ← value? s
    let js ← values? rest
    return j :: js

/-- The values of members, in the order given. -/
def memberValues? : List (Option String × Source) → Option Members
  | [] => some []
  | (name, s) :: rest => do
    let name ← name
    let j ← value? s
    let js ← memberValues? rest
    return (name, j) :: js

end

end Source

/-- The value a text stands for. -/
def ofBytes? (bs : List UInt8) : Option Json :=
  (Source.ofBytes? bs).bind Source.value?

/-- The value a text stands for. -/
def ofText? (s : String) : Option Json :=
  ofBytes? s.toUTF8.toList

end Pushdown.Json
