import Pushdown.Domain.CharTable
import Pushdown.Domain.Composition
import Pushdown.Domain.KindTable
import Pushdown.Domain.Punycode
import Pushdown.Text.Lower
import Pushdown.Text.Split

/-!
# Labels of domain names

What a character of a domain name stands for (`image?`), and what a label may look like once all
characters stand for themselves: it does not start with a mark, a joiner stands only where it
changes the form of the letters around it (`joinersFit`), and in a name with text that runs from
right to left every label runs one way (`runsOneWay`). A label in ASCII that stands for another
one (`ofAce?`) is held to the same rules.
-/

namespace Pushdown.Domain

open Text (inRanges)

/-! ## Characters -/

/-- Whether a character of ASCII may not stand in a domain name. -/
def isDenied (c : Char) : Bool :=
  c.val ≤ 0x20 || c.val = 0x7F || "\x22#%/:<>?@[\\]^\x60\x7b|\x7d".toList.contains c

/-- The characters of ASCII that a character outside ASCII is written with. -/
def asciiImage? (c : Char) : Option (List Char) :=
  match asciiRanges.find? fun r => r.1 ≤ c.toNat && c.toNat ≤ r.2.1 with
  | some (first, _, image) => some [Char.ofNat (image.toNat + (c.toNat - first))]
  | none =>
    asciiTexts.findSome? fun (first, images) =>
      if first ≤ c.toNat then (Text.split ' ' images)[c.toNat - first]?.map String.toList
      else none

/-- A character in lower case, except that the capital letters of Cherokee are the usual ones. -/
def lowered (c : Char) : List Char :=
  if 0x13A0 ≤ c.val ∧ c.val ≤ 0x13F5 then [c] else Text.lowerChar c

/-- What a character stands for in a domain name, if it may stand in one. -/
def image? (c : Char) : Option (List Char) :=
  if c.val < 0x80 then if isDenied c then none else some (lowered c)
  else
    match asciiImage? c with
    | some image => some image
    | none =>
      if inRanges c.toNat excludedRanges then none
      else if inRanges c.toNat ignoredRanges then some []
      else some (lowered c)

/-- Whether a character stands for itself. -/
def isSettled (c : Char) : Bool :=
  image? c == some [c] && !inRanges c.toNat replacedRanges

/-- Whether a character is put on the letter before it. -/
def isNonspacing (c : Char) : Bool := inRanges c.toNat nonspacingRanges

/-- Whether a character belongs to the letter before it. -/
def isMark (c : Char) : Bool := isNonspacing c || inRanges c.toNat spacingRanges

/-! ## Joiners -/

/-- Whether a letter joins the one after it. -/
def joinsNext (c : Char) : Bool :=
  inRanges c.toNat joinsBothRanges || inRanges c.toNat joinsNextRanges

/-- Whether a letter joins the one before it. -/
def joinsPrevious (c : Char) : Bool :=
  inRanges c.toNat joinsBothRanges || inRanges c.toNat joinsPreviousRanges

/-- Whether the nearest letter, marks not counted, has a property. -/
def nearestLetter (p : Char → Bool) (cs : List Char) : Bool :=
  ((cs.dropWhile isNonspacing).head?.map p).getD false

/-- Whether every joiner stands in its place: right after a sign that takes the vowel from a
consonant or, for the one that keeps letters apart, between letters that would join. `before` is
read backwards. -/
def joinersFitAfter (before : List Char) : List Char → Bool
  | [] => true
  | c :: rest =>
    let afterVirama := (before.head?.map fun b => inRanges b.toNat viramaRanges).getD false
    (if c.val = 0x200C then
        afterVirama || nearestLetter joinsNext before && nearestLetter joinsPrevious rest
      else c.val ≠ 0x200D || afterVirama)
      && joinersFitAfter (c :: before) rest

/-- Whether every joiner stands in its place. -/
def joinersFit (label : List Char) : Bool := joinersFitAfter [] label

/-! ## Directions -/

/-- How a character runs. -/
inductive Direction where
  | leftToRight
  | rightToLeft
  /-- A digit of ASCII, or one that is read like it. -/
  | number
  | arabicNumber
  | neutral
  /-- Whatever the letter before it does. -/
  | nonspacing
  deriving DecidableEq, Repr, Inhabited

/-- How a character runs. -/
def directionOf (c : Char) : Direction :=
  if c.val < 0x80 then
    if c.isAlpha then .leftToRight else if c.isDigit then .number else .neutral
  else if isNonspacing c then .nonspacing
  else if inRanges c.toNat rightToLeftRanges then .rightToLeft
  else if inRanges c.toNat neutralRanges then .neutral
  else if inRanges c.toNat arabicNumberRanges then .arabicNumber
  else if inRanges c.toNat numberRanges then .number
  else .leftToRight

/-- Whether a label has text that runs from right to left. -/
def hasRightToLeft (label : List Char) : Bool :=
  label.any fun c =>
    directionOf c == .rightToLeft || directionOf c == .arabicNumber

/-- Whether a label runs one way: it starts with a letter, everything in it may stand in text of
the direction of that letter, and it ends in a letter or a number. -/
def runsOneWay (label : List Char) : Bool :=
  match label.map directionOf with
  | [] => true
  | first :: rest =>
    let last := (rest.reverse.dropWhile (· == .nonspacing)).head?.getD first
    if first = .leftToRight then
      rest.all (fun d => d != .rightToLeft && d != .arabicNumber)
        && (last == .leftToRight || last == .number)
    else if first = .rightToLeft then
      rest.all (· != .leftToRight)
        && (last == .rightToLeft || last == .number || last == .arabicNumber)
        && !(rest.contains .number && rest.contains .arabicNumber)
    else false

/-! ## Labels -/

/-- Whether a label is all ASCII. -/
def isAscii (label : List Char) : Bool := label.all (·.val < 0x80)

/-- What labels in ASCII start with that stand for others. -/
def acePrefix : List Char := ['x', 'n', '-', '-']

/-- The label that a label stands for: itself, unless it is the written form of another. That one
must need a written form, in settled and composed characters. -/
def ofAce? (label : List Char) : Option (List Char) :=
  if acePrefix.isPrefixOf label then
    match Punycode.decode? (label.drop 4) with
    | some decoded =>
      if !isAscii decoded && decoded.all isSettled && compose decoded == decoded then some decoded
      else none
    | none => none
  else some label

/-- A label as it is looked up. -/
def toAce (label : List Char) : List Char :=
  if isAscii label then label else acePrefix ++ Punycode.encode label

/-- Whether a label does not start with a mark and has joiners only where they may be. -/
def isWellFormed (label : List Char) : Bool :=
  !(label.head?.map isMark).getD false && joinersFit label

end Pushdown.Domain
