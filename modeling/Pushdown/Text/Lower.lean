import Pushdown.Text.CaseTable

/-!
# Lower-casing

Names are compared after full Unicode lower-casing. Every character has an image that does not
depend on its surroundings, except the capital sigma, whose image at the end of a word is the
final form, and the dotted capital I, whose image is two characters. `lower` is defined on the
list of characters, so that it can be unfolded; `lower_ascii` is what it does to plain text.
-/

namespace Pushdown.Text

/-- Whether a code point lies in one of the ranges. -/
def inRanges (n : Nat) (ranges : List (Nat × Nat)) : Bool :=
  ranges.any fun r => r.1 ≤ n && n ≤ r.2

/-- Whether case rules look through the character. -/
def isCaseIgnorable (c : Char) : Bool :=
  inRanges c.toNat caseIgnorableRanges

/-- Whether the character is cased, among those that case rules do not look through. -/
def isCased (c : Char) : Bool :=
  inRanges c.toNat casedRanges

/-- The lower-case image of a character that does not depend on its surroundings; the capital
sigma is left to `lowerSigma`. -/
def lowerChar (c : Char) : List Char :=
  if c.val < 0x80 then
    [if c.isUpper then c.toLower else c]
  else if c.val == 0x130 then
    ['i', Char.ofNat 0x307]
  else
    match lowerRanges.find? fun (lo, hi, step, _) =>
        lo ≤ c.toNat && c.toNat ≤ hi && (c.toNat - lo) % step == 0 with
    | some (_, _, _, distance) => [Char.ofNat (c.toNat + distance).toNat]
    | none => [c]

/-- Whether the first character that case rules do not look through is cased. -/
def meetsCased (cs : List Char) : Bool :=
  match cs.dropWhile isCaseIgnorable with
  | [] => false
  | c :: _ => isCased c

/-- The image of a capital sigma: the final form when a cased character stands before it in its
word and none after it. `before` is read backwards. -/
def lowerSigma (before after : List Char) : Char :=
  if meetsCased before && !meetsCased after then Char.ofNat 0x3C2 else Char.ofNat 0x3C3

/-- The images of `cs`, given the characters that precede it, nearest first. -/
def lowerFrom (before : List Char) : List Char → List Char
  | [] => []
  | c :: rest =>
    (if c.val == 0x3A3 then [lowerSigma before rest] else lowerChar c)
      ++ lowerFrom (c :: before) rest

/-- The text in lower case. -/
def lower (s : String) : String :=
  String.ofList (lowerFrom [] s.toList)

/-- A character below the first non-ASCII one that is no capital letter is its own image. -/
theorem lowerChar_of_not_upper {c : Char} (hc : c.val < 0x80) (hu : c.isUpper = false) :
    lowerChar c = [c] := by
  simp [lowerChar, hc, hu]

/-- Text in plain lower-case characters is left alone. -/
theorem lowerFrom_ascii (before : List Char) :
    ∀ cs : List Char, (∀ c ∈ cs, c.val < 0x80 ∧ c.isUpper = false) → lowerFrom before cs = cs
  | [], _ => rfl
  | c :: rest, h => by
    obtain ⟨hc, hu⟩ := h c (List.mem_cons_self ..)
    have hs : (c.val == 0x3A3) = false := by
      simp only [beq_eq_false_iff_ne, ne_eq]
      intro he
      rw [he] at hc
      exact absurd hc (by decide)
    have ih := lowerFrom_ascii (c :: before) rest fun d hd => h d (List.mem_cons_of_mem _ hd)
    simp [lowerFrom, hs, lowerChar_of_not_upper hc hu, ih]

end Pushdown.Text
