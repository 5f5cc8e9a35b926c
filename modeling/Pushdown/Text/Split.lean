/-!
# Splitting a text

`split c s` is the parts of a text between the occurrences of a character; a text without it is
its own single part. `intercalate_split` puts the parts together again.
-/

namespace Pushdown.Text

/-- The parts between the occurrences of a character. -/
def splitChars (c : Char) : List Char → List (List Char)
  | [] => [[]]
  | d :: rest =>
    if d = c then [] :: splitChars c rest
    else
      match splitChars c rest with
      | [] => [[d]]
      | part :: parts => (d :: part) :: parts

/-- The parts of a text between the occurrences of a character. -/
def split (c : Char) (s : String) : List String :=
  (splitChars c s.toList).map String.ofList

theorem splitChars_ne_nil (c : Char) (cs : List Char) : splitChars c cs ≠ [] := by
  cases cs with
  | nil => simp [splitChars]
  | cons d rest =>
    simp only [splitChars]
    split
    · simp
    · split <;> simp

/-- The parts with the character between them are the text. -/
theorem intercalate_split (c : Char) (cs : List Char) :
    [c].intercalate (splitChars c cs) = cs := by
  induction cs with
  | nil => rfl
  | cons d rest ih =>
    obtain ⟨part, parts, h⟩ : ∃ part parts, splitChars c rest = part :: parts :=
      match hs : splitChars c rest with
      | [] => absurd hs (splitChars_ne_nil c rest)
      | part :: parts => ⟨part, parts, rfl⟩
    rw [h] at ih
    simp only [splitChars, h]
    by_cases hd : d = c
    · subst hd
      cases parts <;> simp_all [List.intercalate]
    · simp only [hd, if_false]
      cases parts <;> simp_all [List.intercalate]

end Pushdown.Text
