/-!
# White space, and texts without it at their ends

`isBlank` is the Unicode property `White_Space`; the requests, the type names and the numerals a
caller writes are trimmed by it before they are read. `trim` removes blanks from both ends of a
text and nothing else: `trimStart_append_of_not_blank` and `trimEnd_eq_reverse` are the two facts
a reader of trimmed text relies on.
-/

namespace Pushdown.Text

/-- Unicode `White_Space`: the tab and line controls, the space, the next-line control, and the
separators of the general punctuation and ideographic blocks. -/
def isBlank (c : Char) : Bool :=
  (0x09 ≤ c.val && c.val ≤ 0x0D) || c.val == 0x20 || c.val == 0x85 || c.val == 0xA0
    || c.val == 0x1680 || (0x2000 ≤ c.val && c.val ≤ 0x200A) || c.val == 0x2028
    || c.val == 0x2029 || c.val == 0x202F || c.val == 0x205F || c.val == 0x3000

/-- The characters without the blanks they start with. -/
def trimStartChars (cs : List Char) : List Char :=
  cs.dropWhile isBlank

/-- The characters without the blanks they end with. -/
def trimEndChars (cs : List Char) : List Char :=
  (cs.reverse.dropWhile isBlank).reverse

/-- The characters without the blanks at either end. -/
def trimChars (cs : List Char) : List Char :=
  trimEndChars (trimStartChars cs)

/-- The text without the blanks at either end. -/
def trim (s : String) : String :=
  String.ofList (trimChars s.toList)

/-- The text without the given character repeated at its end. -/
def trimEndOf (c : Char) (s : String) : String :=
  String.ofList ((s.toList.reverse.dropWhile (· == c)).reverse)

/-- The characters with every repetition of a (non-empty) ending removed. -/
def dropEndings (ending : List Char) (cs : List Char) : List Char :=
  if _ : ending ≠ [] ∧ ending.isSuffixOf cs then
    dropEndings ending (cs.take (cs.length - ending.length))
  else cs
termination_by cs.length
decreasing_by
  rename_i h
  obtain ⟨hne, hs⟩ := h
  have hle : ending.length ≤ cs.length := (List.isSuffixOf_iff_suffix.1 hs).length_le
  have hpos : 0 < ending.length := List.length_pos_iff.2 hne
  simp only [List.length_take]
  omega

@[simp] theorem trimStartChars_nil : trimStartChars [] = [] := rfl

/-- Trimming the start leaves a text alone that does not start with a blank. -/
theorem trimStart_append_of_not_blank {c : Char} (h : isBlank c = false) (cs : List Char) :
    trimStartChars (c :: cs) = c :: cs := by
  simp [trimStartChars, h]

/-- Trimming the end is trimming the start of the text read backwards. -/
theorem trimEnd_eq_reverse (cs : List Char) :
    trimEndChars cs = (trimStartChars cs.reverse).reverse := rfl

end Pushdown.Text
