/-!
# Finding a text in another
-/

namespace Pushdown.Text

/-- Whether the characters occur together at some place. -/
def occursIn (part : List Char) : List Char → Bool
  | [] => part.isEmpty
  | c :: cs => part.isPrefixOf (c :: cs) || occursIn part cs

/-- Whether a text occurs in another. -/
def contains (part whole : String) : Bool :=
  occursIn part.toList whole.toList

end Pushdown.Text
