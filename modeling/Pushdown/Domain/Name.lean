import Pushdown.Domain.Label

/-!
# Domain names

A domain name is written in any script and looked up in ASCII (`toAscii?`). Characters that
compatibility processing would replace by others outside ASCII are kept.
-/

namespace Pushdown.Domain

/-- The labels of a name in characters that stand for themselves, if all of them may stand in one
name. -/
def labels? (name : List Char) : Option (List (List Char)) := do
  let images ← name.mapM image?
  let labels ← (Text.splitChars '.' (compose images.flatten)).mapM ofAce?
  if labels.all isWellFormed && (labels.all runsOneWay || !labels.any hasRightToLeft) then
    return labels
  none

/-- The name as it is looked up. -/
def toAscii? (name : List Char) : Option (List Char) :=
  (labels? name).map fun labels => ['.'].intercalate (labels.map toAce)

end Pushdown.Domain
