/-!
# Statements in fragments

A statement is put together from fragments: fixed words, quoted names and quoted texts. Only the
last two hold anything a schema or a request brought in, so what can change between two
statements of one form is what stands inside their quotes. How the quotes are written differs
between dialects and is left to whoever renders the fragments.
-/

namespace Pushdown

/-- A part of a statement. -/
inductive Fragment where
  /-- Words, numerals and punctuation, written as they are. -/
  | words (s : String)
  /-- The name of a table, a column or an output. -/
  | name (s : String)
  /-- A text literal. -/
  | text (s : String)
  deriving DecidableEq, Repr, Inhabited

/-- A statement, or a part of one. -/
abbrev Fragments := List Fragment

namespace Fragment

/-- The parts with words between every two of them. -/
def separated (between : String) : List Fragments → Fragments
  | [] => []
  | [part] => part
  | part :: rest => part ++ .words between :: separated between rest

end Fragment

/-- A text with every occurrence of a character written twice. -/
def doubled (c : Char) (s : String) : String :=
  String.ofList (s.toList.flatMap fun d => if d = c then [c, c] else [d])

end Pushdown
