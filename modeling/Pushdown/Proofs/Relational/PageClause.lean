import Pushdown.Backend.Compiler
import Pushdown.Number.Numeral

/-!
# Reading page clauses

`PageWindow.read?` reads the part of a result that a statement asks for off its text, by the grammar
of the dialect: `ORDER BY` with ordinals of the select list, and then either `LIMIT` and `OFFSET`
or, in a dialect that cannot do without an ordering, `OFFSET` and `FETCH`. It knows nothing of the
way in which `Dialect.paginate` puts a clause together. `PageWindow.read?_paginate` is that the two
agree: what is asked for is what is read.
-/

namespace Pushdown

/-- The part of a result that a statement asks for. -/
structure PageWindow where
  /-- Ordinals of the select list, counted from one. The first one counts most. -/
  orderBy : List Nat
  limit : Nat
  offset : Nat
  deriving DecidableEq, Repr, Inhabited

namespace PageWindow

/-! ## The grammar -/

/-- The number that a word of digits denotes. -/
def numeral? (word : String) : Option Nat :=
  if word ≠ "" ∧ word.toList.all Char.isDigit then some (Text.digitsValue word.toList) else none

/-- The ordinals of a list with commas, and the words after it. -/
def ordinals? : List String → Option (List Nat × List String)
  | [] => none
  | word :: words =>
    if word.toList.getLast? = some ',' then do
      let ordinal ← numeral? (String.ofList word.toList.dropLast)
      let (ordinals, rest) ← ordinals? words
      return (ordinal :: ordinals, rest)
    else do
      let ordinal ← numeral? word
      return ([ordinal], words)

/-- What stands for an ordering by nothing, and the words after it. -/
def unordered? : List String → Option (List Nat × List String)
  | "(SELECT" :: "NULL)" :: rest => some ([], rest)
  | _ => none

/-- The ordinals of an ordering, and the words after it. -/
def ordering? : List String → Option (List Nat × List String)
  | "ORDER" :: "BY" :: rest => (ordinals? rest).or (unordered? rest)
  | _ => none

/-- The limit and the offset of a clause, in the words of a dialect. -/
def extent? : Dialect → List String → Option (Nat × Nat)
  | .sqlServer, ["OFFSET", offset, "ROWS", "FETCH", "NEXT", limit, "ROWS", "ONLY"] => do
    return (← numeral? limit, ← numeral? offset)
  | .mySql, ["LIMIT", limit, "OFFSET", offset]
  | .postgres, ["LIMIT", limit, "OFFSET", offset] => do
    return (← numeral? limit, ← numeral? offset)
  | _, _ => none

/-- Whether a clause may leave the ordering out. -/
def mayBeUnordered (d : Dialect) : Bool :=
  d ≠ .sqlServer

/-- The part of a result that the words of a clause ask for. -/
def ofWords? (d : Dialect) (words : List String) : Option PageWindow := do
  let (orderBy, rest) ←
    if mayBeUnordered d ∧ words.head? ≠ some "ORDER" then some ([], words) else ordering? words
  let (limit, offset) ← extent? d rest
  return ⟨orderBy, limit, offset⟩

/-- The words of a text. -/
def wordsOf (cs : List Char) : List String :=
  (cs.splitOn ' ').map String.ofList

/-- The part of the result of a statement that a longer one asks for. -/
def read? (d : Dialect) (base text : String) : Option PageWindow :=
  let opening := (base ++ " ").toList
  if opening <+: text.toList then ofWords? d (wordsOf (text.toList.drop opening.length)) else none

/-! ## Words and numerals -/

/-- A numeral is a word of digits. -/
theorem isDigit_of_mem_repr {n : Nat} {c : Char} (hc : c ∈ n.repr.toList) : c.isDigit := by
  rw [Nat.toList_repr] at hc
  exact Nat.isDigit_of_mem_toDigits (by decide) (by decide) hc

theorem digitsValue_repr (n : Nat) : Text.digitsValue n.repr.toList = n := by
  rw [Nat.toList_repr]
  exact Nat.ofDigitChars_ten_toDigits

/-- A numeral denotes its number. -/
@[simp] theorem numeral?_repr (n : Nat) : numeral? n.repr = some n := by
  have hne : n.repr ≠ "" := by
    intro h
    have hl := congrArg String.toList h
    rw [Nat.toList_repr] at hl
    exact Nat.toDigits_ne_nil hl
  have hd : n.repr.toList.all Char.isDigit := by
    rw [List.all_eq_true]
    exact fun c hc => isDigit_of_mem_repr hc
  rw [numeral?, if_pos ⟨hne, hd⟩, digitsValue_repr]

/-- Words without blanks are the words of the text that has them with blanks in between. -/
theorem wordsOf_intercalate {words : List String} (hne : words ≠ [])
    (hw : ∀ word ∈ words, ' ' ∉ word.toList) : wordsOf (" ".intercalate words).toList = words := by
  have hsplit : ([' '].intercalate (words.map String.toList)).splitOn ' '
      = words.map String.toList := by
    refine List.splitOn_intercalate ' ' (fun l hl => ?_) (by simpa using hne)
    obtain ⟨word, hword, rfl⟩ := List.mem_map.1 hl
    exact hw word hword
  rw [wordsOf, String.toList_intercalate]
  change (([' '].intercalate (words.map String.toList)).splitOn ' ').map String.ofList = words
  rw [hsplit, List.map_map]
  simp [Function.comp_def]

/-! ## Reading back what is written -/

/-- The words of a list of ordinals. -/
def ordinalWords : List Nat → List String
  | [] => []
  | [n] => [n.repr]
  | n :: rest => (n.repr ++ ",") :: ordinalWords rest

/-- The words of an ordering by ordinals. -/
def orderingWords (ordinals : List Nat) : List String :=
  "ORDER" :: "BY" :: ordinalWords ordinals

/-- The words of a page clause. -/
def clauseWords (d : Dialect) (w : PageWindow) : List String :=
  match d with
  | .sqlServer =>
    (if w.orderBy = [] then ["ORDER", "BY", "(SELECT", "NULL)"] else orderingWords w.orderBy)
      ++ ["OFFSET", w.offset.repr, "ROWS", "FETCH", "NEXT", w.limit.repr, "ROWS", "ONLY"]
  | .mySql | .postgres =>
    (if w.orderBy = [] then [] else orderingWords w.orderBy)
      ++ ["LIMIT", w.limit.repr, "OFFSET", w.offset.repr]

theorem ordinalWords_ne_nil {ordinals : List Nat} (h : ordinals ≠ []) :
    ordinalWords ordinals ≠ [] := by
  match ordinals, h with
  | [_], _ => simp [ordinalWords]
  | _ :: _ :: _, _ => simp [ordinalWords]

/-- Ordinals joined by commas are their words joined by blanks. -/
theorem intercalate_ordinalWords (ordinals : List Nat) :
    " ".intercalate (ordinalWords ordinals) = ", ".intercalate (ordinals.map toString) := by
  induction ordinals with
  | nil => rfl
  | cons n rest ih =>
    cases rest with
    | nil => simp [ordinalWords]
    | cons n' rest =>
      have hcomma : n.repr ++ "," ++ " " = n.repr ++ ", " := String.append_assoc ..
      have hwords : ordinalWords (n :: n' :: rest)
          = (n.repr ++ ",") :: ordinalWords (n' :: rest) := rfl
      rw [hwords, String.intercalate_cons_of_ne_nil (ordinalWords_ne_nil (List.cons_ne_nil _ _)),
        ih, hcomma, List.map_cons (l := n' :: rest),
        String.intercalate_cons_of_ne_nil (l := (n' :: rest).map toString) (List.cons_ne_nil _ _)]
      rfl

/-- The ordinals are read off their words. -/
theorem ordinals?_ordinalWords {ordinals : List Nat} (hne : ordinals ≠ []) (rest : List String) :
    ordinals? (ordinalWords ordinals ++ rest) = some (ordinals, rest) := by
  induction ordinals with
  | nil => exact absurd rfl hne
  | cons n ns ih =>
    cases ns with
    | nil =>
      have hlast : n.repr.toList.getLast? ≠ some ',' := by
        intro h
        exact absurd (isDigit_of_mem_repr (List.mem_of_getLast? h)) (by decide)
      simp only [ordinalWords, List.singleton_append, ordinals?, if_neg hlast, numeral?_repr]
      rfl
    | cons n' ns =>
      have hlast : (n.repr ++ ",").toList.getLast? = some ',' := by simp
      have hinit : String.ofList (n.repr ++ ",").toList.dropLast = n.repr := by
        rw [String.toList_append]
        change String.ofList (n.repr.toList ++ [',']).dropLast = n.repr
        rw [List.dropLast_concat, String.ofList_toList]
      rw [ordinalWords, List.cons_append, ordinals?, if_pos hlast, hinit, numeral?_repr,
        ih (by simp)]
      · rfl
      · simp

/-- No ordinal is read off the words that stand for no ordering. -/
theorem ordinals?_query (rest : List String) : ordinals? ("(SELECT" :: rest) = none := by
  simp [ordinals?, numeral?]

/-- A numeral has no blank in it. -/
theorem not_mem_repr (n : Nat) : ' ' ∉ n.repr.toList := by
  intro h
  exact absurd (isDigit_of_mem_repr h) (by decide)

theorem not_mem_ordinalWords {ordinals : List Nat} :
    ∀ word ∈ ordinalWords ordinals, ' ' ∉ word.toList := by
  induction ordinals with
  | nil => simp [ordinalWords]
  | cons n ns ih =>
    cases ns with
    | nil => simpa [ordinalWords] using not_mem_repr n
    | cons n' ns =>
      intro word hword
      rcases List.mem_cons.1 hword with rfl | hword
      · simpa using not_mem_repr n
      · exact ih word hword

/-- No word of a page clause has a blank in it. -/
theorem not_mem_clauseWords (d : Dialect) (w : PageWindow) :
    ∀ word ∈ clauseWords d w, ' ' ∉ word.toList := by
  have hordering : ∀ word ∈ orderingWords w.orderBy, ' ' ∉ word.toList := by
    simpa [orderingWords] using not_mem_ordinalWords
  have hlimit : ' ' ∉ Nat.toDigits 10 w.limit := Nat.toList_repr ▸ not_mem_repr w.limit
  have hoffset : ' ' ∉ Nat.toDigits 10 w.offset := Nat.toList_repr ▸ not_mem_repr w.offset
  cases d with
  | sqlServer =>
    refine List.forall_mem_append.2 ⟨?_, by simp [hoffset, hlimit]⟩
    split
    · decide
    · exact hordering
  | mySql | postgres =>
    refine List.forall_mem_append.2 ⟨?_, by simp [hlimit, hoffset]⟩
    split
    · exact List.forall_mem_nil _
    · exact hordering

/-- A page clause is its words, each after a blank. -/
theorem pageClause_eq (d : Dialect) (w : PageWindow) :
    d.pageClause w.orderBy w.limit w.offset = " " ++ " ".intercalate (clauseWords d w) := by
  have hordering (h : w.orderBy ≠ []) : " ".intercalate (orderingWords w.orderBy)
      = "ORDER BY " ++ ", ".intercalate (w.orderBy.map toString) := by
    rw [orderingWords, String.intercalate_cons_cons,
      String.intercalate_cons_of_ne_nil (ordinalWords_ne_nil h), intercalate_ordinalWords]
    simp only [← String.append_assoc]
    rfl
  rw [← String.toList_inj]
  by_cases h : w.orderBy = []
  · cases d <;> simp [Dialect.pageClause, Dialect.orderClause?, clauseWords, h]
  · have hne : orderingWords w.orderBy ≠ [] := List.cons_ne_nil _ _
    cases d <;> simp [Dialect.pageClause, Dialect.orderClause?, clauseWords, h, hordering h,
      String.intercalate_append_of_ne_nil hne]

/-- The words of a page clause ask for its part of a result. -/
theorem ofWords?_clauseWords (d : Dialect) (w : PageWindow) :
    ofWords? d (clauseWords d w) = some w := by
  obtain ⟨orderBy, limit, offset⟩ := w
  cases orderBy with
  | nil =>
    cases d <;> simp [clauseWords, ofWords?, mayBeUnordered, extent?, ordering?, unordered?,
      ordinals?_query]
  | cons n ns =>
    cases d <;> simp [clauseWords, orderingWords, ofWords?, mayBeUnordered, extent?, ordering?,
      ordinals?_ordinalWords]

/-- The part of a result that `Dialect.paginate` asks for is the one that is read. -/
theorem read?_paginate (d : Dialect) (text : String) (w : PageWindow) :
    read? d text (d.paginate text w.orderBy w.limit w.offset) = some w := by
  have hchars : (d.paginate text w.orderBy w.limit w.offset).toList
      = (text ++ " ").toList ++ (" ".intercalate (clauseWords d w)).toList := by
    rw [Dialect.paginate, pageClause_eq, ← String.append_assoc, String.toList_append]
  have hne : clauseWords d w ≠ [] := by
    cases d <;> simp [clauseWords]
  rw [read?, hchars, if_pos (List.prefix_append _ _), List.drop_left,
    wordsOf_intercalate hne (not_mem_clauseWords d w), ofWords?_clauseWords]

end PageWindow

/-- A plan whose result has more than one row is walked by number of rows. -/
theorem Dialect.pageQuery_compile {d : Dialect} {plan : Plan} {b : Nat}
    (hshape : plan.shape ≠ .aggregate) (continuation : Option Continuation) :
    d.kind.pageQuery (d.compile plan) continuation b
      = BackendKind.statementPage d .offset continuation b (d.render (d.statement plan))
          (columnOrdinals plan) := by
  cases d <;> simp [kind, compile, BackendKind.pageQuery, hshape]

end Pushdown
