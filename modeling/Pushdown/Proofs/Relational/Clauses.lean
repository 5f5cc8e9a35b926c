import Pushdown.Proofs.Relational.Lexemes

/-!
# The clauses of a statement

`Clauses.read?` takes the text of a statement apart as a reader does who knows the words that begin
a clause, and that a comma outside of all parentheses ends an item of a list: the items of the
select list with their aliases, the table, the condition and the list of the grouping. What stands
in parentheses is not looked into.

`Clauses.read?_statement` is that the clauses of a plan's statement are the ones it was put together
from. Nothing that is written for a column, a term or a condition can end the clause or the item it
stands in: its parentheses are closed, and outside of them it has no comma, no word that begins a
clause, and no `AND` or `OR` (`Dialect.IsClosed`).
-/

namespace Pushdown

namespace Lexeme

/-! ## Words in parentheses -/

/-- The number of open parentheses behind a word. -/
def depthBehind (depth : Nat) (l : Lexeme) : Nat :=
  if l = .mark '(' then depth + 1 else if l = .mark ')' then depth - 1 else depth

/-- What stands before the first word that stops outside of all parentheses, and each such word with
what follows it up to the next one. -/
def sections (stop : Lexeme → Bool) : Nat → List Lexeme → List Lexeme × List (Lexeme × List Lexeme)
  | _, [] => ([], [])
  | depth, l :: rest =>
    let (before, after) := sections stop (depthBehind depth l) rest
    if depth = 0 ∧ stop l then ([], (l, before) :: after) else (l :: before, after)

theorem sections_nil (stop : Lexeme → Bool) (depth : Nat) : sections stop depth [] = ([], []) := rfl

/-- The number of open parentheses behind some words, none of which stops outside of all parentheses
or closes one that was not opened. -/
def walk (stop : Lexeme → Bool) : Nat → List Lexeme → Option Nat
  | depth, [] => some depth
  | depth, l :: rest =>
    if depth = 0 ∧ (stop l ∨ l = .mark ')') then none else walk stop (depthBehind depth l) rest

/-- Words whose parentheses are closed and none of which stops outside of them. -/
def IsClosed (stop : Lexeme → Bool) (ls : List Lexeme) : Prop :=
  ∀ depth, walk stop depth ls = some depth

section
variable {stop stop' : Lexeme → Bool} {ls ls' : List Lexeme}

theorem walk_append (stop : Lexeme → Bool) (depth : Nat) (ls ls' : List Lexeme) :
    walk stop depth (ls ++ ls') = (walk stop depth ls).bind (walk stop · ls') := by
  induction ls generalizing depth with
  | nil => rfl
  | cons l ls ih =>
    rw [List.cons_append, walk, walk]
    split
    · rfl
    · exact ih _

theorem IsClosed.walk_append (h : IsClosed stop ls) (depth : Nat) (ls' : List Lexeme) :
    walk stop depth (ls ++ ls') = walk stop depth ls' := by
  rw [Lexeme.walk_append, h, Option.bind_some]

theorem isClosed_nil : IsClosed stop [] := fun _ => rfl

theorem IsClosed.append (h : IsClosed stop ls) (h' : IsClosed stop ls') :
    IsClosed stop (ls ++ ls') :=
  fun depth => (h.walk_append depth ls').trans (h' depth)

theorem isClosed_singleton {l : Lexeme} (hstop : stop l = false) (hopens : l ≠ .mark '(')
    (hcloses : l ≠ .mark ')') : IsClosed stop [l] := by
  intro depth
  simp [walk, depthBehind, hstop, hopens, hcloses]

theorem isClosed_flatMap {α : Type} {words : α → List Lexeme} {l : List α}
    (h : ∀ a ∈ l, IsClosed stop (words a)) : IsClosed stop (l.flatMap words) := by
  induction l with
  | nil => exact isClosed_nil
  | cons a l ih =>
    obtain ⟨ha, hl⟩ := List.forall_mem_cons.1 h
    exact ha.append (ih hl)

/-- Words that stop nothing more do not stop where fewer words do. -/
theorem IsClosed.mono (h : IsClosed stop ls) (hstop : ∀ l, stop' l = true → stop l = true) :
    IsClosed stop' ls := by
  have hwalk (ls : List Lexeme) (depth depth' : Nat) (h : walk stop depth ls = some depth') :
      walk stop' depth ls = some depth' := by
    induction ls generalizing depth with
    | nil => exact h
    | cons l ls ih =>
      rw [walk] at h ⊢
      split at h
      · cases h
      · next hgo =>
        rw [if_neg fun hno => hgo ⟨hno.1, hno.2.imp_left (hstop l)⟩]
        exact ih _ h
  exact fun depth => hwalk ls depth depth (h depth)

/-- Words that are closed belong to the section they stand in. -/
theorem sections_of_walk {depth depth' : Nat} (h : walk stop depth ls = some depth')
    (rest : List Lexeme) :
    sections stop depth (ls ++ rest)
      = (ls ++ (sections stop depth' rest).1, (sections stop depth' rest).2) := by
  induction ls generalizing depth with
  | nil =>
    cases h
    rfl
  | cons l ls ih =>
    rw [walk] at h
    split at h
    · cases h
    · next hgo =>
      have hstop : ¬ (depth = 0 ∧ stop l) := fun hno => hgo ⟨hno.1, .inl hno.2⟩
      rw [List.cons_append, sections, ih h]
      exact if_neg hstop

theorem IsClosed.sections_append (h : IsClosed stop ls) (rest : List Lexeme) :
    sections stop 0 (ls ++ rest)
      = (ls ++ (sections stop 0 rest).1, (sections stop 0 rest).2) :=
  sections_of_walk (h 0) rest

theorem IsClosed.sections_eq (h : IsClosed stop ls) : sections stop 0 ls = (ls, []) := by
  have happend := h.sections_append []
  rwa [List.append_nil, sections, List.append_nil] at happend

/-- A word that stops begins a section. -/
theorem sections_cons {l : Lexeme} (hstop : stop l = true) (hopens : l ≠ .mark '(')
    (hcloses : l ≠ .mark ')') (rest : List Lexeme) :
    sections stop 0 (l :: rest)
      = ([], (l, (sections stop 0 rest).1) :: (sections stop 0 rest).2) := by
  rw [sections, depthBehind, if_neg hopens, if_neg hcloses]
  simp [hstop]

end

/-! ## Lists and clauses -/

/-- Whether a word ends an item of a list. -/
def isComma (l : Lexeme) : Bool := l = .mark ','

/-- The words that begin a clause. -/
def clauseWords : List String := ["SELECT", "FROM", "WHERE", "GROUP", "HAVING", "ORDER", "LIMIT"]

/-- Whether a word begins a clause. -/
def beginsClause : Lexeme → Bool
  | .word w => clauseWords.contains w
  | _ => false

/-- Whether a word joins two conditions. -/
def joins (l : Lexeme) : Bool := l = .word "AND" || l = .word "OR"

/-- Whether a word ends an item of a list, begins a clause or joins two conditions. -/
def separates (l : Lexeme) : Bool := isComma l || beginsClause l || joins l

/-- What stands between the words that stop. -/
def parts (stop : Lexeme → Bool) (ls : List Lexeme) : List (List Lexeme) :=
  let (first, others) := sections stop 0 ls
  first :: others.map Prod.snd

/-- The items of a list. -/
def items (ls : List Lexeme) : List (List Lexeme) := parts isComma ls

/-- What stands before the parenthesis that closes some words. -/
def enclosed? (ls : List Lexeme) : Option (List Lexeme) :=
  if ls.getLast? = some (.mark ')') ∧ walk (fun _ => false) 0 ls.dropLast = some 0 then
    some ls.dropLast
  else none

/-- An expression and its alias. -/
def aliased? (ls : List Lexeme) : Option (List Lexeme × String) :=
  match ls.reverse with
  | .quoted _ label :: .word "AS" :: expression => some (expression.reverse, label)
  | _ => none

/-- The items of a select list, which may be empty. -/
def selectList? (ls : List Lexeme) : Option (List (List Lexeme × String)) :=
  if ls.isEmpty then some [] else (items ls).mapM aliased?

/-- The list of a grouping, empty when there is no such clause. -/
def groupList? : Option (List Lexeme) → Option (List (List Lexeme))
  | none => some []
  | some (.word "BY" :: list) => some (items list)
  | some _ => none

/-- Closed words have one part. -/
theorem IsClosed.parts_eq {stop : Lexeme → Bool} {ls : List Lexeme} (h : IsClosed stop ls) :
    parts stop ls = [ls] := by
  rw [parts, h.sections_eq]
  rfl

theorem IsClosed.of_separates {ls : List Lexeme} (h : IsClosed separates ls) :
    IsClosed isComma ls ∧ IsClosed beginsClause ls ∧ IsClosed joins ls :=
  ⟨h.mono fun l hl => by simp [separates, hl], h.mono fun l hl => by simp [separates, hl],
    h.mono fun l hl => by simp [separates, hl]⟩

/-- A clause is read up to the one behind it. -/
theorem sections_clause {keyword : String} (hkeyword : clauseWords.contains keyword = true)
    {body : List Lexeme} (hbody : IsClosed beginsClause body) {rest : List Lexeme}
    {clauses : List (Lexeme × List Lexeme)} (hrest : sections beginsClause 0 rest = ([], clauses)) :
    sections beginsClause 0 (.word keyword :: (body ++ rest))
      = ([], (.word keyword, body) :: clauses) := by
  have hopens : Lexeme.word keyword ≠ .mark '(' := nofun
  have hcloses : Lexeme.word keyword ≠ .mark ')' := nofun
  rw [sections_cons hkeyword hopens hcloses, hbody.sections_append, hrest, List.append_nil]

theorem enclosed?_append {ls : List Lexeme} (h : walk (fun _ => false) 0 ls = some 0) :
    enclosed? (ls ++ [.mark ')']) = some ls := by
  simp [enclosed?, h]

theorem aliased?_append (expression : List Lexeme) (quote : Quote) (label : String) :
    aliased? (expression ++ [.word "AS", .quoted quote label]) = some (expression, label) := by
  simp [aliased?]

end Lexeme

/-- The clauses of a statement. -/
structure Clauses where
  /-- The items of the select list: an expression and its alias. -/
  items : List (List Lexeme × String)
  table : List Lexeme
  condition : Option (List Lexeme)
  /-- The expressions that are grouped by. -/
  groupBy : List (List Lexeme)
  deriving DecidableEq, Repr, Inhabited

namespace Clauses

/-- The clauses of a text. -/
def read? (d : Dialect) (text : String) : Option Clauses := do
  let (before, clauses) := Lexeme.sections Lexeme.beginsClause 0 (← d.lexemes? text)
  if before ≠ [] then none
  let items ← Lexeme.selectList? (← clauses.lookup (.word "SELECT"))
  let table ← clauses.lookup (.word "FROM")
  let groupBy ← Lexeme.groupList? (clauses.lookup (.word "GROUP"))
  return ⟨items, table, clauses.lookup (.word "WHERE"), groupBy⟩

end Clauses

namespace Dialect

open Lexeme

/-! ## What is written is closed -/

theorem ofWords_append {s t : String} (h : StopsLoose s ∨ BeginsLoose t) :
    ofWords (s ++ t) = ofWords s ++ ofWords t := by
  rw [ofWords, String.toList_append, List.map_append, ofTokens_append, ofWords, ofWords]
  refine h.imp (fun hs token htoken => ?_) fun ht token htoken => ?_
  · obtain ⟨c, hlast, hends⟩ := (Option.any_eq_true ..).1 hs.2
    rw [List.getLast?_map, hlast] at htoken
    cases htoken
    exact hends
  · obtain ⟨c, hhead, hends⟩ := (Option.any_eq_true ..).1 ht.2
    rw [List.head?_map, hhead] at htoken
    cases htoken
    exact hends

section
variable (d : Dialect)

/-- The fragments are closed, and outside of parentheses nothing in them separates. -/
def IsClosed (fs : Fragments) : Prop := Lexeme.IsClosed separates (fs.flatMap d.lexemesOf)

/-- Words without quotes and parentheses, none of which separates. -/
def IsFlat (w : String) : Prop :=
  Unmarked w ∧ ∀ l ∈ ofWords w, separates l = false ∧ l ≠ .mark '(' ∧ l ≠ .mark ')'

instance (w : String) : Decidable (IsFlat w) := inferInstanceAs (Decidable (_ ∧ _))

variable {d} in
theorem IsClosed.append {fs gs : Fragments} (h : d.IsClosed fs) (h' : d.IsClosed gs) :
    d.IsClosed (fs ++ gs) := by
  rw [IsClosed, List.flatMap_append]
  exact Lexeme.IsClosed.append h h'

theorem isClosed_name (s : String) : d.IsClosed [.name s] :=
  isClosed_singleton rfl nofun nofun

theorem isClosed_words {w : String} (hw : IsFlat w) : d.IsClosed [.words w] := by
  obtain ⟨hunmarked, hflat⟩ := hw
  have hwords : Lexeme.IsClosed separates ((ofWords w).flatMap fun l => [l]) :=
    isClosed_flatMap fun l hl =>
      isClosed_singleton (hflat l hl).1 (hflat l hl).2.1 (hflat l hl).2.2
  rw [List.flatMap_singleton'] at hwords
  rwa [IsClosed, List.flatMap_singleton, lexemesOf_words hunmarked]

/-- A name of a level is one word, which separates nothing. -/
theorem ofWords_unitName (level : DateLevel) :
    ofWords (d.unitName level) = [.word (d.unitName level)]
      ∧ separates (.word (d.unitName level)) = false := by
  have hupper : mySql.unitName level = String.ofList (level.name.toList.map Char.toUpper) := by
    rw [← String.toList_inj, String.toList_ofList]
    exact String.toList_map
  have hletters : d.unitName level ≠ ""
      ∧ (d.unitName level).toList.all (fun c => !endsWord c) = true := by
    cases d with
    | mySql =>
      rw [hupper]
      cases level <;> decide
    | postgres | sqlServer => cases level <;> decide
  refine ⟨ofWords_eq_word hletters.1 fun c hc => ?_, ?_⟩
  · simpa using List.all_eq_true.1 hletters.2 c hc
  · cases d with
    | mySql =>
      rw [hupper]
      cases level <;> decide
    | postgres | sqlServer => cases level <;> decide

/-- A name of a level between words that end and begin apart. -/
theorem ofWords_around {before after : String} (hbefore : StopsLoose before)
    (hafter : BeginsLoose after) (level : DateLevel) :
    ofWords (before ++ d.unitName level ++ after)
      = ofWords before ++ .word (d.unitName level) :: ofWords after := by
  rw [ofWords_append (.inr hafter), ofWords_append (.inl hbefore), (d.ofWords_unitName level).1,
    List.append_assoc, List.singleton_append]

theorem lexemesOf_around {before after : String} (hbefore : StopsLoose before)
    (hafter : BeginsLoose after) (level : DateLevel) :
    d.lexemesOf (.words (before ++ d.unitName level ++ after))
      = ofWords before ++ .word (d.unitName level) :: ofWords after := by
  have hwords : Unmarked (before ++ d.unitName level ++ after) :=
    unmarked_append.2 ⟨unmarked_append.2 ⟨hbefore.1, d.unmarked_unitName level⟩, hafter.1⟩
  rw [lexemesOf_words hwords, d.ofWords_around hbefore hafter]

theorem lexemesOf_close : d.lexemesOf (.words ")") = [.mark ')'] := lexemesOf_words (by decide)

theorem lexemesOf_comma : d.lexemesOf (.words ", ") = [.mark ','] := lexemesOf_words (by decide)

/-! ## The words of a term -/

theorem lexemes_origin (column : Fragments) :
    (d.term column .origin).flatMap d.lexemesOf
      = [if d = .sqlServer then .word "0" else .quoted .single "1900-01-01"] := by
  have hquoted : d.lexemesOf (.words "'1900-01-01'") = [.quoted .single "1900-01-01"] := by
    have hreads : d.Reads "'1900-01-01'".toList [.quoted .single "1900-01-01"] :=
      reads_single (by decide : Unmarked "1900-01-01")
    rw [lexemesOf, hreads.tokensOf_words]
    rfl
  have hzero : d.lexemesOf (.words "0") = [.word "0"] := lexemesOf_words (by decide)
  cases d with
  | mySql | postgres => simpa [term] using hquoted
  | sqlServer => simpa [term] using hzero

theorem lexemes_midnight (column : Fragments) (t : InstantTerm) :
    (d.term column (.midnight t)).flatMap d.lexemesOf
      = [.word "CAST", .mark '(', .word "CAST", .mark '('] ++ (d.term column t).flatMap d.lexemesOf
        ++ [.word "AS", .word "DATE", .mark ')', .word "AS", .word "DATETIME", .mark ')'] := by
  have hopen : d.lexemesOf (.words "CAST(CAST(")
      = [.word "CAST", .mark '(', .word "CAST", .mark '('] := lexemesOf_words (by decide)
  have hclose : d.lexemesOf (.words " AS DATE) AS DATETIME)")
      = [.word "AS", .word "DATE", .mark ')', .word "AS", .word "DATETIME", .mark ')'] :=
    lexemesOf_words (by decide)
  simp [term, hopen, hclose]

theorem lexemes_dayBefore (column : Fragments) (t : InstantTerm) :
    (d.term column (.dayBefore t)).flatMap d.lexemesOf
      = [.word "DATEADD", .mark '(', .word "day", .mark ',', .word "-1", .mark ',']
        ++ (d.term column t).flatMap d.lexemesOf ++ [.mark ')'] := by
  have hopen : d.lexemesOf (.words "DATEADD(day, -1, ")
      = [.word "DATEADD", .mark '(', .word "day", .mark ',', .word "-1", .mark ','] :=
    lexemesOf_words (by decide)
  simp [term, hopen, lexemesOf_close]

theorem lexemes_advance_sqlServer (column : Fragments) (level : DateLevel)
    (base start stop : InstantTerm) :
    (sqlServer.term column (.advance level base start stop)).flatMap sqlServer.lexemesOf
      = [.word "DATEADD", .mark '(', .word (sqlServer.unitName level), .mark ',',
          .word "DATEDIFF", .mark '(', .word (sqlServer.unitName level), .mark ',']
        ++ (sqlServer.term column start).flatMap sqlServer.lexemesOf ++ [.mark ',']
        ++ (sqlServer.term column stop).flatMap sqlServer.lexemesOf ++ [.mark ')', .mark ',']
        ++ (sqlServer.term column base).flatMap sqlServer.lexemesOf ++ [.mark ')'] := by
  have hname := sqlServer.unmarked_unitName level
  have hfirst : StopsLoose ("DATEADD(" ++ sqlServer.unitName level ++ ", DATEDIFF(") :=
    StopsLoose.append (by decide) (unmarked_append.2 ⟨by decide, hname⟩)
  have hopen : sqlServer.lexemesOf (.words ("DATEADD(" ++ sqlServer.unitName level
        ++ ", DATEDIFF(" ++ sqlServer.unitName level ++ ", "))
      = [.word "DATEADD", .mark '(', .word (sqlServer.unitName level), .mark ',',
        .word "DATEDIFF", .mark '(', .word (sqlServer.unitName level), .mark ','] := by
    rw [lexemesOf_around _ hfirst (by decide), ofWords_around _ (by decide) (by decide)]
    rfl
  have hbetween : sqlServer.lexemesOf (.words "), ") = [.mark ')', .mark ','] :=
    lexemesOf_words (by decide)
  simp [term, hopen, hbetween, lexemesOf_comma, lexemesOf_close]

variable {d} in
theorem lexemes_advance (hd : d ≠ .sqlServer) (column : Fragments) (level : DateLevel)
    (base start stop : InstantTerm) :
    (d.term column (.advance level base start stop)).flatMap d.lexemesOf
      = [.word "DATE_ADD", .mark '('] ++ (d.term column base).flatMap d.lexemesOf
        ++ [.mark ',', .word "INTERVAL", .word "TIMESTAMPDIFF", .mark '(',
          .word (d.unitName level), .mark ',']
        ++ (d.term column start).flatMap d.lexemesOf ++ [.mark ',']
        ++ (d.term column stop).flatMap d.lexemesOf
        ++ [.mark ')', .word (d.unitName level), .mark ')'] := by
  have hopen : d.lexemesOf (.words "DATE_ADD(") = [.word "DATE_ADD", .mark '('] :=
    lexemesOf_words (by decide)
  have hbetween : d.lexemesOf (.words (", INTERVAL TIMESTAMPDIFF(" ++ d.unitName level ++ ", "))
      = [.mark ',', .word "INTERVAL", .word "TIMESTAMPDIFF", .mark '(', .word (d.unitName level),
        .mark ','] := by
    rw [lexemesOf_around _ (by decide) (by decide)]
    rfl
  have hclose : d.lexemesOf (.words (") " ++ d.unitName level ++ ")"))
      = [.mark ')', .word (d.unitName level), .mark ')'] := by
    rw [lexemesOf_around _ (by decide) (by decide)]
    rfl
  cases d with
  | sqlServer => exact absurd rfl hd
  | mySql | postgres => simp [term, hopen, hbetween, hclose, lexemesOf_comma]

variable {d} in
/-- A term over a closed column. -/
theorem isClosed_term {column : Fragments} (hcolumn : d.IsClosed column) (t : InstantTerm) :
    d.IsClosed (d.term column t) := by
  induction t with
  | column => exact hcolumn
  | origin =>
    rw [IsClosed, lexemes_origin]
    split
    · exact isClosed_singleton rfl nofun nofun
    · exact isClosed_singleton rfl nofun nofun
  | midnight t ih =>
    intro depth
    simp [lexemes_midnight, ih.walk_append, walk, depthBehind, separates, isComma, joins,
      beginsClause, clauseWords]
  | dayBefore t ih =>
    intro depth
    simp [lexemes_dayBefore, ih.walk_append, walk, depthBehind, separates, isComma, joins,
      beginsClause, clauseWords]
  | advance level base start stop ihbase ihstart ihstop =>
    have hunit := (d.ofWords_unitName level).2
    intro depth
    by_cases hd : d = .sqlServer
    · subst hd
      simp [lexemes_advance_sqlServer, ihbase.walk_append, ihstart.walk_append, ihstop.walk_append,
        walk, depthBehind, hunit]
      simp [separates, isComma, joins, beginsClause, clauseWords]
    · simp [lexemes_advance hd, ihbase.walk_append, ihstart.walk_append, ihstop.walk_append, walk,
        depthBehind, hunit]
      simp [separates, isComma, joins, beginsClause, clauseWords]
  | truncated level =>
    have hopen : d.lexemesOf (.words ("date_trunc('" ++ d.unitName level ++ "', "))
        = [.word "date_trunc", .mark '(', .quoted .single (d.unitName level), .mark ','] := by
      rw [lexemesOf, tokensOf_dateTrunc]
      rfl
    intro depth
    simp [term, hopen, lexemesOf_close, hcolumn.walk_append, walk, depthBehind, separates, isComma,
      joins, beginsClause, clauseWords]

/-- No literal separates: a numeral is none of the words that do. -/
theorem isClosed_literal (value : Literal) : d.IsClosed [d.literal value] := by
  rw [IsClosed, List.flatMap_singleton]
  cases value with
  | number x =>
    have hword : ∀ w ∈ clauseWords ++ ["AND", "OR"], numberText x ≠ w := by
      have hletters : ∀ w ∈ clauseWords ++ ["AND", "OR"],
          w ∉ ["inf", "-inf", "NaN"] ∧ w.toList.all isNumeric = false := by decide
      exact fun w hw => numberText_ne (hletters w hw).1 (hletters w hw).2
    have hstop : separates (.word (numberText x)) = false := by
      simpa [separates, isComma, joins, beginsClause] using fun h => hword _ h rfl
    rw [literal, lexemesOf_number]
    exact isClosed_singleton hstop nofun nofun
  | text s => exact isClosed_singleton rfl nofun nofun
  | bool b =>
    rw [literal, lexemesOf_bool]
    refine isClosed_singleton ?_ nofun nofun
    cases d <;> cases b <;> decide
  | timestamp t =>
    rw [literal, lexemesOf_instant]
    intro depth
    cases d <;> simp [instantLexemes, walk, depthBehind, separates, isComma, joins, beginsClause,
      clauseWords]

variable {d} in
/-- Closed fragments with words between them that are closed where they stand. -/
theorem walk_separated {stop : Lexeme → Bool} {between : String} {depth : Nat}
    (hbetween : walk stop depth (d.lexemesOf (.words between)) = some depth)
    {parts : List Fragments} (h : ∀ part ∈ parts, Lexeme.IsClosed stop (part.flatMap d.lexemesOf)) :
    walk stop depth ((Fragment.separated between parts).flatMap d.lexemesOf) = some depth := by
  fun_induction Fragment.separated between parts with
  | case1 => rfl
  | case2 part => exact h part List.mem_cons_self depth
  | case3 part rest _ ih =>
    obtain ⟨hpart, hrest⟩ := List.forall_mem_cons.1 h
    rw [List.flatMap_append, hpart.walk_append, List.flatMap_cons, walk_append, hbetween,
      Option.bind_some, ih hrest]

variable {d} in
/-- Fragments in parentheses are closed, whatever separates them there. -/
theorem isClosed_enclosed {opening : String} {fs : Fragments}
    (hopening : ∀ depth, walk separates depth (d.lexemesOf (.words opening)) = some (depth + 1))
    (h : ∀ depth, walk separates (depth + 1) (fs.flatMap d.lexemesOf) = some (depth + 1)) :
    d.IsClosed (.words opening :: fs ++ [.words ")"]) := by
  intro depth
  rw [List.cons_append, List.flatMap_cons, walk_append, hopening, Option.bind_some,
    List.flatMap_append, walk_append, h, Option.bind_some, List.flatMap_singleton, lexemesOf_close]
  simp [walk, depthBehind]

variable {d} in
theorem isClosed_joined {connective : String}
    (hconnective : ∀ depth,
      walk separates (depth + 1) (d.lexemesOf (.words connective)) = some (depth + 1))
    (empty : Bool) {parts : List Fragments} (h : ∀ part ∈ parts, d.IsClosed part) :
    d.IsClosed (joined connective empty parts) := by
  match parts, h with
  | [], _ => exact d.isClosed_words (by cases empty <;> decide)
  | [part], h => exact h part List.mem_cons_self
  | part :: part' :: rest, h =>
    have hopening : d.lexemesOf (.words "(") = [.mark '('] := lexemesOf_words (by decide)
    refine isClosed_enclosed (fun depth => ?_) fun depth => walk_separated (hconnective _) h
    simp [hopening, walk, depthBehind, separates, isComma, joins, beginsClause]

/-- The words of a condition are closed. -/
theorem isClosed_condition (p : Predicate) : d.IsClosed (d.condition p) := by
  have hand (depth : Nat) :
      walk separates (depth + 1) (d.lexemesOf (.words " AND ")) = some (depth + 1) := by
    rw [lexemesOf_words (by decide)]
    rfl
  have hor (depth : Nat) :
      walk separates (depth + 1) (d.lexemesOf (.words " OR ")) = some (depth + 1) := by
    rw [lexemesOf_words (by decide)]
    rfl
  have htest (column : Column) {op : String} (hop : IsFlat op) (value : Literal) :
      d.IsClosed [.name column.name, .words op, d.literal value] :=
    (d.isClosed_name column.name).append ((d.isClosed_words hop).append (d.isClosed_literal value))
  induction p using Predicate.induction with
  | compare column op value => exact htest column (by cases op <;> decide) value
  | between column low high negated =>
    have hopening : d.lexemesOf (.words "(") = [.mark '('] := lexemesOf_words (by decide)
    have htests {below connective above : String} (hbelow : IsFlat below)
        (hconnective : ∀ depth,
          walk separates (depth + 1) (d.lexemesOf (.words connective)) = some (depth + 1))
        (habove : IsFlat above) :
        d.IsClosed (.words "(" :: ([.name column.name, .words below, d.literal low]
          ++ .words connective :: [.name column.name, .words above, d.literal high])
          ++ [.words ")"]) := by
      refine isClosed_enclosed (fun depth => ?_) fun depth => ?_
      · simp [hopening, walk, depthBehind, separates, isComma, joins, beginsClause]
      · rw [List.flatMap_append, (htest column hbelow low).walk_append, List.flatMap_cons,
          walk_append, hconnective, Option.bind_some]
        exact htest column habove high (depth + 1)
    cases negated with
    | true => exact htests (by decide : IsFlat " < ") hor (by decide)
    | false => exact htests (by decide : IsFlat " >= ") hand (by decide)
  | inList column values negated =>
    have hopening (depth : Nat) :
        walk separates depth (d.lexemesOf (.words (if negated then " NOT IN (" else " IN (")))
          = some (depth + 1) := by
      have hwords : d.lexemesOf (.words (if negated then " NOT IN (" else " IN ("))
          = if negated then [.word "NOT", .word "IN", .mark '('] else [.word "IN", .mark '('] := by
        cases negated <;> exact lexemesOf_words (by decide)
      rw [hwords]
      cases negated <;>
        simp [walk, depthBehind, separates, isComma, joins, beginsClause, clauseWords]
    have hvalues : ∀ part ∈ values.map fun v => [d.literal v], d.IsClosed part :=
      List.forall_mem_map.2 fun v _ => d.isClosed_literal v
    refine (d.isClosed_name column.name).append (isClosed_enclosed hopening fun depth => ?_)
    refine walk_separated ?_ hvalues
    simp [lexemesOf_comma, walk, depthBehind]
  | isNull column negated =>
    exact (d.isClosed_name column.name).append
      (d.isClosed_words (by cases negated <;> decide))
  | any parts ih =>
    rw [condition, Condition.conditions_eq]
    exact isClosed_joined hor false (List.forall_mem_map.2 ih)
  | all parts ih =>
    rw [condition, Condition.conditions_eq]
    exact isClosed_joined hand true (List.forall_mem_map.2 ih)
  | constant value => exact d.isClosed_words (by cases value <;> decide)

/-- The words of an expression are closed. -/
theorem isClosed_expression (projection : Projection) : d.IsClosed (d.expression projection) := by
  have hname (column : Column) : d.IsClosed [.name column.name] := d.isClosed_name column.name
  cases projection with
  | column column level =>
    cases level with
    | none => exact hname column
    | some level =>
      simp only [expression, columnExpression]
      split
      · exact isClosed_term (hname column) _
      · exact hname column
  | aggregate column aggregation =>
    cases aggregation with
    | sum | min | max | count | distinctCount =>
      refine isClosed_enclosed (fun depth => ?_) fun depth => hname column _
      rw [lexemesOf_words (by decide)]
      cases depth <;> rfl
  | rowCount =>
    intro depth
    rw [expression, List.flatMap_singleton, lexemesOf_words (by decide)]
    cases depth <;> rfl
  | unit => exact d.isClosed_words (by decide)

theorem isClosed_selectItem (placed : Projection × Nat) : d.IsClosed (d.selectItem placed) :=
  (d.isClosed_expression placed.1).append
    ((d.isClosed_words (by decide)).append (d.isClosed_name (placeName placed.2)))

/-! ## The clauses of a statement -/

variable {d} in
/-- Between words that stop stand the parts that they were put between. -/
theorem parts_separated {stop : Lexeme → Bool} {between : String} {l : Lexeme}
    (hbetween : d.lexemesOf (.words between) = [l])
    (hl : stop l = true ∧ l ≠ .mark '(' ∧ l ≠ .mark ')') {parts : List Fragments}
    (hne : parts ≠ []) (h : ∀ part ∈ parts, Lexeme.IsClosed stop (part.flatMap d.lexemesOf)) :
    Lexeme.parts stop ((Fragment.separated between parts).flatMap d.lexemesOf)
      = parts.map (·.flatMap d.lexemesOf) := by
  fun_induction Fragment.separated between parts with
  | case1 => exact absurd rfl hne
  | case2 part => exact (h part List.mem_cons_self).parts_eq
  | case3 part rest hrest ih =>
    obtain ⟨hpart, hparts⟩ := List.forall_mem_cons.1 h
    have hlater := ih (fun hnil => hrest hnil) hparts
    rw [Lexeme.parts] at hlater ⊢
    rw [List.flatMap_append, List.flatMap_cons, hbetween, List.singleton_append,
      hpart.sections_append, sections_cons hl.1 hl.2.1 hl.2.2]
    simpa using hlater

variable {d} in
theorem items_separated {parts : List Fragments} (hne : parts ≠ [])
    (h : ∀ part ∈ parts, d.IsClosed part) :
    items ((Fragment.separated ", " parts).flatMap d.lexemesOf)
      = parts.map (·.flatMap d.lexemesOf) :=
  parts_separated d.lexemesOf_comma (by decide) hne fun part hpart => (h part hpart).of_separates.1

/-- A name of a table is closed. -/
theorem isClosed_tableName (dataset : String) : d.IsClosed (tableName dataset) := by
  have hpoint : d.IsClosed [.words "."] := d.isClosed_words (by decide)
  rw [IsClosed, List.flatMap_singleton] at hpoint
  exact fun depth => walk_separated (hpoint depth)
    (List.forall_mem_map.2 fun part _ => d.isClosed_name part)

/-- The expressions that a statement groups by. -/
def groupExpressions (plan : Plan) : List Fragments :=
  if plan.pushdown then d.columnExpressions plan else []

theorem isClosed_groupExpressions (plan : Plan) :
    ∀ part ∈ d.groupExpressions plan, d.IsClosed part := by
  unfold groupExpressions
  split
  · exact List.forall_mem_map.2 fun projection _ => d.isClosed_expression projection
  · exact List.forall_mem_nil _

variable {d} in
/-- A clause is read up to the one behind it, if it is there. -/
theorem sections_clause {keyword between first : String} {more : List Lexeme}
    (hkeyword : d.lexemesOf (.words keyword) = .word first :: more)
    (hfirst : clauseWords.contains first = true) (hmore : Lexeme.IsClosed beginsClause more)
    (hbetween : Lexeme.IsClosed beginsClause (d.lexemesOf (.words between)))
    {parts : List Fragments} (hparts : ∀ part ∈ parts, d.IsClosed part) {rest : List Lexeme}
    {clauses : List (Lexeme × List Lexeme)} (hrest : sections beginsClause 0 rest = ([], clauses)) :
    sections beginsClause 0 ((clause keyword between parts).flatMap d.lexemesOf ++ rest)
      = ([], (if parts.isEmpty then []
          else [(.word first, more ++ (Fragment.separated between parts).flatMap d.lexemesOf)])
            ++ clauses) := by
  unfold clause
  split
  · exact hrest
  · have hlist : Lexeme.IsClosed beginsClause
        ((Fragment.separated between parts).flatMap d.lexemesOf) := fun depth =>
      walk_separated (hbetween depth) fun part hpart => (hparts part hpart).of_separates.2.1
    rw [List.flatMap_cons, hkeyword, List.cons_append, List.cons_append,
      Lexeme.sections_clause hfirst (hmore.append hlist) hrest, List.singleton_append]

end

end Dialect

namespace Clauses

/-- The clauses that a plan's statement is put together from. -/
def ofPlan (d : Dialect) (plan : Plan) : Clauses where
  items := plan.placed.map fun placed =>
    ((d.expression placed.1).flatMap d.lexemesOf, placeName placed.2)
  table := (Dialect.tableName plan.datasetName).flatMap d.lexemesOf
  condition :=
    if (d.conditions plan.predicates).isEmpty then none
    else some ((Fragment.separated " AND " (d.conditions plan.predicates)).flatMap d.lexemesOf)
  groupBy := (d.groupExpressions plan).map fun part => part.flatMap d.lexemesOf

open Lexeme

variable (d : Dialect)

theorem selectList?_placed (placed : List (Projection × Nat)) :
    selectList? ((Fragment.separated ", " (placed.map d.selectItem)).flatMap d.lexemesOf)
      = some (placed.map fun placed =>
          ((d.expression placed.1).flatMap d.lexemesOf, placeName placed.2)) := by
  cases placed with
  | nil => rfl
  | cons first rest =>
    have hitem (placed : Projection × Nat) :
        aliased? ((d.selectItem placed).flatMap d.lexemesOf)
          = some ((d.expression placed.1).flatMap d.lexemesOf, placeName placed.2) := by
      have has : d.lexemesOf (.words " AS ") = [.word "AS"] := Dialect.lexemesOf_words (by decide)
      rw [Dialect.selectItem, List.flatMap_append, List.flatMap_cons, has, List.flatMap_singleton]
      exact aliased?_append _ _ _
    have hclosed : ∀ part ∈ (first :: rest).map d.selectItem, d.IsClosed part :=
      List.forall_mem_map.2 fun placed _ => d.isClosed_selectItem placed
    have hparts : (first :: rest).map d.selectItem ≠ [] := List.cons_ne_nil _ _
    have hitems := Dialect.items_separated hparts hclosed
    have hne : ((Fragment.separated ", " ((first :: rest).map d.selectItem)).flatMap
        d.lexemesOf).isEmpty = false := by
      rw [List.isEmpty_eq_false_iff]
      intro hnil
      rw [hnil] at hitems
      have hfirst : [] = (d.selectItem first).flatMap d.lexemesOf := (List.cons.inj hitems).1
      have hread := hitem first
      rw [← hfirst] at hread
      cases hread
    rw [selectList?, hne, hitems, List.map_map, List.mapM_map]
    have hread : aliased? ∘ ((fun part => part.flatMap d.lexemesOf) ∘ d.selectItem)
        = fun placed => pure ((d.expression placed.1).flatMap d.lexemesOf, placeName placed.2) :=
      funext hitem
    rw [hread, List.mapM_pure]
    rfl

/-- The clauses of a plan's statement, in order. -/
def sectionsOf (plan : Plan) : List (Lexeme × List Lexeme) :=
  (.word "SELECT", (Fragment.separated ", " (plan.placed.map d.selectItem)).flatMap d.lexemesOf)
    :: (.word "FROM", (Dialect.tableName plan.datasetName).flatMap d.lexemesOf)
    :: ((if (d.conditions plan.predicates).isEmpty then []
        else [(.word "WHERE",
          (Fragment.separated " AND " (d.conditions plan.predicates)).flatMap d.lexemesOf)])
      ++ if (d.groupExpressions plan).isEmpty then []
        else [(.word "GROUP", .word "BY"
          :: (Fragment.separated ", " (d.groupExpressions plan)).flatMap d.lexemesOf)])

theorem sections_statement (plan : Plan) :
    sections beginsClause 0 ((d.statement plan).flatMap d.lexemesOf)
      = ([], sectionsOf d plan) := by
  have hselect : d.lexemesOf (.words "SELECT ") = [.word "SELECT"] :=
    Dialect.lexemesOf_words (by decide)
  have hfrom : d.lexemesOf (.words " FROM ") = [.word "FROM"] :=
    Dialect.lexemesOf_words (by decide)
  have hwhere : d.lexemesOf (.words " WHERE ") = [.word "WHERE"] :=
    Dialect.lexemesOf_words (by decide)
  have hgroup : d.lexemesOf (.words " GROUP BY ") = [.word "GROUP", .word "BY"] :=
    Dialect.lexemesOf_words (by decide)
  have hflat {l : Lexeme} (hl : beginsClause l = false ∧ l ≠ .mark '(' ∧ l ≠ .mark ')') :
      Lexeme.IsClosed beginsClause [l] := isClosed_singleton hl.1 hl.2.1 hl.2.2
  have hcomma : Lexeme.IsClosed beginsClause (d.lexemesOf (.words ", ")) := by
    rw [d.lexemesOf_comma]
    exact hflat (by decide)
  have hand : Lexeme.IsClosed beginsClause (d.lexemesOf (.words " AND ")) := by
    rw [Dialect.lexemesOf_words (by decide)]
    exact hflat (by decide)
  have hconditions : ∀ part ∈ d.conditions plan.predicates, d.IsClosed part := by
    rw [Condition.conditions_eq]
    exact List.forall_mem_map.2 fun p _ => d.isClosed_condition p
  have hitems : Lexeme.IsClosed beginsClause
      ((Fragment.separated ", " (plan.placed.map d.selectItem)).flatMap d.lexemesOf) :=
    fun depth => Dialect.walk_separated (hcomma depth)
      (List.forall_mem_map.2 fun placed _ => (d.isClosed_selectItem placed).of_separates.2.1)
  -- Each clause is read up to the one behind it, so they are read from the last one on.
  have hgroups := Dialect.sections_clause hgroup (by decide) (hflat (by decide)) hcomma
    (d.isClosed_groupExpressions plan) (sections_nil beginsClause 0)
  have hwheres := Dialect.sections_clause hwhere (by decide) isClosed_nil hand hconditions hgroups
  have htable := Lexeme.sections_clause (by decide : clauseWords.contains "FROM" = true)
    (d.isClosed_tableName plan.datasetName).of_separates.2.1 hwheres
  have hall := Lexeme.sections_clause (by decide : clauseWords.contains "SELECT" = true) hitems
    htable
  simp only [List.append_nil, List.nil_append, List.singleton_append] at hall
  rw [sectionsOf, ← hall, Dialect.statement, ← Dialect.groupExpressions]
  simp only [List.cons_append, List.append_assoc, List.flatMap_cons, List.flatMap_append, hselect,
    hfrom, List.nil_append]

/-- The clauses of a plan's statement are read off its text. -/
theorem read?_statement (plan : Plan) :
    read? d (d.render (d.statement plan)) = some (ofPlan d plan) := by
  have hselect : (sectionsOf d plan).lookup (.word "SELECT")
      = some ((Fragment.separated ", " (plan.placed.map d.selectItem)).flatMap d.lexemesOf) := rfl
  have hfrom : (sectionsOf d plan).lookup (.word "FROM") = some (ofPlan d plan).table := rfl
  have hwhere : (sectionsOf d plan).lookup (.word "WHERE") = (ofPlan d plan).condition := by
    unfold sectionsOf ofPlan
    cases (d.conditions plan.predicates).isEmpty with
    | true => cases (d.groupExpressions plan).isEmpty <;> rfl
    | false => rfl
  have hgroup : groupList? ((sectionsOf d plan).lookup (.word "GROUP"))
      = some (ofPlan d plan).groupBy := by
    unfold sectionsOf ofPlan
    cases hexpressions : d.groupExpressions plan with
    | nil => cases (d.conditions plan.predicates).isEmpty <;> rfl
    | cons first rest =>
      have hclosed := d.isClosed_groupExpressions plan
      rw [hexpressions] at hclosed
      have hitems := Dialect.items_separated (List.cons_ne_nil first rest) hclosed
      cases (d.conditions plan.predicates).isEmpty <;> exact congrArg some hitems
  rw [read?, d.lexemes?_statement]
  simp only [Option.bind_eq_bind, Option.bind_some, sections_statement, hselect, hfrom, hwhere,
    hgroup, selectList?_placed]
  rfl

end Clauses

end Pushdown
