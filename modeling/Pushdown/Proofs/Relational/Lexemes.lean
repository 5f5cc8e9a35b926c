import Pushdown.Proofs.Relational.Legible

/-!
# The words of a statement

`Dialect.lexemes?` splits the text of a statement into its words, its quoted tokens and its
punctuation. It is a reader of its own: it knows the quotes of a dialect, blanks, parentheses and
commas, and not how a statement is put together.

The words of a statement are those of its fragments one after the other, as long as no word goes on
from one fragment into the next (`Dialect.Spaced`). `Dialect.spaced_statement` follows the statement
of a plan part by part, as `Dialect.legible_statement` does, so that its words can be told from its
fragments (`Dialect.lexemes?_statement`).
-/

namespace Pushdown

/-- A word of a statement, as far as its quotes, its blanks and its punctuation tell. -/
inductive Lexeme where
  | word (s : String)
  /-- What stands between quotes, decoded. -/
  | quoted (quote : Quote) (s : String)
  /-- A parenthesis or a comma. -/
  | mark (c : Char)
  deriving DecidableEq, Repr, Inhabited

namespace Lexeme

/-- Whether a character is a word of its own. -/
def isMark (c : Char) : Bool := c = '(' || c = ')' || c = ','

/-- Whether no word goes on over a character. -/
def endsWord (c : Char) : Bool := c.isWhitespace || isMark c

/-- The word that has been read so far, if there is one. -/
def ofRead (word : List Char) : List Lexeme :=
  if word.isEmpty then [] else [.word (String.ofList word)]

/-- The words of some tokens, in the middle of a word. -/
def scan (word : List Char) : List Token → List Lexeme
  | [] => ofRead word
  | .quoted quote s :: rest => ofRead word ++ .quoted quote s :: scan [] rest
  | .code c :: rest =>
    if c.isWhitespace then ofRead word ++ scan [] rest
    else if isMark c then ofRead word ++ .mark c :: scan [] rest
    else scan (word ++ [c]) rest

/-- The words of some tokens. -/
def ofTokens (tokens : List Token) : List Lexeme := scan [] tokens

/-- The words of a text without quotes. -/
def ofWords (w : String) : List Lexeme := ofTokens (w.toList.map .code)

/-! ## Where a word ends -/

/-- No word goes on at the token, whether it is code or quoted. -/
def EndsAt : Token → Prop
  | .code c => endsWord c = true
  | .quoted .. => True

/-- No word goes on into some tokens. -/
def BeginsApart (tokens : List Token) : Prop := ∀ token ∈ tokens.head?, EndsAt token

/-- No word goes on from some tokens. -/
def StopsApart (tokens : List Token) : Prop := ∀ token ∈ tokens.getLast?, EndsAt token

variable {tokens tokens' : List Token}

theorem scan_of_beginsApart (h : BeginsApart tokens) (word : List Char) :
    scan word tokens = ofRead word ++ ofTokens tokens := by
  cases tokens with
  | nil => exact (List.append_nil _).symm
  | cons token rest =>
    have hends : EndsAt token := h token rfl
    cases token with
    | quoted quote s => rfl
    | code c =>
      rw [ofTokens, scan, scan]
      split
      · rfl
      · split
        · rfl
        · next hblank hmark =>
          have hends : endsWord c = true := hends
          simp [endsWord, hblank, hmark] at hends

theorem scan_append (h : BeginsApart tokens') (word : List Char) :
    scan word (tokens ++ tokens') = scan word tokens ++ ofTokens tokens' := by
  induction tokens generalizing word with
  | nil => exact scan_of_beginsApart h word
  | cons token rest ih =>
    cases token with
    | quoted quote s => simp [scan, ih]
    | code c =>
      simp only [List.cons_append, scan, ih]
      split
      · rw [List.append_assoc]
      · split
        · rw [List.append_assoc, List.cons_append]
        · rfl

theorem ofTokens_append (h : StopsApart tokens ∨ BeginsApart tokens') :
    ofTokens (tokens ++ tokens') = ofTokens tokens ++ ofTokens tokens' := by
  by_cases hbegins : BeginsApart tokens'
  · exact scan_append hbegins []
  · have hstops : StopsApart tokens := h.resolve_right hbegins
    cases hlast : tokens.getLast? with
    | none =>
      rw [List.getLast?_eq_none_iff.1 hlast]
      rfl
    | some token =>
      obtain ⟨before, rfl⟩ := List.getLast?_eq_some_iff.1 hlast
      have hends : EndsAt token := hstops token hlast
      have hcons (rest : List Token) : BeginsApart (token :: rest) := by
        intro token' htoken'
        cases htoken'
        exact hends
      have htoken : ofTokens (token :: tokens') = ofTokens [token] ++ ofTokens tokens' := by
        cases token with
        | quoted quote s => rfl
        | code c =>
          have hends : endsWord c = true := hends
          simp only [ofTokens, scan]
          split
          · rfl
          · split
            · rfl
            · next hblank hmark => simp [endsWord, hblank, hmark] at hends
      have hbefore (rest : List Token) :
          ofTokens (before ++ token :: rest) = ofTokens before ++ ofTokens (token :: rest) :=
        scan_append (hcons rest) []
      rw [List.append_assoc, List.singleton_append, hbefore, hbefore, htoken, List.append_assoc]

/-- Characters that no word ends at make one word. -/
theorem ofWords_eq_word {w : String} (hne : w ≠ "") (hw : ∀ c ∈ w.toList, endsWord c = false) :
    ofWords w = [.word w] := by
  have hscan (word cs : List Char) (hcs : ∀ c ∈ cs, endsWord c = false) :
      scan word (cs.map .code) = ofRead (word ++ cs) := by
    induction cs generalizing word with
    | nil => rw [List.append_nil]; rfl
    | cons c cs ih =>
      obtain ⟨hc, hcs⟩ := List.forall_mem_cons.1 hcs
      have hnot : c.isWhitespace = false ∧ isMark c = false := by
        simpa [endsWord] using hc
      rw [List.map_cons, scan, if_neg (by simp [hnot.1]), if_neg (by simp [hnot.2]), ih _ hcs,
        List.append_assoc, List.singleton_append]
  have hread : ofRead w.toList = [.word w] := by
    rw [ofRead, if_neg (by simpa using hne), String.ofList_toList]
  rw [ofWords, ofTokens, hscan [] w.toList hw, List.nil_append, hread]

end Lexeme

namespace Dialect

open Lexeme (ofTokens ofWords endsWord EndsAt BeginsApart StopsApart)

/-- The words of a text. -/
def lexemes? (d : Dialect) (text : String) : Option (List Lexeme) :=
  (d.tokens? text).map ofTokens

/-- The words of a fragment. -/
def lexemesOf (d : Dialect) (f : Fragment) : List Lexeme := ofTokens (d.tokensOf f)

/-- Fragments of which no word goes on into the next one. -/
def Spaced (d : Dialect) (fs : Fragments) : Prop :=
  ofTokens (fs.flatMap d.tokensOf) = fs.flatMap d.lexemesOf

section
variable {d : Dialect} {fs gs : Fragments} {w : String}

@[simp] theorem lexemesOf_name (d : Dialect) (s : String) :
    d.lexemesOf (.name s) = [.quoted d.nameQuote s] := rfl

@[simp] theorem lexemesOf_text (d : Dialect) (s : String) :
    d.lexemesOf (.text s) = [.quoted d.textQuote s] := rfl

theorem tokensOf_words (hw : Unmarked w) : d.tokensOf (.words w) = w.toList.map .code :=
  (reads_words hw).tokensOf_words

theorem lexemesOf_words (hw : Unmarked w) : d.lexemesOf (.words w) = ofWords w := by
  rw [lexemesOf, tokensOf_words hw, ofWords]

/-- The words of legible fragments. -/
theorem Legible.lexemes? (h : d.Legible fs) (hspaced : d.Spaced fs) :
    d.lexemes? (d.render fs) = some (fs.flatMap d.lexemesOf) := by
  rw [Dialect.lexemes?, tokens?, h.reads.split?, Option.map_some, hspaced]

/-! ## Spaced fragments -/

theorem spaced_nil (d : Dialect) : d.Spaced [] := rfl

theorem spaced_singleton (d : Dialect) (f : Fragment) : d.Spaced [f] := by
  rw [Spaced, List.flatMap_singleton, List.flatMap_singleton, lexemesOf]

theorem Spaced.append (h : d.Spaced fs) (h' : d.Spaced gs)
    (hapart : StopsApart (fs.flatMap d.tokensOf) ∨ BeginsApart (gs.flatMap d.tokensOf)) :
    d.Spaced (fs ++ gs) := by
  rw [Spaced, List.flatMap_append, Lexeme.ofTokens_append hapart, h, h', List.flatMap_append]

/-- Words without quotes that no word goes on into. -/
def BeginsLoose (w : String) : Prop := Unmarked w ∧ w.toList.head?.any endsWord

/-- Words without quotes that no word goes on from. -/
def StopsLoose (w : String) : Prop := Unmarked w ∧ w.toList.getLast?.any endsWord

instance (w : String) : Decidable (BeginsLoose w) := inferInstanceAs (Decidable (_ ∧ _))

instance (w : String) : Decidable (StopsLoose w) := inferInstanceAs (Decidable (_ ∧ _))

theorem BeginsLoose.beginsApart (hw : BeginsLoose w) :
    BeginsApart ((.words w :: fs : Fragments).flatMap d.tokensOf) := by
  obtain ⟨c, hhead, hends⟩ := (Option.any_eq_true ..).1 hw.2
  intro token htoken
  rw [List.flatMap_cons, tokensOf_words hw.1] at htoken
  obtain ⟨cs, hcs⟩ := List.head?_eq_some_iff.1 hhead
  rw [hcs] at htoken
  cases htoken
  exact hends

theorem StopsLoose.stopsApart (hw : StopsLoose w) : StopsApart (d.tokensOf (.words w)) := by
  obtain ⟨c, hlast, hends⟩ := (Option.any_eq_true ..).1 hw.2
  intro token htoken
  rw [tokensOf_words hw.1, List.getLast?_map, hlast] at htoken
  cases htoken
  exact hends

theorem Spaced.words_cons (hw : StopsLoose w) (h : d.Spaced fs) : d.Spaced (.words w :: fs) :=
  (d.spaced_singleton (.words w)).append h (.inl (by simpa using hw.stopsApart))

/-- Spaced fragments with words between them that no word goes on into or from. -/
theorem Spaced.append_words (h : d.Spaced fs) (hbegins : BeginsLoose w) (hstops : StopsLoose w)
    (h' : d.Spaced gs) : d.Spaced (fs ++ .words w :: gs) :=
  h.append (h'.words_cons hstops) (.inr hbegins.beginsApart)

/-- Spaced fragments with words behind them that no word goes on into. -/
theorem Spaced.append_last (h : d.Spaced fs) (hw : BeginsLoose w) :
    d.Spaced (fs ++ [.words w]) :=
  h.append (d.spaced_singleton _) (.inr hw.beginsApart)

theorem spaced_separated (hbegins : BeginsLoose w) (hstops : StopsLoose w)
    {parts : List Fragments} (h : ∀ part ∈ parts, d.Spaced part) :
    d.Spaced (Fragment.separated w parts) := by
  fun_induction Fragment.separated w parts with
  | case1 => exact d.spaced_nil
  | case2 part => exact h part List.mem_cons_self
  | case3 part rest _ ih =>
    obtain ⟨hpart, hrest⟩ := List.forall_mem_cons.1 h
    exact hpart.append_words hbegins hstops (ih hrest)

theorem Spaced.append_clause (h : d.Spaced fs) {keyword between : String}
    (hkeyword : BeginsLoose keyword ∧ StopsLoose keyword)
    (hbetween : BeginsLoose between ∧ StopsLoose between) {parts : List Fragments}
    (hparts : ∀ part ∈ parts, d.Spaced part) : d.Spaced (fs ++ clause keyword between parts) := by
  unfold clause
  split
  · rwa [List.append_nil]
  · exact h.append_words hkeyword.1 hkeyword.2 (spaced_separated hbetween.1 hbetween.2 hparts)

theorem BeginsLoose.append (hw : BeginsLoose w) {v : String} (hv : Unmarked v) :
    BeginsLoose (w ++ v) := by
  obtain ⟨hunmarked, hhead⟩ := hw
  refine ⟨unmarked_append.2 ⟨hunmarked, hv⟩, ?_⟩
  rw [String.toList_append, List.head?_append]
  cases h : w.toList.head? with
  | none => rw [h] at hhead; cases hhead
  | some c => rwa [h] at hhead

theorem StopsLoose.append (hw : StopsLoose w) {v : String} (hv : Unmarked v) :
    StopsLoose (v ++ w) := by
  obtain ⟨hunmarked, hlast⟩ := hw
  refine ⟨unmarked_append.2 ⟨hv, hunmarked⟩, ?_⟩
  rw [String.toList_append, List.getLast?_append]
  cases h : w.toList.getLast? with
  | none => rw [h] at hlast; cases hlast
  | some c => rwa [h] at hlast

end

/-! ## The words of literals -/

/-- Whether a character stands in numerals. -/
def isNumeric (c : Char) : Bool := c.isDigit || c = '.' || c = '-'

theorem isNumeric_of_endsWord {c : Char} (h : endsWord c = true) : ¬ isNumeric c := by
  simp only [endsWord, Lexeme.isMark, Char.isWhitespace, Bool.or_eq_true, decide_eq_true_eq] at h
  rcases h with (((rfl | rfl) | rfl) | rfl) | (rfl | rfl) | rfl <;> decide

theorem isNumeric_repr (n : Nat) : ∀ c ∈ (toString n).toList, isNumeric c := by
  intro c hc
  simp [isNumeric, PageWindow.isDigit_of_mem_repr hc]

theorem isNumeric_zeros (n : Nat) : ∀ c ∈ (Layout.zeros n).toList, isNumeric c := by
  intro c hc
  rw [Layout.zeros, String.toList_ofList] at hc
  rw [List.eq_of_mem_replicate hc]
  decide

theorem isNumeric_positionalText {digits : String} (h : ∀ c ∈ digits.toList, isNumeric c)
    (exponent : Int) : ∀ c ∈ (Layout.positionalText "" digits exponent).toList, isNumeric c := by
  have hzero : ∀ c ∈ "0.".toList, isNumeric c := List.all_eq_true.1 (by decide)
  have hpoint : ∀ c ∈ ".".toList, isNumeric c := List.all_eq_true.1 (by decide)
  unfold Layout.positionalText
  split
  · simp only [String.toList_append, List.forall_mem_append]
    exact ⟨⟨h, isNumeric_zeros _⟩, List.forall_mem_nil _⟩
  · simp only
    split
    · simp only [String.toList_append, String.toList_ofList, List.forall_mem_append]
      exact ⟨⟨fun c hc => h c (List.mem_of_mem_take hc), hpoint⟩,
        fun c hc => h c (List.mem_of_mem_drop hc)⟩
    · simp only [String.toList_append, List.forall_mem_append]
      exact ⟨⟨hzero, isNumeric_zeros _⟩, h⟩

theorem positionalText_ne_empty {digits : String} (h : digits ≠ "") (exponent : Int) :
    Layout.positionalText "" digits exponent ≠ "" := by
  unfold Layout.positionalText
  split
  · simp [h]
  · simp only
    split <;> simp

theorem repr_ne_empty (n : Nat) : toString n ≠ "" := by
  intro h
  have hread := PageWindow.numeral?_repr n
  have hrepr : n.repr = "" := h
  rw [hrepr] at hread
  cases hread

/-- A numeral is a word of digits, points and signs, or stands for something beyond all numbers. -/
theorem numberText_cases (x : Binary64) :
    numberText x ∈ ["inf", "-inf", "NaN"]
      ∨ numberText x ≠ "" ∧ ∀ c ∈ (numberText x).toList, isNumeric c := by
  unfold numberText
  split
  · refine .inr ?_
    cases x.truncate with
    | ofNat n => exact ⟨repr_ne_empty n, isNumeric_repr n⟩
    | negSucc n =>
      have htext : toString (Int.negSucc n) = "-" ++ toString (n + 1) := rfl
      rw [htext, String.toList_append, List.forall_mem_append]
      exact ⟨by simp, List.all_eq_true.1 (by decide), isNumeric_repr (n + 1)⟩
  · cases x with
    | finite negative m e =>
      have htext : Layout.statement.text (.finite negative m e)
          = (if negative then "-" else "")
            ++ Layout.positionalText "" (toString (Binary64.shortest .up m e).digits)
              (Binary64.shortest .up m e).exponent := rfl
      rw [htext, String.toList_append, List.forall_mem_append]
      have hsign : ∀ c ∈ (if negative then "-" else "").toList, isNumeric c :=
        List.all_eq_true.1 (by cases negative <;> decide)
      refine .inr ⟨?_, hsign, isNumeric_positionalText (isNumeric_repr _) _⟩
      have hne := positionalText_ne_empty (repr_ne_empty (Binary64.shortest .up m e).digits)
        (Binary64.shortest .up m e).exponent
      exact fun h => hne (String.append_eq_empty_iff.1 h).2
    | infinite negative => cases negative <;> exact .inl (by decide)
    | nan => exact .inl (by decide)

/-- A numeral is no word with another character. -/
theorem numberText_ne {x : Binary64} {w : String} (hw : w ∉ ["inf", "-inf", "NaN"])
    (hother : w.toList.all isNumeric = false) : numberText x ≠ w := by
  rintro rfl
  rcases numberText_cases x with hspecial | ⟨-, hnumeric⟩
  · exact hw hspecial
  · rw [List.all_eq_true.2 hnumeric] at hother
    cases hother

theorem lexemesOf_number (d : Dialect) (x : Binary64) :
    d.lexemesOf (.words (numberText x)) = [.word (numberText x)] := by
  rw [lexemesOf_words (unmarked_numberText x)]
  rcases numberText_cases x with hspecial | ⟨hne, hnumeric⟩
  · simp only [List.mem_cons, List.not_mem_nil, or_false] at hspecial
    rcases hspecial with h | h | h <;> rw [h] <;> rfl
  · refine Lexeme.ofWords_eq_word hne fun c hc => Bool.eq_false_iff.2 fun hends => ?_
    exact isNumeric_of_endsWord hends (hnumeric c hc)

theorem lexemesOf_bool (d : Dialect) (b : Bool) :
    d.lexemesOf (.words (d.boolText b)) = [.word (d.boolText b)] := by
  cases d <;> cases b <;> exact lexemesOf_words (by decide)

/-- The words of an instant: one quoted text with what the dialect writes around it. -/
def instantLexemes (d : Dialect) (t : Instant) : List Lexeme :=
  match d with
  | .mySql => [.quoted .single (t.stamp " ")]
  | .postgres => [.word "TIMESTAMP", .quoted .single (t.stamp " ")]
  | .sqlServer =>
    [ .word "CONVERT", .mark '(', .word "datetime2", .mark ',', .quoted .single (t.stamp "T"),
      .mark ',', .word "126", .mark ')' ]

theorem lexemesOf_instant (d : Dialect) (t : Instant) :
    d.lexemesOf (.words (d.instantText t)) = d.instantLexemes t := by
  have hblank : Unmarked (t.stamp " ") := unmarked_stamp (by decide) t
  have hmark : Unmarked (t.stamp "T") := unmarked_stamp (by decide) t
  cases d with
  | mySql =>
    have htext : mySql.instantText t = "'" ++ t.stamp " " ++ "'" := rfl
    rw [htext, lexemesOf, (mySql.reads_singleQuoted hblank).tokensOf_words]
    rfl
  | postgres =>
    have htext : postgres.instantText t = "TIMESTAMP " ++ "'" ++ t.stamp " " ++ "'" := rfl
    rw [htext, lexemesOf, (postgres.reads_enclosed (by decide) hblank).tokensOf_words]
    rfl
  | sqlServer =>
    have hquotes (s : String) : "CONVERT(datetime2, '" ++ s ++ "', 126)"
        = "CONVERT(datetime2, " ++ "'" ++ s ++ "'" ++ ", 126)" := by
      rw [← String.toList_inj]
      simp
    have htext : sqlServer.instantText t
        = "CONVERT(datetime2, " ++ "'" ++ t.stamp "T" ++ "'" ++ ", 126)" := hquotes _
    have hbefore : IsPlain "CONVERT(datetime2, " := by decide
    have hafter : IsPlain ", 126)" := by decide
    have htokens := (sqlServer.readsBefore_enclosed hbefore hmark hafter).reads.tokensOf_words
    rw [htext, lexemesOf, htokens]
    rfl

/-! ## The parts of a statement -/

section
variable (d : Dialect)

/-- The tokens of the call of a dialect's own function. -/
theorem tokensOf_dateTrunc (level : DateLevel) :
    d.tokensOf (.words ("date_trunc('" ++ d.unitName level ++ "', "))
      = "date_trunc(".toList.map .code ++ [.quoted .single (d.unitName level)]
        ++ ", ".toList.map .code := by
  have htext : "date_trunc('" ++ d.unitName level ++ "', "
      = "date_trunc(" ++ "'" ++ d.unitName level ++ "'" ++ ", " := by
    rw [← String.toList_inj]
    simp
  rw [htext]
  exact (d.readsBefore_enclosed (by decide) (d.unmarked_unitName level)
    (by decide)).reads.tokensOf_words

/-- A term over a spaced column. -/
theorem spaced_term {column : Fragments} (hcolumn : d.Spaced column) (t : InstantTerm) :
    d.Spaced (d.term column t) := by
  have hcomma : BeginsLoose ", " ∧ StopsLoose ", " := by decide
  induction t with
  | column => exact hcolumn
  | origin => cases d <;> exact spaced_singleton _ _
  | midnight t ih => exact (ih.words_cons (by decide)).append_last (by decide)
  | dayBefore t ih => exact (ih.words_cons (by decide)).append_last (by decide)
  | advance level base start stop ihbase ihstart ihstop =>
    have hunit := d.unmarked_unitName level
    cases d with
    | sqlServer =>
      have hhead : Unmarked ("DATEADD(" ++ sqlServer.unitName level ++ ", DATEDIFF("
          ++ sqlServer.unitName level) := by
        simp only [unmarked_append, hunit, and_true]
        decide
      exact (((ihstart.words_cons (hcomma.2.append hhead)).append_words hcomma.1 hcomma.2
        ihstop).append_words (by decide) (by decide) ihbase).append_last (by decide)
    | mySql | postgres =>
      have hhead := unmarked_append.2 ⟨(by decide : Unmarked ", INTERVAL TIMESTAMPDIFF("), hunit⟩
      have hbegins : BeginsLoose (", INTERVAL TIMESTAMPDIFF(" ++ _) :=
        BeginsLoose.append (by decide) hunit
      have hlast : BeginsLoose (") " ++ _) := BeginsLoose.append (by decide) hunit
      exact (((ihbase.words_cons (by decide)).append_words (hbegins.append (by decide))
        (hcomma.2.append hhead) ihstart).append_words hcomma.1 hcomma.2 ihstop).append_last
          (hlast.append (by decide))
  | truncated level =>
    have hwords :
        StopsApart (d.tokensOf (.words ("date_trunc('" ++ d.unitName level ++ "', "))) := by
      rw [tokensOf_dateTrunc]
      intro token htoken
      rw [List.getLast?_append] at htoken
      cases htoken
      rfl
    exact ((d.spaced_singleton _).append hcolumn (.inl (by simpa using hwords))).append_last
      (by decide)

theorem spaced_joined {connective : String}
    (hconnective : BeginsLoose connective ∧ StopsLoose connective) (empty : Bool)
    {parts : List Fragments} (h : ∀ part ∈ parts, d.Spaced part) :
    d.Spaced (joined connective empty parts) := by
  match parts, h with
  | [], _ => exact d.spaced_singleton _
  | [part], h => exact h part List.mem_cons_self
  | part :: part' :: rest, h =>
    exact ((spaced_separated hconnective.1 hconnective.2 h).words_cons (by decide)).append_last
      (by decide)

theorem spaced_condition (p : Predicate) : d.Spaced (d.condition p) := by
  have hname (column : Column) : d.Spaced [.name column.name] := d.spaced_singleton _
  have hliteral (value : Literal) : d.Spaced [d.literal value] := d.spaced_singleton _
  induction p using Predicate.induction with
  | compare column op value =>
    exact (hname column).append_words (by cases op <;> decide) (by cases op <;> decide)
      (hliteral value)
  | between column low high negated =>
    cases negated with
    | true | false =>
      exact (((((hname column).append_words (by decide) (by decide) (hliteral low)).append_words
        (by decide) (by decide) (hname column)).append_words (by decide) (by decide)
          (hliteral high)).append_last (by decide)).words_cons (by decide)
  | inList column values negated =>
    have hvalues : d.Spaced (Fragment.separated ", " (values.map fun v => [d.literal v])) :=
      spaced_separated (by decide) (by decide) (List.forall_mem_map.2 fun v _ => hliteral v)
    exact ((hname column).append_words (by cases negated <;> decide)
      (by cases negated <;> decide) hvalues).append_last (by decide)
  | isNull column negated => exact (hname column).append_last (by cases negated <;> decide)
  | any parts ih | all parts ih =>
    rw [condition, Condition.conditions_eq]
    exact d.spaced_joined (by decide) _ (List.forall_mem_map.2 ih)
  | constant value => exact d.spaced_singleton _

theorem spaced_expression (projection : Projection) : d.Spaced (d.expression projection) := by
  have hname (column : Column) : d.Spaced [.name column.name] := d.spaced_singleton _
  cases projection with
  | column column level =>
    cases level with
    | none => exact hname column
    | some level =>
      simp only [expression, columnExpression]
      split
      · exact d.spaced_term (hname column) _
      · exact hname column
  | aggregate column aggregation =>
    cases aggregation with
    | sum | min | max | count | distinctCount =>
      exact ((hname column).words_cons (by decide)).append_last (by decide)
  | rowCount | unit => exact d.spaced_singleton _

theorem spaced_selectItem (placed : Projection × Nat) : d.Spaced (d.selectItem placed) :=
  (d.spaced_expression placed.1).append_words (by decide) (by decide) (d.spaced_singleton _)

/-- The point between two names is a word of its own, since no word goes on into a quoted one. -/
theorem spaced_tableName (dataset : String) : d.Spaced (tableName dataset) := by
  have hparts (parts : List String) :
      d.Spaced (Fragment.separated "." (parts.map fun part => [.name part])) := by
    induction parts with
    | nil => exact d.spaced_nil
    | cons part parts ih =>
      cases parts with
      | nil => exact d.spaced_singleton _
      | cons part' parts =>
        have hquoted (s : String) (fs : Fragments) :
            BeginsApart ((.name s :: fs : Fragments).flatMap d.tokensOf) := by
          intro token htoken
          cases htoken
          trivial
        have hname : StopsApart (([.name part] : Fragments).flatMap d.tokensOf) := by
          intro token htoken
          cases htoken
          trivial
        have hpoint := (d.spaced_singleton (.words ".")).append ih (.inr ?_)
        · exact (d.spaced_singleton (.name part)).append hpoint (.inl hname)
        · cases parts <;> exact hquoted part' _
  exact hparts _

/-- The statement of a plan is spaced. -/
theorem spaced_statement (plan : Plan) : d.Spaced (d.statement plan) := by
  have hitems : ∀ part ∈ plan.placed.map d.selectItem, d.Spaced part :=
    List.forall_mem_map.2 fun placed _ => d.spaced_selectItem placed
  have hconditions : ∀ part ∈ d.conditions plan.predicates, d.Spaced part := by
    rw [Condition.conditions_eq]
    exact List.forall_mem_map.2 fun p _ => d.spaced_condition p
  have hgroups : ∀ part ∈ if plan.pushdown then d.columnExpressions plan else [],
      d.Spaced part := by
    split
    · exact List.forall_mem_map.2 fun projection _ => d.spaced_expression projection
    · exact List.forall_mem_nil _
  have hselect := (spaced_separated (by decide) (by decide : StopsLoose ", ") hitems).words_cons
    (by decide : StopsLoose "SELECT ")
  exact ((hselect.append_words (by decide) (by decide)
    (d.spaced_tableName plan.datasetName)).append_clause (by decide) (by decide)
      hconditions).append_clause (by decide) (by decide) hgroups

/-- The words of a statement are those of its fragments. -/
theorem lexemes?_statement (plan : Plan) :
    d.lexemes? (d.render (d.statement plan)) = some ((d.statement plan).flatMap d.lexemesOf) :=
  (d.legible_statement plan).lexemes? (d.spaced_statement plan)

end

end Dialect

end Pushdown
