import Pushdown.Proofs.Relational.Conditions
import Pushdown.Proofs.Relational.PageClause
import Pushdown.Proofs.Relational.Quotes

/-!
# Statements are legible

`Dialect.Legible` is that the text of some fragments is split by its quotes into the tokens of the
fragments: each name and each text is one quoted token, and what quotes the words hold around the
instants and units they are made of are closed in the same words. Fragments that are legible on
their own are legible together when plain words stand between them, since plain words neither begin
with a quote that could double the one before them nor end with a mark of the one behind them.
`Dialect.legible_statement` follows the statement of a plan part by part.
-/

namespace Pushdown

namespace Dialect

/-! ## Texts without quotes -/

theorem unmarked_empty : Unmarked "" := by decide

theorem unmarked_append {s t : String} : Unmarked (s ++ t) ↔ Unmarked s ∧ Unmarked t := by
  simp [Unmarked, or_imp, forall_and]

theorem unmarked_ofList {cs : List Char} {s : String} (hs : Unmarked s)
    (hcs : ∀ c ∈ cs, c ∈ s.toList) : Unmarked (String.ofList cs) := by
  intro c hc
  rw [String.toList_ofList] at hc
  exact hs c (hcs c hc)

theorem unmarked_of_isDigit {s : String} (hs : ∀ c ∈ s.toList, c.isDigit) : Unmarked s := by
  intro c hc hmark
  have hplain : ∀ mark ∈ quoteMarks, mark.isDigit = false := by simp [quoteMarks]
  exact absurd (hs c hc) (by simp [hplain c hmark])

theorem unmarked_repr (n : Nat) : Unmarked (toString n) :=
  unmarked_of_isDigit fun _ hc => PageWindow.isDigit_of_mem_repr hc

theorem unmarked_int (k : Int) : Unmarked (toString k) := by
  cases k with
  | ofNat n => exact unmarked_repr n
  | negSucc n => exact unmarked_append.2 ⟨by decide, unmarked_repr (n + 1)⟩

theorem unmarked_zeros (n : Nat) : Unmarked (Layout.zeros n) := by
  refine unmarked_of_isDigit fun c hc => ?_
  rw [Layout.zeros, String.toList_ofList] at hc
  rw [List.eq_of_mem_replicate hc]
  decide

/-- A number that is written without an exponent. -/
theorem unmarked_positionalText {digits : String} (h : Unmarked digits) (exponent : Int) :
    Unmarked (Layout.positionalText "" digits exponent) := by
  have hzero : Unmarked "0." := by decide
  have hpoint : Unmarked "." := by decide
  unfold Layout.positionalText
  split
  · simp only [unmarked_append, h, unmarked_zeros, unmarked_empty, and_self]
  · simp only
    split
    · refine unmarked_append.2 ⟨unmarked_append.2 ⟨?_, hpoint⟩, ?_⟩
      · exact unmarked_ofList h fun _ => List.mem_of_mem_take
      · exact unmarked_ofList h fun _ => List.mem_of_mem_drop
    · simp only [unmarked_append, h, unmarked_zeros, hzero, and_self]

theorem unmarked_numberText (x : Binary64) : Unmarked (numberText x) := by
  unfold numberText
  split
  · exact unmarked_int _
  · cases x with
    | finite negative m e =>
      exact unmarked_append.2
        ⟨by cases negative <;> decide, unmarked_positionalText (unmarked_repr _) _⟩
    | infinite negative => cases negative <;> decide
    | nan => decide

theorem unmarked_padded (width n : Nat) : Unmarked (Instant.padded width n) :=
  unmarked_append.2 ⟨unmarked_zeros _, unmarked_repr n⟩

theorem unmarked_yearText (year : Int) : Unmarked (Instant.yearText year) := by
  unfold Instant.yearText
  split
  · exact unmarked_padded _ _
  · exact unmarked_append.2 ⟨by split <;> decide, unmarked_padded _ _⟩

theorem unmarked_stamp {separator : String} (h : Unmarked separator) (t : Instant) :
    Unmarked (t.stamp separator) := by
  have hdash : Unmarked "-" := by decide
  have hcolon : Unmarked ":" := by decide
  have hpoint : Unmarked "." := by decide
  simp only [Instant.stamp, Instant.dateText, Instant.timeText, unmarked_append, unmarked_yearText,
    unmarked_padded, hdash, hcolon, hpoint, h, and_self]

theorem unmarked_unitName (d : Dialect) (level : DateLevel) : Unmarked (d.unitName level) := by
  cases d with
  | mySql =>
    have hupper : Unmarked (String.ofList (level.name.toList.map Char.toUpper)) := by
      cases level <;> decide
    rwa [Unmarked, String.toList_ofList, ← String.toList_map] at hupper
  | postgres | sqlServer => cases level <;> decide

theorem unmarked_intercalate {between : String} (hbetween : Unmarked between)
    {parts : List String} (h : ∀ part ∈ parts, Unmarked part) :
    Unmarked (between.intercalate parts) := by
  induction parts with
  | nil => exact unmarked_empty
  | cons part rest ih =>
    obtain ⟨hpart, hrest⟩ := List.forall_mem_cons.1 h
    cases rest with
    | nil => rwa [String.intercalate_singleton]
    | cons part' rest =>
      rw [String.intercalate_cons_cons]
      exact unmarked_append.2 ⟨unmarked_append.2 ⟨hpart, hbetween⟩, ih hrest⟩

theorem unmarked_orderClause {orderBy : List Nat} {order : String}
    (h : orderClause? orderBy = some order) : Unmarked order := by
  unfold orderClause? at h
  split at h
  · cases h
  · cases h
    refine unmarked_append.2 ⟨by decide, unmarked_intercalate (by decide) fun part hpart => ?_⟩
    obtain ⟨n, -, rfl⟩ := List.mem_map.1 hpart
    exact unmarked_repr n

/-- A page clause has no quotes, whatever it asks for. -/
theorem unmarked_pageClause (d : Dialect) (orderBy : List Nat) (limit offset : Nat) :
    Unmarked (d.pageClause orderBy limit offset) := by
  cases d with
  | sqlServer =>
    have horder : Unmarked ((orderClause? orderBy).getD "ORDER BY (SELECT NULL)") := by
      cases h : orderClause? orderBy with
      | none => decide
      | some order => exact unmarked_orderClause h
    simp only [pageClause, unmarked_append, unmarked_repr, horder, and_true]
    decide
  | mySql | postgres =>
    refine unmarked_append.2 ⟨unmarked_append.2 ⟨unmarked_append.2 ⟨unmarked_append.2
      ⟨?_, by decide⟩, unmarked_repr _⟩, by decide⟩, unmarked_repr _⟩
    split
    · next h => exact unmarked_append.2 ⟨by decide, unmarked_orderClause h⟩
    · exact unmarked_empty

/-! ## Legible fragments -/

/-- A token that a dialect writes of itself: what is not quoted, the instants and the units. -/
def IsFixed (d : Dialect) : Token → Prop
  | .code c => c ∉ quoteMarks
  | .quoted quote s => quote = .single ∧ (s = "1900-01-01" ∨ (∃ level, s = d.unitName level)
      ∨ ∃ t : Instant, s = t.stamp " " ∨ s = t.stamp "T")

/-- The tokens of a fragment. -/
def tokensOf (d : Dialect) : Fragment → List Token
  | .words w => (d.tokens? w).getD []
  | .name s => [.quoted d.nameQuote s]
  | .text s => [.quoted d.textQuote s]

/-- Fragments whose text is split into the tokens of each. -/
structure Legible (d : Dialect) (fs : Fragments) : Prop where
  reads : d.Reads (d.render fs).toList (fs.flatMap d.tokensOf)
  fixed : ∀ w, .words w ∈ fs → ∀ token ∈ d.tokensOf (.words w), d.IsFixed token

/-- Words without quotes that neither double the quote before them nor mark the one behind. -/
def IsPlain (w : String) : Prop :=
  w ≠ "" ∧ Unmarked w ∧ w.toList.getLast? ≠ some 'N'

instance (w : String) : Decidable (IsPlain w) := inferInstanceAs (Decidable (_ ∧ _ ∧ _))

theorem IsPlain.append_left {v w : String} (h : IsPlain w) (hv : Unmarked v) :
    IsPlain (v ++ w) := by
  obtain ⟨hne, hw, hlast⟩ := h
  refine ⟨fun h => hne (String.append_eq_empty_iff.1 h).2, unmarked_append.2 ⟨hv, hw⟩, ?_⟩
  have hcs : w.toList ≠ [] := fun h => hne (String.toList_eq_nil_iff.1 h)
  rw [String.toList_append, List.getLast?_append]
  rwa [List.getLast?_eq_some_getLast hcs] at hlast ⊢

section
variable {d : Dialect} {fs gs : Fragments} {w : String} {tokens : List Token}

@[simp] theorem render_nil (d : Dialect) : d.render [] = "" := rfl

@[simp] theorem render_cons (d : Dialect) (f : Fragment) (fs : Fragments) :
    d.render (f :: fs) = d.renderFragment f ++ d.render fs := by
  simp [render, String.join_cons]

@[simp] theorem render_append (d : Dialect) (fs gs : Fragments) :
    d.render (fs ++ gs) = d.render fs ++ d.render gs := by
  simp [render, String.join_append]

theorem legible_nil (d : Dialect) : d.Legible [] :=
  ⟨fun rest _ => by simp, nofun⟩

theorem legible_name (d : Dialect) (s : String) : d.Legible [.name s] :=
  ⟨by simpa [renderFragment, tokensOf] using d.reads_quoteName s, by simp⟩

theorem legible_text (d : Dialect) (s : String) : d.Legible [.text s] :=
  ⟨by simpa [renderFragment, tokensOf] using d.reads_quoteText s, by simp⟩

/-- Words that are read as some tokens have these tokens. -/
theorem Reads.tokensOf_words (h : d.Reads w.toList tokens) : d.tokensOf (.words w) = tokens := by
  rw [tokensOf, tokens?, h.split?, Option.getD_some]

theorem legible_words (h : d.Reads w.toList tokens) (hfixed : ∀ token ∈ tokens, d.IsFixed token) :
    d.Legible [.words w] := by
  refine ⟨?_, fun w' hw' => ?_⟩
  · simpa [renderFragment, h.tokensOf_words] using h
  · obtain rfl : w' = w := by simpa using hw'
    rwa [h.tokensOf_words]

theorem isFixed_code (hw : Unmarked w) : ∀ token ∈ w.toList.map .code, d.IsFixed token := by
  intro token htoken
  obtain ⟨c, hc, rfl⟩ := List.mem_map.1 htoken
  exact hw c hc

theorem legible_unmarked (hw : Unmarked w) : d.Legible [.words w] :=
  legible_words (reads_words hw) (isFixed_code hw)

/-- Legible fragments are legible together if the second ones stand apart. -/
theorem Legible.append (h : d.Legible fs) (h' : d.Legible gs)
    (hapart : ∀ rest, Apart rest → Apart ((d.render gs).toList ++ rest)) :
    d.Legible (fs ++ gs) := by
  refine ⟨?_, fun w hw => (List.mem_append.1 hw).elim (h.fixed w) (h'.fixed w)⟩
  rw [render_append, String.toList_append, List.flatMap_append]
  exact h.reads.append h'.reads hapart

/-- So are words that are read whatever follows, and what follows them. -/
theorem Legible.cons (h : d.ReadsBefore w.toList tokens)
    (hfixed : ∀ token ∈ tokens, d.IsFixed token) (hfs : d.Legible fs) :
    d.Legible (.words w :: fs) := by
  have hw := legible_words h.reads hfixed
  refine ⟨?_, fun w' hw' => ?_⟩
  · rw [render_cons, String.toList_append, List.flatMap_cons, h.reads.tokensOf_words]
    exact h.append_reads hfs.reads
  · rcases List.mem_cons.1 hw' with heq | hmem
    · exact hw.fixed w' (heq ▸ List.mem_singleton_self _)
    · exact hfs.fixed w' hmem

theorem Legible.words_cons (hw : IsPlain w) (h : d.Legible fs) : d.Legible (.words w :: fs) :=
  .cons (readsBefore_words hw.2.1 hw.2.2) (isFixed_code hw.2.1) h

/-- Words that begin with no quote stand apart from what is before them. -/
theorem apart_append (hne : w ≠ "") (hw : Unmarked w) (rest : List Char) :
    Apart (w.toList ++ rest) := by
  cases hcs : w.toList with
  | nil => exact absurd (String.toList_eq_nil_iff.1 hcs) hne
  | cons c cs => exact apart_cons (hw c (hcs ▸ List.mem_cons_self)) _

theorem apart_words (hne : w ≠ "") (hw : Unmarked w) (rest : List Char) :
    Apart ((d.render (.words w :: fs)).toList ++ rest) := by
  rw [render_cons, renderFragment, String.toList_append, List.append_assoc]
  exact apart_append hne hw _

/-- Legible fragments with plain words between them. -/
theorem Legible.append_words (h : d.Legible fs) (hw : IsPlain w) (h' : d.Legible gs) :
    d.Legible (fs ++ .words w :: gs) :=
  h.append (.words_cons hw h') fun rest _ => apart_words hw.1 hw.2.1 rest

/-- Legible fragments with a text without quotes behind them. -/
theorem Legible.append_unmarked (h : d.Legible fs) (hne : w ≠ "") (hw : Unmarked w) :
    d.Legible (fs ++ [.words w]) :=
  h.append (legible_unmarked hw) fun rest _ => apart_words hne hw rest

theorem legible_separated (hw : IsPlain w) {parts : List Fragments}
    (h : ∀ part ∈ parts, d.Legible part) : d.Legible (Fragment.separated w parts) := by
  fun_induction Fragment.separated w parts with
  | case1 => exact d.legible_nil
  | case2 part => exact h part List.mem_cons_self
  | case3 part rest _ ih =>
    obtain ⟨hpart, hrest⟩ := List.forall_mem_cons.1 h
    exact hpart.append_words hw (ih hrest)

/-- A clause behind legible fragments. -/
theorem Legible.append_clause (h : d.Legible fs) {keyword between : String}
    (hkeyword : IsPlain keyword) (hbetween : IsPlain between) {parts : List Fragments}
    (hparts : ∀ part ∈ parts, d.Legible part) : d.Legible (fs ++ clause keyword between parts) := by
  unfold clause
  split
  · rwa [List.append_nil]
  · exact h.append_words hkeyword (legible_separated hbetween hparts)

end

/-! ## The parts of a statement -/

section
variable (d : Dialect)

/-- A text without quotes between single ones. -/
theorem reads_singleQuoted {s : String} (hs : Unmarked s) :
    d.Reads ("'" ++ s ++ "'").toList [.quoted .single s] := by
  have hchars : ("'" ++ s ++ "'").toList = '\'' :: (s.toList ++ ['\'']) := by simp
  rw [hchars]
  exact reads_single hs

/-- A text without quotes between single ones, with words before it. -/
theorem reads_enclosed {before s : String} (hbefore : IsPlain before) (hs : Unmarked s) :
    d.Reads (before ++ "'" ++ s ++ "'").toList
      (before.toList.map .code ++ [.quoted .single s]) := by
  rw [String.append_assoc, String.append_assoc, String.toList_append, ← String.append_assoc]
  exact (readsBefore_words hbefore.2.1 hbefore.2.2).append_reads (d.reads_singleQuoted hs)

/-- A text without quotes between single ones, with words on both sides. -/
theorem readsBefore_enclosed {before s after : String} (hbefore : IsPlain before)
    (hs : Unmarked s) (hafter : IsPlain after) :
    d.ReadsBefore (before ++ "'" ++ s ++ "'" ++ after).toList
      (before.toList.map .code ++ [.quoted .single s] ++ after.toList.map .code) := by
  rw [String.toList_append]
  exact (d.reads_enclosed hbefore hs).append_before
    (readsBefore_words hafter.2.1 hafter.2.2) fun rest => apart_append hafter.1 hafter.2.1 rest

theorem isFixed_enclosed {before s : String} (hbefore : Unmarked before)
    (hs : d.IsFixed (.quoted .single s)) :
    ∀ token ∈ before.toList.map .code ++ [.quoted .single s], d.IsFixed token :=
  List.forall_mem_append.2 ⟨isFixed_code hbefore, by simpa using hs⟩

theorem isFixed_stamp_blank (t : Instant) : d.IsFixed (.quoted .single (t.stamp " ")) :=
  ⟨rfl, .inr (.inr ⟨t, .inl rfl⟩)⟩

theorem isFixed_stamp_mark (t : Instant) : d.IsFixed (.quoted .single (t.stamp "T")) :=
  ⟨rfl, .inr (.inr ⟨t, .inr rfl⟩)⟩

/-- An instant is words around one quoted text. -/
theorem legible_instant (t : Instant) : d.Legible [.words (d.instantText t)] := by
  have hblank : Unmarked (t.stamp " ") := unmarked_stamp (by decide) t
  have hmark : Unmarked (t.stamp "T") := unmarked_stamp (by decide) t
  cases d with
  | mySql =>
    have htext : mySql.instantText t = "'" ++ t.stamp " " ++ "'" := rfl
    rw [htext]
    exact legible_words (mySql.reads_singleQuoted hblank)
      (List.forall_mem_singleton.2 (isFixed_stamp_blank _ t))
  | postgres =>
    have htext : postgres.instantText t = "TIMESTAMP " ++ "'" ++ t.stamp " " ++ "'" := rfl
    have hwords : IsPlain "TIMESTAMP " := by decide
    rw [htext]
    exact legible_words (postgres.reads_enclosed hwords hblank)
      (postgres.isFixed_enclosed hwords.2.1 (isFixed_stamp_blank _ t))
  | sqlServer =>
    have hquotes (s : String) : "CONVERT(datetime2, '" ++ s ++ "', 126)"
        = "CONVERT(datetime2, " ++ "'" ++ s ++ "'" ++ ", 126)" := by
      rw [← String.toList_inj]
      simp
    have htext : sqlServer.instantText t
        = "CONVERT(datetime2, " ++ "'" ++ t.stamp "T" ++ "'" ++ ", 126)" := hquotes _
    have hwords : IsPlain "CONVERT(datetime2, " := by decide
    rw [htext]
    exact legible_words (sqlServer.readsBefore_enclosed hwords hmark (by decide)).reads
      (List.forall_mem_append.2 ⟨sqlServer.isFixed_enclosed hwords.2.1 (isFixed_stamp_mark _ t),
        isFixed_code (by decide)⟩)

theorem legible_literal (value : Literal) : d.Legible [d.literal value] := by
  cases value with
  | number x => exact legible_unmarked (unmarked_numberText x)
  | text s => exact d.legible_text s
  | bool b => exact legible_unmarked (by cases d <;> cases b <;> decide)
  | timestamp t => exact d.legible_instant t

/-- The origin of a computation is a number or one quoted text. -/
theorem legible_origin (column : Fragments) : d.Legible (d.term column .origin) := by
  have hquoted : d.Legible [.words "'1900-01-01'"] := by
    have hday : Unmarked "1900-01-01" := by decide
    have hreads : d.Reads "'1900-01-01'".toList [.quoted .single "1900-01-01"] :=
      reads_single hday
    exact legible_words hreads (List.forall_mem_singleton.2 ⟨rfl, .inl rfl⟩)
  cases d with
  | mySql | postgres => exact hquoted
  | sqlServer => exact legible_unmarked (by decide)

variable {d} in
/-- A term over a legible column. -/
theorem legible_term {column : Fragments} (hcolumn : d.Legible column) (t : InstantTerm) :
    d.Legible (d.term column t) := by
  induction t with
  | column => exact hcolumn
  | origin => exact d.legible_origin column
  | midnight t ih =>
    exact (ih.words_cons (by decide)).append_words (by decide) d.legible_nil
  | dayBefore t ih =>
    exact (ih.words_cons (by decide)).append_words (by decide) d.legible_nil
  | advance level base start stop ihbase ihstart ihstop =>
    have hunit := d.unmarked_unitName level
    have hcomma : IsPlain ", " := by decide
    cases d with
    | sqlServer =>
      have hhead : Unmarked ("DATEADD(" ++ sqlServer.unitName level ++ ", DATEDIFF("
          ++ sqlServer.unitName level) := by
        simp only [unmarked_append, hunit, and_true]
        decide
      exact (((ihstart.words_cons (hcomma.append_left hhead)).append_words hcomma
        ihstop).append_words (by decide) ihbase).append_words (by decide) (legible_nil _)
    | mySql | postgres =>
      have hhead := unmarked_append.2 ⟨(by decide : Unmarked ", INTERVAL TIMESTAMPDIFF("), hunit⟩
      have hlast := unmarked_append.2 ⟨(by decide : Unmarked ") "), hunit⟩
      exact (((ihbase.words_cons (by decide)).append_words (hcomma.append_left hhead)
        ihstart).append_words hcomma ihstop).append_words
          (.append_left (by decide) hlast) (legible_nil _)
  | truncated level =>
    have hunit := d.unmarked_unitName level
    have htext : "date_trunc('" ++ d.unitName level ++ "', "
        = "date_trunc(" ++ "'" ++ d.unitName level ++ "'" ++ ", " := by
      rw [← String.toList_inj]
      simp
    have hwords : IsPlain "date_trunc(" := by decide
    have hfixed : d.IsFixed (.quoted .single (d.unitName level)) := ⟨rfl, .inr (.inl ⟨level, rfl⟩)⟩
    rw [term, htext]
    exact (Legible.cons (d.readsBefore_enclosed hwords hunit (by decide))
      (List.forall_mem_append.2 ⟨d.isFixed_enclosed hwords.2.1 hfixed, isFixed_code (by decide)⟩)
      hcolumn).append_words (by decide) d.legible_nil

theorem legible_constant (b : Bool) : d.Legible [.words (constantText b)] :=
  legible_unmarked (by cases b <;> decide)

theorem legible_joined {connective : String} (hconnective : IsPlain connective)
    (empty : Bool) {parts : List Fragments} (h : ∀ part ∈ parts, d.Legible part) :
    d.Legible (joined connective empty parts) := by
  match parts, h with
  | [], _ => exact d.legible_constant empty
  | [part], h => exact h part List.mem_cons_self
  | part :: part' :: rest, h =>
    exact ((legible_separated hconnective h).words_cons (by decide)).append_words (by decide)
      d.legible_nil

theorem legible_condition (p : Predicate) : d.Legible (d.condition p) := by
  have hname (column : Column) : d.Legible [.name column.name] := d.legible_name column.name
  have hliteral := d.legible_literal
  induction p using Predicate.induction with
  | compare column op value =>
    exact (hname column).append_words (by cases op <;> decide) (hliteral value)
  | between column low high negated =>
    cases negated with
    | true | false =>
      exact (((((hname column).append_words (by decide) (hliteral low)).append_words (by decide)
        (hname column)).append_words (by decide) (hliteral high)).append_words (by decide)
          d.legible_nil).words_cons (by decide)
  | inList column values negated =>
    have hvalues : d.Legible (Fragment.separated ", " (values.map fun v => [d.literal v])) :=
      legible_separated (by decide) (List.forall_mem_map.2 fun v _ => hliteral v)
    exact ((hname column).append_words (by cases negated <;> decide) hvalues).append_words
      (by decide) d.legible_nil
  | isNull column negated =>
    exact (hname column).append_words (by cases negated <;> decide) d.legible_nil
  | any parts ih | all parts ih =>
    rw [condition, Condition.conditions_eq]
    exact d.legible_joined (by decide) _ (List.forall_mem_map.2 ih)
  | constant value => exact d.legible_constant value

theorem legible_expression (projection : Projection) : d.Legible (d.expression projection) := by
  have hname (column : Column) : d.Legible [.name column.name] := d.legible_name column.name
  cases projection with
  | column column level =>
    cases level with
    | none => exact hname column
    | some level =>
      simp only [expression, columnExpression]
      split
      · exact legible_term (hname column) _
      · exact hname column
  | aggregate column aggregation =>
    cases aggregation with
    | sum | min | max | count | distinctCount =>
      exact ((hname column).words_cons (by decide)).append_words (by decide) d.legible_nil
  | rowCount | unit => exact legible_unmarked (by decide)

theorem legible_selectItem (placed : Projection × Nat) : d.Legible (d.selectItem placed) :=
  (d.legible_expression placed.1).append_words (by decide) (d.legible_name _)

theorem legible_tableName (dataset : String) : d.Legible (tableName dataset) :=
  legible_separated (by decide) (List.forall_mem_map.2 fun part _ => d.legible_name part)

/-- The statement of a plan is legible. -/
theorem legible_statement (plan : Plan) : d.Legible (d.statement plan) := by
  have hitems : ∀ part ∈ plan.placed.map d.selectItem, d.Legible part :=
    List.forall_mem_map.2 fun placed _ => d.legible_selectItem placed
  have hconditions : ∀ part ∈ d.conditions plan.predicates, d.Legible part := by
    rw [Condition.conditions_eq]
    exact List.forall_mem_map.2 fun p _ => d.legible_condition p
  have hgroups : ∀ part ∈ if plan.pushdown then d.columnExpressions plan else [],
      d.Legible part := by
    split
    · exact List.forall_mem_map.2 fun projection _ => d.legible_expression projection
    · exact List.forall_mem_nil _
  have hselect := (legible_separated (by decide : IsPlain ", ") hitems).words_cons
    (by decide : IsPlain "SELECT ")
  exact ((hselect.append_words (by decide) (d.legible_tableName plan.datasetName)).append_clause
    (by decide) (by decide) hconditions).append_clause (by decide) (by decide) hgroups

/-- So is the statement of a page of it. -/
theorem legible_page (plan : Plan) (orderBy : List Nat) (limit offset : Nat) :
    d.Legible (d.statement plan ++ [.words (d.pageClause orderBy limit offset)]) := by
  refine (d.legible_statement plan).append_unmarked ?_ (d.unmarked_pageClause _ _ _)
  intro h
  have hwords := PageWindow.pageClause_eq d ⟨orderBy, limit, offset⟩
  exact absurd (String.append_eq_empty_iff.1 (hwords.symm.trans h)).1 (by decide)

end

end Dialect

end Pushdown
