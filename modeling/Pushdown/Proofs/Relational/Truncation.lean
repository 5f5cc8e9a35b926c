import Pushdown.Proofs.Calendar.Periods
import Pushdown.Proofs.Relational.Clauses

/-!
# The start of a period, computed

`InstantExpression.value?` reads the value of an expression off its words. It knows the functions of
the two dialects that have none to truncate an instant: `DATEADD` and `DATE_ADD` go a number of
units on (`Span.add`), `TIMESTAMPDIFF` counts the whole units between two moments, rounded towards
zero (`Span.whole`), `DATEDIFF` counts the starts of a unit that are passed between them, of weeks
the Sundays (`DateLevel.crossed`), and `CAST` to a date drops the time of day.

`Dialect.truncation_start` is what the computation of a dialect comes to.
-/

namespace Pushdown

open Moment

/-! ## The functions of a database -/

namespace Span

/-- The moment a number of units on. A day that the month does not have becomes the last that it
has. -/
def add (span : Span) (n t : Int) : Int :=
  match span with
  | .nanos length _ => t + n * length
  | .months count _ =>
    let m := month t + n * count
    let days : Int := Date.daysInMonth (m / 12) ((m % 12).toNat + 1)
    monthStart m + (min ((date t).day : Int) days - 1) * dayNanos + clock t

/-- The whole months from a moment to a later one. -/
def monthsUpTo (start stop : Int) : Int :=
  month stop - month start - if sinceMonth stop < sinceMonth start then 1 else 0

/-- The whole units from one moment to another, rounded towards zero. -/
def whole (span : Span) (start stop : Int) : Int :=
  match span with
  | .nanos length _ => (stop - start).tdiv length
  | .months count _ =>
    (if start ≤ stop then monthsUpTo start stop else -monthsUpTo stop start).tdiv count

end Span

namespace DateLevel

/-- The number of a unit, counted through all times. Weeks begin on Sunday. -/
def ordinal (level : DateLevel) (t : Int) : Int :=
  match level with
  | .week => (Moment.day t + 4) / 7
  | level => level.period t

/-- How often a unit begins between two moments. -/
def crossed (level : DateLevel) (start stop : Int) : Int :=
  level.ordinal stop - level.ordinal start

end DateLevel

namespace Moment

/-- 1 January 1900. -/
def origin : Int := ofDay (Date.toDays ⟨1900, 1, 1⟩)

/-- The start of a date that is written as year, month and day. -/
def ofText? (s : String) : Option Int :=
  match (Text.split '-' s).map fun part => Text.natOfDigits? part.toList with
  | [some year, some month, some day] => some (ofDay (Date.toDays ⟨year, month, day⟩))
  | _ => none

end Moment

/-! ## The value of an expression -/

namespace InstantExpression

open Lexeme

/-- The unit that a word names, in either case. -/
def unit? (w : String) : Option DateLevel :=
  DateLevel.ofName? (String.ofList (w.toList.map Char.toLower))

/-- What is counted between two moments, given how they are read. -/
def between? (read : List Lexeme → Option Int) (count : DateLevel → Int → Int → Int)
    (args : List Lexeme) : Option Int :=
  match items args with
  | [[.word unit], start, stop] => do return count (← unit? unit) (← read start) (← read stop)
  | _ => none

/-- The value of a count, given how moments are read. -/
def count? (read : List Lexeme → Option Int) : List Lexeme → Option Int
  | [.word "-1"] => some (-1)
  | .word "DATEDIFF" :: .mark '(' :: rest =>
    (enclosed? rest).bind (between? read DateLevel.crossed)
  | .word "TIMESTAMPDIFF" :: .mark '(' :: rest =>
    (enclosed? rest).bind (between? read fun level => level.span.whole)
  | _ => none

/-- The moment so many units on, given how moments are read. -/
def advanced? (read : List Lexeme → Option Int) (unit : String) (count base : List Lexeme) :
    Option Int := do
  return (← unit? unit).span.add (← count? read count) (← read base)

/-- The value of a cast, given how moments are read. -/
def cast? (read : List Lexeme → Option Int) (inner : List Lexeme) : Option Int :=
  match inner.reverse with
  | .word "DATE" :: .word "AS" :: expression => (read expression.reverse).map midnight
  | .word "DATETIME" :: .word "AS" :: expression => read expression.reverse
  | _ => none

section
variable (d : Dialect) (column : String → Option Int)

/-- The value of an expression, with so many parentheses within each other. -/
def valueWithin : Nat → List Lexeme → Option Int
  | 0, _ => none
  | depth + 1, ls =>
    match ls with
    | [.quoted quote s] => if quote = d.nameQuote then column s else ofText? s
    | [.word "0"] => some origin
    | .word "CAST" :: .mark '(' :: rest => (enclosed? rest).bind (cast? (valueWithin depth))
    | .word "DATEADD" :: .mark '(' :: rest => (enclosed? rest).bind fun args =>
      match items args with
      | [[.word unit], count, base] => advanced? (valueWithin depth) unit count base
      | _ => none
    | .word "DATE_ADD" :: .mark '(' :: rest => (enclosed? rest).bind fun args =>
      match items args with
      | [base, .word "INTERVAL" :: interval] =>
        match interval.reverse with
        | .word unit :: count => advanced? (valueWithin depth) unit count.reverse base
        | _ => none
      | _ => none
    | _ => none

/-- The value of the expression of a text, over a row that has a moment in each of its columns. -/
def value? (text : String) : Option Int :=
  (d.lexemes? text).bind fun ls => valueWithin d column (ls.length + 1) ls

end

/-! ## Reading calls -/

/-- The words of a call. -/
def call (name : String) (args : List Lexeme) : List Lexeme :=
  .word name :: .mark '(' :: (args ++ [.mark ')'])

/-- The words of a unit and two more arguments. -/
def unitArgs (unit : String) (second third : List Lexeme) : List Lexeme :=
  [.word unit] ++ .mark ',' :: (second ++ .mark ',' :: third)

/-- Words whose parentheses are closed. -/
abbrev IsBalanced (ls : List Lexeme) : Prop := IsClosed (fun _ => false) ls

/-- Words that are one item of a list. -/
abbrev IsItem (ls : List Lexeme) : Prop := IsClosed isComma ls

section
variable {ls first second third args count base : List Lexeme}

theorem IsItem.isBalanced (h : IsItem ls) : IsBalanced ls :=
  h.mono fun _ hl => absurd hl Bool.false_ne_true

theorem isItem_word (w : String) : IsItem [.word w] := isClosed_singleton rfl nofun nofun

/-- Words whose parentheses are closed are so within further ones, where nothing stops. -/
theorem walk_within {stop : Lexeme → Bool} {depth depth' : Nat}
    (h : walk (fun _ => false) depth ls = some depth') (outer : Nat) :
    walk stop (depth + (outer + 1)) ls = some (depth' + (outer + 1)) := by
  induction ls generalizing depth with
  | nil =>
    cases h
    rfl
  | cons l ls ih =>
    rw [walk] at h ⊢
    split at h
    · cases h
    · next hgo =>
      have hdepth : depthBehind (depth + (outer + 1)) l = depthBehind depth l + (outer + 1) := by
        unfold depthBehind
        split
        · omega
        · split
          · next hcloses =>
            have : depth ≠ 0 := fun h0 => hgo ⟨h0, .inr hcloses⟩
            omega
          · rfl
      rw [if_neg (by omega), hdepth]
      exact ih h

/-- A call is one item, whatever commas are between its arguments. -/
theorem isItem_call (name : String) (hargs : IsBalanced args) : IsItem (call name args) := by
  intro depth
  have hinner : walk isComma (depth + 1) args = some (depth + 1) := by
    simpa [Nat.add_comm] using walk_within (hargs 0) depth
  simp [call, walk, depthBehind, isComma, walk_append, hinner]

theorem isBalanced_comma : IsBalanced [.mark ','] := isClosed_singleton rfl (by decide) (by decide)

theorem items_append (hfirst : IsItem first) (rest : List Lexeme) :
    items (first ++ .mark ',' :: rest) = first :: items rest := by
  rw [items, parts, hfirst.sections_append, sections_cons rfl (by decide) (by decide)]
  simp [items, parts]

theorem isBalanced_unitArgs (unit : String) (hsecond : IsItem second) (hthird : IsItem third) :
    IsBalanced (unitArgs unit second third) :=
  (isItem_word unit).isBalanced.append (isBalanced_comma.append (hsecond.isBalanced.append
    (isBalanced_comma.append hthird.isBalanced)))

theorem items_unitArgs (unit : String) (hsecond : IsItem second) (hthird : IsItem third) :
    items (unitArgs unit second third) = [[.word unit], second, third] := by
  rw [unitArgs, items_append (isItem_word unit), items_append hsecond, items, hthird.parts_eq]

theorem enclosed?_of_isBalanced (h : IsBalanced args) :
    enclosed? (args ++ [.mark ')']) = some args :=
  enclosed?_append (h 0)

variable {read : List Lexeme → Option Int} {unit : String} {level : DateLevel} {n x y : Int}

/-- What is counted between two moments that are read. -/
theorem between?_eq (count : DateLevel → Int → Int → Int) (hunit : unit? unit = some level)
    (hsecond : IsItem second) (hthird : IsItem third) (hx : read second = some x)
    (hy : read third = some y) :
    between? read count (unitArgs unit second third)
      = some (count level x y) := by
  rw [between?, items_unitArgs unit hsecond hthird]
  simp [hunit, hx, hy]

theorem count?_datediff (h : IsBalanced args) :
    count? read (call "DATEDIFF" args) = between? read DateLevel.crossed args := by
  rw [call, count?, enclosed?_of_isBalanced h, Option.bind_some]

theorem count?_timestampdiff (h : IsBalanced args) :
    count? read (call "TIMESTAMPDIFF" args)
      = between? read (fun level => level.span.whole) args := by
  rw [call, count?, enclosed?_of_isBalanced h, Option.bind_some]

theorem advanced?_eq (hunit : unit? unit = some level) (hcount : count? read count = some n)
    (hbase : read base = some x) :
    advanced? read unit count base = some (level.span.add n x) := by
  rw [advanced?, hunit, hcount, hbase]
  rfl

theorem cast?_datetime (read : List Lexeme → Option Int) (ls : List Lexeme) :
    cast? read (ls ++ [.word "AS", .word "DATETIME"]) = read ls := by
  simp [cast?]

theorem cast?_date (read : List Lexeme → Option Int) (ls : List Lexeme) :
    cast? read (ls ++ [.word "AS", .word "DATE"]) = (read ls).map midnight := by
  simp [cast?]

variable {d : Dialect} {column : String → Option Int} {depth : Nat}

theorem valueWithin_cast (h : IsBalanced args) :
    valueWithin d column (depth + 1) (call "CAST" args)
      = cast? (valueWithin d column depth) args := by
  rw [call, valueWithin, enclosed?_of_isBalanced h, Option.bind_some]

theorem valueWithin_dateadd (hcount : IsItem count) (hbase : IsItem base) :
    valueWithin d column (depth + 1)
        (call "DATEADD" (unitArgs unit count base))
      = advanced? (valueWithin d column depth) unit count base := by
  rw [call, valueWithin, enclosed?_of_isBalanced (isBalanced_unitArgs unit hcount hbase),
    Option.bind_some, items_unitArgs unit hcount hbase]

theorem valueWithin_date_add (hcount : IsItem count) (hbase : IsItem base) :
    valueWithin d column (depth + 1)
        (call "DATE_ADD" (base ++ .mark ',' :: .word "INTERVAL" :: (count ++ [.word unit])))
      = advanced? (valueWithin d column depth) unit count base := by
  have hinterval : IsItem (.word "INTERVAL" :: (count ++ [.word unit])) :=
    (isItem_word "INTERVAL").append (hcount.append (isItem_word unit))
  have hargs : IsBalanced (base ++ .mark ',' :: .word "INTERVAL" :: (count ++ [.word unit])) :=
    hbase.isBalanced.append (isBalanced_comma.append hinterval.isBalanced)
  have hitems : items (base ++ .mark ',' :: .word "INTERVAL" :: (count ++ [.word unit]))
      = [base, .word "INTERVAL" :: (count ++ [.word unit])] := by
    rw [items_append hbase, items, hinterval.parts_eq]
  rw [call, valueWithin, enclosed?_of_isBalanced hargs, Option.bind_some, hitems]
  simp

end

/-! ## Reading terms -/

section
variable {d : Dialect} {column : String → Option Int} {name : String}

theorem unit?_unitName (hd : d ≠ .postgres) (level : DateLevel) :
    unit? (d.unitName level) = some level := by
  cases d with
  | postgres => exact absurd rfl hd
  | mySql =>
    have hupper : (Dialect.mySql.unitName level).toList = level.name.toList.map Char.toUpper :=
      String.toList_map
    rw [unit?, hupper]
    cases level <;> decide
  | sqlServer => cases level <;> decide

/-- The words of a term over a column. -/
def termWords (d : Dialect) (name : String) (t : InstantTerm) : List Lexeme :=
  (d.term [.name name] t).flatMap d.lexemesOf

theorem isItem_term (d : Dialect) (name : String) (t : InstantTerm) : IsItem (termWords d name t) :=
  (Dialect.isClosed_term (d.isClosed_name name) t : IsClosed separates _).of_separates.1

theorem termWords_midnight (d : Dialect) (name : String) (t : InstantTerm) :
    termWords d name (.midnight t)
      = call "CAST" (call "CAST" (termWords d name t ++ [.word "AS", .word "DATE"])
          ++ [.word "AS", .word "DATETIME"]) := by
  simp [termWords, Dialect.lexemes_midnight, call]

theorem termWords_dayBefore (d : Dialect) (name : String) (t : InstantTerm) :
    termWords d name (.dayBefore t)
      = call "DATEADD" (unitArgs "day" [.word "-1"] (termWords d name t)) := by
  simp [termWords, Dialect.lexemes_dayBefore, call, unitArgs]

theorem termWords_advance_sqlServer (name : String) (level : DateLevel)
    (base start stop : InstantTerm) :
    termWords .sqlServer name (.advance level base start stop)
      = call "DATEADD" (unitArgs (Dialect.sqlServer.unitName level)
          (call "DATEDIFF" (unitArgs (Dialect.sqlServer.unitName level)
            (termWords .sqlServer name start) (termWords .sqlServer name stop)))
          (termWords .sqlServer name base)) := by
  simp [termWords, Dialect.lexemes_advance_sqlServer, call, unitArgs]

theorem termWords_advance_mySql (name : String) (level : DateLevel)
    (base start stop : InstantTerm) :
    termWords .mySql name (.advance level base start stop)
      = call "DATE_ADD" (termWords .mySql name base ++ .mark ',' :: .word "INTERVAL"
          :: (call "TIMESTAMPDIFF" (unitArgs (Dialect.mySql.unitName level)
              (termWords .mySql name start) (termWords .mySql name stop))
            ++ [.word (Dialect.mySql.unitName level)])) := by
  simp [termWords, Dialect.lexemes_advance, call, unitArgs]

/-- A term is read as a moment, wherever it stands. -/
def Reads (d : Dialect) (column : String → Option Int) (name : String) (t : InstantTerm)
    (v : Int) : Prop :=
  ∀ depth, (termWords d name t).length < depth →
    valueWithin d column depth (termWords d name t) = some v

variable {t base start stop : InstantTerm} {v x y : Int}

theorem Reads.value? (h : Reads d column name t v) :
    InstantExpression.value? d column (d.render (d.term [.name name] t)) = some v := by
  have hlexemes := (Dialect.legible_term (d.legible_name name) t).lexemes?
    (d.spaced_term (d.spaced_singleton (.name name)) t)
  rw [InstantExpression.value?, hlexemes]
  exact h _ (Nat.lt_succ_self _)

theorem reads_column (h : column name = some x) : Reads d column name .column x := by
  intro depth hdepth
  obtain ⟨depth, rfl⟩ := Nat.exists_eq_succ_of_ne_zero (Nat.ne_zero_of_lt hdepth)
  have hwords : termWords d name .column = [.quoted d.nameQuote name] := rfl
  rw [hwords, valueWithin, if_pos rfl, h]

theorem reads_origin (hd : d ≠ .postgres) : Reads d column name .origin origin := by
  intro depth hdepth
  obtain ⟨depth, rfl⟩ := Nat.exists_eq_succ_of_ne_zero (Nat.ne_zero_of_lt hdepth)
  rw [termWords, Dialect.lexemes_origin]
  cases d with
  | postgres => exact absurd rfl hd
  | mySql => exact (by decide : ofText? "1900-01-01" = some origin)
  | sqlServer => rfl

theorem Reads.midnight (h : Reads d column name t x) :
    Reads d column name (.midnight t) (Moment.midnight x) := by
  intro depth hdepth
  have hpair (first second : String) : IsBalanced [.word first, .word second] :=
    (isItem_word first).isBalanced.append (isItem_word second).isBalanced
  have hdate : IsBalanced (termWords d name t ++ [.word "AS", .word "DATE"]) :=
    (isItem_term d name t).isBalanced.append (hpair _ _)
  rw [termWords_midnight] at hdepth ⊢
  simp only [call, List.length_cons, List.length_append] at hdepth
  obtain ⟨depth, rfl⟩ : ∃ n, depth = n + 2 := ⟨depth - 2, by omega⟩
  rw [valueWithin_cast ((isItem_call "CAST" hdate).isBalanced.append (hpair _ _)),
    cast?_datetime, valueWithin_cast hdate, cast?_date, h depth (by omega)]
  rfl

theorem Reads.dayBefore (h : Reads d column name t x) :
    Reads d column name (.dayBefore t) (DateLevel.day.span.add (-1) x) := by
  intro depth hdepth
  rw [termWords_dayBefore] at hdepth ⊢
  simp only [call, unitArgs, List.length_cons, List.length_append] at hdepth
  obtain ⟨depth, rfl⟩ : ∃ n, depth = n + 1 := ⟨depth - 1, by omega⟩
  rw [valueWithin_dateadd (isItem_word "-1") (isItem_term d name t)]
  exact advanced?_eq (by decide) rfl (h depth (by omega))

/-- `DATEADD` goes as many units on as `DATEDIFF` says are begun. -/
theorem Reads.advance_sqlServer (level : DateLevel) (hbase : Reads .sqlServer column name base v)
    (hstart : Reads .sqlServer column name start x) (hstop : Reads .sqlServer column name stop y) :
    Reads .sqlServer column name (.advance level base start stop)
      (level.span.add (level.crossed x y) v) := by
  intro depth hdepth
  have hunit := unit?_unitName (by decide : Dialect.sqlServer ≠ .postgres) level
  have hitem := isItem_term .sqlServer name
  have hargs := isBalanced_unitArgs (Dialect.sqlServer.unitName level) (hitem start) (hitem stop)
  rw [termWords_advance_sqlServer] at hdepth ⊢
  simp only [call, unitArgs, List.length_cons, List.length_append] at hdepth
  obtain ⟨depth, rfl⟩ : ∃ n, depth = n + 1 := ⟨depth - 1, by omega⟩
  rw [valueWithin_dateadd (isItem_call _ hargs) (hitem base)]
  refine advanced?_eq hunit ?_ (hbase depth (by omega))
  rw [count?_datediff hargs]
  exact between?_eq _ hunit (hitem start) (hitem stop) (hstart depth (by omega))
    (hstop depth (by omega))

/-- `DATE_ADD` goes as many units on as `TIMESTAMPDIFF` says are whole. -/
theorem Reads.advance_mySql (level : DateLevel) (hbase : Reads .mySql column name base v)
    (hstart : Reads .mySql column name start x) (hstop : Reads .mySql column name stop y) :
    Reads .mySql column name (.advance level base start stop)
      (level.span.add (level.span.whole x y) v) := by
  intro depth hdepth
  have hunit := unit?_unitName (by decide : Dialect.mySql ≠ .postgres) level
  have hitem := isItem_term .mySql name
  have hargs := isBalanced_unitArgs (Dialect.mySql.unitName level) (hitem start) (hitem stop)
  rw [termWords_advance_mySql] at hdepth ⊢
  simp only [call, unitArgs, List.length_cons, List.length_append] at hdepth
  obtain ⟨depth, rfl⟩ : ∃ n, depth = n + 1 := ⟨depth - 1, by omega⟩
  rw [valueWithin_date_add (isItem_call _ hargs) (hitem base)]
  refine advanced?_eq hunit ?_ (hbase depth (by omega))
  rw [count?_timestampdiff hargs]
  exact between?_eq _ hunit (hitem start) (hitem stop) (hstart depth (by omega))
    (hstop depth (by omega))

end

end InstantExpression

/-! ## Counting from the start of a period -/

namespace DateLevel

variable {level : DateLevel} {p x : Int}

theorem sinceMonth_monthStart (n : Int) : sinceMonth (monthStart n) = 0 := by
  have h := eq_monthStart_add (monthStart n)
  rw [month_monthStart] at h
  omega

/-- Going on from the start of a period leads to the start of a period. -/
theorem add_periodStart (level : DateLevel) (n p : Int) :
    level.span.add n (level.periodStart p) = level.periodStart (p + n) := by
  rw [periodStart, periodStart]
  cases level.span with
  | nanos length pos =>
    show level.phase + p * length + n * length = level.phase + (p + n) * length
    rw [Int.add_mul, Int.add_assoc]
  | months count pos =>
    obtain ⟨hclock, hday⟩ := monthStart_month_eq_iff.1
      (congrArg monthStart (month_monthStart (p * count)))
    have hdays := (monthStart_succ ((p + n) * count)).2
    simp only [Span.add, month_monthStart, ← Int.add_mul, hclock, hday, dayNanos]
    omega

/-- From the start of a period on, the whole units are the periods. -/
theorem whole_periodStart_of_le (h : level.periodStart p ≤ x) :
    level.span.whole (level.periodStart p) x = level.period x - p := by
  revert h
  rw [periodStart, period]
  cases level.span with
  | nanos length pos =>
    intro (h : level.phase + p * length ≤ x)
    have hsince : x - (level.phase + p * length) = x - level.phase + -p * length := by
      rw [Int.neg_mul]
      omega
    show (x - (level.phase + p * length)).tdiv length = (x - level.phase) / length - p
    rw [Int.tdiv_eq_ediv_of_nonneg (by omega), hsince, Int.add_mul_ediv_right _ _ (by omega)]
    rfl
  | months count pos =>
    intro (h : monthStart (p * count) ≤ x)
    have hmonth : p * count ≤ Moment.month x := (gc_monthStart _ _).1 h
    have hsince := (sinceMonth_bounds x).1
    have hcount : Span.monthsUpTo (monthStart (p * count)) x = Moment.month x + -p * count := by
      rw [Span.monthsUpTo, month_monthStart, sinceMonth_monthStart, if_neg (by omega), Int.neg_mul]
      omega
    show (if monthStart (p * count) ≤ x then Span.monthsUpTo (monthStart (p * count)) x
      else -Span.monthsUpTo x (monthStart (p * count))).tdiv count = Moment.month x / count - p
    rw [if_pos h, hcount, Int.tdiv_eq_ediv_of_nonneg (by rw [Int.neg_mul]; omega),
      Int.add_mul_ediv_right _ _ (by omega)]
    rfl

/-- Before the start of a month, the whole months are as many as do not lead past the moment. -/
theorem monthsUpTo_monthStart {n : Int} (h : x < monthStart n) :
    0 ≤ Span.monthsUpTo x (monthStart n)
      ∧ x ≤ monthStart (n - Span.monthsUpTo x (monthStart n))
      ∧ monthStart (n - Span.monthsUpTo x (monthStart n) - 1) < x := by
  have hx := eq_monthStart_add x
  have hsince := (sinceMonth_bounds x).1
  have hnext := lt_monthStart_succ x
  have hmonth : Moment.month x < n := strictMono_monthStart.lt_iff_lt.1 (by omega)
  rw [Span.monthsUpTo, month_monthStart, sinceMonth_monthStart]
  split
  · have hceil : n - (n - Moment.month x - 1) = Moment.month x + 1 := by omega
    rw [hceil, Int.add_sub_cancel]
    exact ⟨by omega, by omega, by omega⟩
  · have hceil : n - (n - Moment.month x - 0) = Moment.month x := by omega
    have hbefore : monthStart (Moment.month x - 1) < monthStart (Moment.month x) :=
      strictMono_monthStart (by omega)
    rw [hceil]
    exact ⟨by omega, by omega, by omega⟩

/-- Before the start of a period, the whole units are as many as do not lead past the moment. -/
theorem whole_periodStart_of_lt (h : x < level.periodStart p) :
    x ≤ level.periodStart (p + level.span.whole (level.periodStart p) x)
      ∧ level.periodStart (p + level.span.whole (level.periodStart p) x - 1) < x := by
  revert h
  simp only [periodStart]
  cases level.span with
  | nanos length pos =>
    intro (h : x < level.phase + p * length)
    have hwhole : (Span.nanos length pos).whole (level.phase + p * length) x
        = -((level.phase + p * length - x) / length) := by
      show (x - (level.phase + p * length)).tdiv length = _
      rw [← Int.neg_sub, Int.neg_tdiv, Int.tdiv_eq_ediv_of_nonneg (by omega)]
    have hsplit := Int.ediv_mul_add_emod (level.phase + p * length - x) length
    have hrest := Int.emod_nonneg (level.phase + p * length - x) (Int.ne_of_gt pos)
    have hlt := Int.emod_lt_of_pos (level.phase + p * length - x) pos
    simp only [hwhole, Int.add_mul, Int.sub_mul, Int.neg_mul, Int.one_mul]
    omega
  | months count pos =>
    intro (h : x < monthStart (p * count))
    obtain ⟨hnonneg, hle, hlt⟩ := monthsUpTo_monthStart h
    have hwhole : (Span.months count pos).whole (monthStart (p * count)) x
        = -(Span.monthsUpTo x (monthStart (p * count)) / count) := by
      show (if monthStart (p * count) ≤ x then Span.monthsUpTo (monthStart (p * count)) x
        else -Span.monthsUpTo x (monthStart (p * count))).tdiv count = _
      rw [if_neg (by omega), Int.neg_tdiv, Int.tdiv_eq_ediv_of_nonneg hnonneg]
    have hsplit := Int.ediv_mul_add_emod (Span.monthsUpTo x (monthStart (p * count))) count
    have hrest := Int.emod_nonneg (Span.monthsUpTo x (monthStart (p * count))) (Int.ne_of_gt pos)
    have hend := Int.emod_lt_of_pos (Span.monthsUpTo x (monthStart (p * count))) pos
    have hmono := strictMono_monthStart.monotone
    simp only [hwhole, Int.add_mul, Int.sub_mul, Int.neg_mul, Int.one_mul]
    exact ⟨hle.trans (hmono (by omega)), (hmono (by omega)).trans_lt hlt⟩

/-! ## Counting from the origin -/

/-- The origin starts a period of every level. -/
theorem periodStart_origin (level : DateLevel) :
    level.periodStart (level.period origin) = origin := by
  cases level <;> decide +kernel

theorem add_origin (level : DateLevel) (n : Int) :
    level.span.add n origin = level.periodStart (level.period origin + n) := by
  have h := level.add_periodStart n (level.period origin)
  rwa [periodStart_origin] at h

/-- Units begin with their periods, but for the weeks. -/
theorem crossed_eq (hlevel : level ≠ .week) (start stop : Int) :
    level.crossed start stop = level.period stop - level.period start := by
  have hordinal (t : Int) : level.ordinal t = level.period t := by
    unfold ordinal
    split
    · exact absurd rfl hlevel
    · rfl
  rw [crossed, hordinal, hordinal]

theorem add_crossed_origin (hlevel : level ≠ .week) (x : Int) :
    level.span.add (level.crossed origin x) origin = level.periodStart (level.period x) := by
  rw [add_origin, crossed_eq hlevel]
  congr 1
  omega

/-- There are as many Sundays up to the day before as there are Mondays up to the day, and the
origin is a Monday. -/
theorem add_crossed_week (x : Int) :
    week.span.add (week.crossed origin (DateLevel.day.span.add (-1) x)) origin
      = week.periodStart (week.period x) := by
  have horigin : origin = -25567 * 86400000000000 := by decide +kernel
  rw [add_origin]
  congr 1
  simp only [crossed, ordinal, period, span, phase, Span.add, Moment.day, ofDay, dayNanos, horigin]
  omega

theorem add_crossed_second (x : Int) :
    second.span.add (second.crossed (midnight x) x) (midnight x)
      = second.periodStart (second.period x) := by
  have hmidnight : second.periodStart (second.period (midnight x)) = midnight x := by
    rw [← startsPeriod_iff (by decide)]
    simp only [StartsPeriod, midnight, ofDay, dayNanos]
    omega
  have hadd := second.add_periodStart (second.crossed (midnight x) x) (second.period (midnight x))
  rw [hmidnight, crossed_eq (by decide)] at hadd
  rw [crossed_eq (by decide), hadd]
  congr 1
  omega

end DateLevel

/-! ## The computations of the dialects -/

namespace InstantExpression

variable {column : String → Option Int} {name : String} {x : Int} {level : DateLevel}

theorem reads_truncation_sqlServer (h : column name = some x) (hlevel : level ≠ .millisecond) :
    Reads .sqlServer column name (Dialect.sqlServer.truncation level)
      (level.periodStart (level.period x)) := by
  have hcolumn : Reads .sqlServer column name .column x := reads_column h
  have horigin : Reads .sqlServer column name .origin origin := reads_origin (by decide)
  cases level with
  | millisecond => exact absurd rfl hlevel
  | second =>
    rw [← DateLevel.add_crossed_second]
    exact .advance_sqlServer .second hcolumn.midnight hcolumn.midnight hcolumn
  | week =>
    rw [← DateLevel.add_crossed_week]
    exact .advance_sqlServer .week horigin horigin hcolumn.dayBefore
  | minute | hour | day | month | quarter | year =>
    rw [← DateLevel.add_crossed_origin (by decide)]
    exact .advance_sqlServer _ horigin horigin hcolumn

theorem reads_truncation_mySql (h : column name = some x) (hlevel : level ≠ .millisecond) :
    Reads .mySql column name (Dialect.mySql.truncation level)
      (level.periodStart (level.period origin + level.span.whole origin x)) := by
  have hcolumn : Reads .mySql column name .column x := reads_column h
  have horigin : Reads .mySql column name .origin origin := reads_origin (by decide)
  rw [← DateLevel.add_origin]
  cases level with
  | millisecond => exact absurd rfl hlevel
  | second | minute | hour | day | week | month | quarter | year =>
    exact .advance_mySql _ horigin horigin hcolumn

end InstantExpression

open InstantExpression in
/-- **An instant is truncated to the start of its period, or of the next one.** Over a column that
holds a moment, the expression of a dialect that has to compute has for its value the latest moment
up to it that starts a period of the level. MySQL before 1900 is the exception: the units are
counted back from the origin and rounded towards it, so that the value is the first start of a
period from the moment on. -/
theorem Dialect.truncation_start {d : Dialect} (hd : d ≠ .postgres) (level : DateLevel)
    {column : String → Option Int} {name : String} {x : Int} (hx : column name = some x) :
    ∃ v, value? d column (d.render (d.term [.name name] (d.truncation level))) = some v
      ∧ if d = .mySql ∧ x < origin then IsLeast {s | level.StartsPeriod s ∧ x ≤ s} v
        else IsGreatest {s | level.StartsPeriod s ∧ s ≤ x} v := by
  by_cases hlevel : level = .millisecond
  · subst hlevel
    have hcolumn : d.truncation .millisecond = .column := by
      cases d with
      | postgres => exact absurd rfl hd
      | mySql | sqlServer => rfl
    rw [hcolumn]
    refine ⟨x, (reads_column hx).value?, ?_⟩
    split
    · exact ⟨⟨trivial, le_rfl⟩, fun s hs => hs.2⟩
    · exact ⟨⟨trivial, le_rfl⟩, fun s hs => hs.2⟩
  · cases d with
    | postgres => exact absurd rfl hd
    | sqlServer =>
      refine ⟨_, (reads_truncation_sqlServer hx hlevel).value?, ?_⟩
      rw [if_neg (by simp)]
      exact DateLevel.isGreatest_periodStart hlevel x
    | mySql =>
      refine ⟨_, (reads_truncation_mySql hx hlevel).value?, ?_⟩
      have horigin := level.periodStart_origin
      split
      · next hearly =>
        have hlt : x < level.periodStart (level.period origin) := by
          rw [horigin]
          exact hearly.2
        obtain ⟨hle, hpassed⟩ := DateLevel.whole_periodStart_of_lt hlt
        rw [horigin] at hle hpassed
        exact DateLevel.isLeast_periodStart hlevel hle hpassed
      · next hlate =>
        have hle : level.periodStart (level.period origin) ≤ x := by
          rw [horigin]
          exact Int.not_lt.1 fun h => hlate ⟨rfl, h⟩
        have hwhole := DateLevel.whole_periodStart_of_le hle
        rw [horigin] at hwhole
        rw [hwhole, Int.add_comm, Int.sub_add_cancel]
        exact DateLevel.isGreatest_periodStart hlevel x

/-- Noon of 31 December 1899. -/
def Moment.beforeOrigin : Int := origin - 43200000000000

open InstantExpression in
/-- SQL Server truncates it to the start of its week, a Monday before 1900. -/
theorem Dialect.truncation_start_week :
    ∃ v, value? sqlServer (fun _ => some beforeOrigin)
          (sqlServer.render (sqlServer.term [.name "created_at"] (sqlServer.truncation .week)))
        = some v
      ∧ IsGreatest {s | DateLevel.week.StartsPeriod s ∧ s ≤ beforeOrigin} v := by
  obtain ⟨v, hvalue, hstart⟩ := @Dialect.truncation_start sqlServer (by decide) .week
    (fun _ => some beforeOrigin) "created_at" beforeOrigin rfl
  rw [if_neg (by decide)] at hstart
  exact ⟨v, hvalue, hstart⟩

open InstantExpression in
/-- MySQL truncates it to the start of the day after. -/
theorem Dialect.truncation_start_early :
    value? mySql (fun _ => some beforeOrigin)
        (mySql.render (mySql.term [.name "created_at"] (mySql.truncation .day)))
      = some origin
    ∧ beforeOrigin < origin
    ∧ ¬ IsGreatest {s | DateLevel.day.StartsPeriod s ∧ s ≤ beforeOrigin} origin := by
  refine ⟨by decide +kernel, by decide +kernel, fun h => ?_⟩
  exact absurd h.1.2 (by decide +kernel)

end Pushdown
