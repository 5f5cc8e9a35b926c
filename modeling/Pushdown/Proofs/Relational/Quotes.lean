import Pushdown.Relational.Dialect

/-!
# Splitting a statement by its quotes

`Dialect.tokens?` splits the text of a statement as a reader of the dialect does who knows nothing
but its quotes: a quote opens a quoted token, the next lone closing quote ends it, and what stands
between two quoted tokens is code. It does not know how a statement is put together, and a quote
that is never closed cannot be split. `Dialect.Reads` is that a part of a text is split into some
tokens wherever it stands, as long as what follows does not begin with a closing quote. Names and
texts are read as what they quote (`Dialect.reads_quoteName`, `Dialect.reads_quoteText`).
-/

namespace Pushdown

/-- The kinds of quotes around names and texts. -/
inductive Quote where
  | backtick
  | double
  | bracket
  | single
  /-- A text that is marked as one of any alphabet. -/
  | national
  deriving DecidableEq, Repr, Inhabited

namespace Quote

/-- What opens a quoted token. -/
def opening : Quote → List Char
  | .backtick => ['`']
  | .double => ['"']
  | .bracket => ['[']
  | .single => ['\'']
  | .national => ['N', '\'']

/-- What closes a quoted token, unless it is written twice. -/
def closing : Quote → Char
  | .backtick => '`'
  | .double => '"'
  | .bracket => ']'
  | .single | .national => '\''

end Quote

/-- A token of a statement, as far as its quotes tell. -/
inductive Token where
  /-- A character outside of all quotes. -/
  | code (c : Char)
  /-- What stands between quotes, decoded. -/
  | quoted (quote : Quote) (s : String)
  deriving DecidableEq, Repr, Inhabited

namespace Dialect

/-! ## The rules of a dialect -/

/-- The quotes a dialect knows. -/
def quotes : Dialect → List Quote
  | .mySql => [.backtick, .single]
  | .postgres => [.double, .single]
  | .sqlServer => [.bracket, .national, .single]

/-- The quotes around a name. -/
def nameQuote : Dialect → Quote
  | .mySql => .backtick
  | .postgres => .double
  | .sqlServer => .bracket

/-- The quotes around a text. -/
def textQuote : Dialect → Quote
  | .mySql | .postgres => .single
  | .sqlServer => .national

/-- Whether a backslash escapes what follows it. -/
def escapesIn (d : Dialect) (quote : Quote) : Bool :=
  d = .mySql && quote = .single

/-- What a character stands for behind a backslash. -/
def unescaped : Char → List Char
  | '0' => ['\x00']
  | 'b' => ['\x08']
  | 'n' => ['\n']
  | 'r' => ['\r']
  | 't' => ['\t']
  | 'Z' => ['\x1a']
  | '%' => ['\\', '%']
  | '_' => ['\\', '_']
  | c => [c]

/-- The quote that a text opens with, and what follows it. -/
def opening? (d : Dialect) (cs : List Char) : Option (Quote × List Char) :=
  d.quotes.findSome? fun quote =>
    if quote.opening.isPrefixOf cs then some (quote, cs.drop quote.opening.length) else none

/-- What stands before the closing quote, decoded, and what stands behind it. -/
def quoted? (close : Char) (escapes : Bool) : List Char → Option (List Char × List Char)
  | [] => none
  | [c] => if c = close then some ([], []) else none
  | c :: c' :: cs =>
    if escapes ∧ c = '\\' then
      (quoted? close escapes cs).map fun read => (unescaped c' ++ read.1, read.2)
    else if c ≠ close then
      (quoted? close escapes (c' :: cs)).map fun read => (c :: read.1, read.2)
    else if c' = close then
      (quoted? close escapes cs).map fun read => (c :: read.1, read.2)
    else some ([], c' :: cs)

theorem length_of_opening? {d : Dialect} {cs rest : List Char} {quote : Quote}
    (h : d.opening? cs = some (quote, rest)) : rest.length < cs.length := by
  obtain ⟨quote', -, h⟩ := List.exists_of_findSome?_eq_some h
  split at h
  · next hprefix =>
    cases h
    have hle := (List.isPrefixOf_iff_prefix.1 hprefix).length_le
    have hpos : 0 < quote.opening.length := by cases quote <;> decide
    rw [List.length_drop]
    omega
  · cases h

theorem length_of_quoted? {close : Char} {escapes : Bool} {cs s rest : List Char}
    (h : quoted? close escapes cs = some (s, rest)) : rest.length < cs.length := by
  fun_induction quoted? close escapes cs generalizing s with
  | case1 | case3 => cases h
  | case2 => cases h; exact Nat.succ_pos _
  | case4 _ _ _ _ ih | case6 _ _ _ _ ih =>
    obtain ⟨read, hread, heq⟩ := Option.map_eq_some_iff.1 h
    cases heq
    exact Nat.lt_succ_of_lt (Nat.lt_succ_of_lt (ih hread))
  | case5 _ _ _ _ _ ih =>
    obtain ⟨read, hread, heq⟩ := Option.map_eq_some_iff.1 h
    cases heq
    exact Nat.lt_succ_of_lt (ih hread)
  | case7 => cases h; exact Nat.lt_succ_self _

/-- The tokens of a text, character by character. -/
def split? (d : Dialect) (cs : List Char) : Option (List Token) :=
  match cs with
  | [] => some []
  | c :: cs =>
    match _hopen : d.opening? (c :: cs) with
    | some (quote, inner) =>
      match _hquoted : quoted? quote.closing (d.escapesIn quote) inner with
      | some (s, rest) => (split? d rest).map (.quoted quote (String.ofList s) :: ·)
      | none => none
    | none => (split? d cs).map (.code c :: ·)
  termination_by cs.length
  decreasing_by
    · exact Nat.lt_trans (length_of_quoted? _hquoted) (length_of_opening? _hopen)
    · exact Nat.lt_succ_self _

/-- The tokens of a text. -/
def tokens? (d : Dialect) (text : String) : Option (List Token) :=
  d.split? text.toList

/-! ## Quoted tokens -/

section
variable {close : Char} {escapes : Bool} {rest : List Char}

/-- A quote that nothing like it follows ends what stands before it. -/
theorem quoted?_close (hclose : close ≠ '\\') (hrest : rest.head? ≠ some close) :
    quoted? close escapes (close :: rest) = some ([], rest) := by
  cases rest with
  | nil => simp [quoted?]
  | cons c cs =>
    have hc : c ≠ close := fun h => hrest (congrArg some h)
    simp [quoted?, hclose, hc]

/-- A character that is neither a quote nor a backslash stands for itself. -/
theorem quoted?_plain {c : Char} (hc : c ≠ close) (hescape : escapes = true → c ≠ '\\')
    (cs : List Char) :
    quoted? close escapes (c :: cs)
      = (quoted? close escapes cs).map fun read => (c :: read.1, read.2) := by
  have hnot : ¬ (escapes = true ∧ c = '\\') := fun h => hescape h.1 h.2
  cases cs with
  | nil => simp [quoted?, hc]
  | cons c' cs => rw [quoted?, if_neg hnot, if_pos hc]

/-- A quote written twice stands for one. -/
theorem quoted?_twice (hclose : close ≠ '\\') (cs : List Char) :
    quoted? close escapes (close :: close :: cs)
      = (quoted? close escapes cs).map fun read => (close :: read.1, read.2) := by
  simp [quoted?, hclose]

/-- Characters written so that each stands for itself, up to the quote that closes them. -/
theorem quoted?_flatMap {written : Char → List Char} (hclose : close ≠ '\\')
    (hrest : rest.head? ≠ some close) {s : List Char}
    (hwritten : ∀ c ∈ s, ∀ cs, quoted? close escapes (written c ++ cs)
      = (quoted? close escapes cs).map fun read => (c :: read.1, read.2)) :
    quoted? close escapes (s.flatMap written ++ close :: rest) = some (s, rest) := by
  induction s with
  | nil => exact quoted?_close hclose hrest
  | cons c s ih =>
    obtain ⟨hc, hs⟩ := List.forall_mem_cons.1 hwritten
    rw [List.flatMap_cons, List.append_assoc, hc, ih hs, Option.map_some]

/-- A text with its quotes doubled is read as itself. -/
theorem quoted?_doubled (hclose : close ≠ '\\') (hrest : rest.head? ≠ some close) (s : String) :
    quoted? close false ((doubled close s).toList ++ close :: rest) = some (s.toList, rest) := by
  rw [doubled, String.toList_ofList]
  refine quoted?_flatMap hclose hrest fun c _ cs => ?_
  split
  · next h => rw [h]; exact quoted?_twice hclose cs
  · next h => exact quoted?_plain h (by simp) cs

/-- So is a text with its quotes and backslashes doubled, where a backslash escapes. -/
theorem quoted?_doubled_backslash (hclose : close ≠ '\\') (hrest : rest.head? ≠ some close)
    (s : String) :
    quoted? close true ((doubled close (doubled '\\' s)).toList ++ close :: rest)
      = some (s.toList, rest) := by
  rw [doubled, doubled, String.toList_ofList, String.toList_ofList, List.flatMap_assoc]
  refine quoted?_flatMap hclose hrest fun c _ cs => ?_
  by_cases hc : c = '\\'
  · subst hc
    simp [quoted?, unescaped, Ne.symm hclose]
  · by_cases hq : c = close
    · subst hq
      simpa [hc] using quoted?_twice hclose cs
    · simpa [hc, hq] using quoted?_plain hq (fun _ => hc) cs

end

/-! ## Reading a part of a text -/

/-- What does not begin with a closing quote, so that a quoted token may stand before it. -/
def Apart (rest : List Char) : Prop :=
  ∀ quote : Quote, rest.head? ≠ some quote.closing

/-- A part of a text is split into these tokens, whatever follows. -/
def ReadsBefore (d : Dialect) (cs : List Char) (tokens : List Token) : Prop :=
  ∀ rest, d.split? (cs ++ rest) = (d.split? rest).map (tokens ++ ·)

/-- A part of a text is split into these tokens, if what follows stands apart. -/
def Reads (d : Dialect) (cs : List Char) (tokens : List Token) : Prop :=
  ∀ rest, Apart rest → d.split? (cs ++ rest) = (d.split? rest).map (tokens ++ ·)

section
variable {d : Dialect} {cs cs' : List Char} {tokens tokens' : List Token}

theorem apart_nil : Apart [] := nofun

theorem ReadsBefore.reads (h : d.ReadsBefore cs tokens) : d.Reads cs tokens :=
  fun rest _ => h rest

theorem ReadsBefore.append_reads (h : d.ReadsBefore cs tokens) (h' : d.Reads cs' tokens') :
    d.Reads (cs ++ cs') (tokens ++ tokens') := by
  intro rest hrest
  rw [List.append_assoc, h, h' rest hrest, Option.map_map]
  simp [Function.comp_def]

/-- Two parts are read one after the other if the second one stands apart. -/
theorem Reads.append (h : d.Reads cs tokens) (h' : d.Reads cs' tokens')
    (hapart : ∀ rest, Apart rest → Apart (cs' ++ rest)) :
    d.Reads (cs ++ cs') (tokens ++ tokens') := by
  intro rest hrest
  rw [List.append_assoc, h _ (hapart rest hrest), h' rest hrest, Option.map_map]
  simp [Function.comp_def]

/-- What follows does not matter if the second part does not mind it. -/
theorem Reads.append_before (h : d.Reads cs tokens) (h' : d.ReadsBefore cs' tokens')
    (hapart : ∀ rest, Apart (cs' ++ rest)) : d.ReadsBefore (cs ++ cs') (tokens ++ tokens') := by
  intro rest
  rw [List.append_assoc, h _ (hapart rest), h', Option.map_map]
  simp [Function.comp_def]

/-- What is read as some tokens is split into them when it is all there is. -/
theorem Reads.split? (h : d.Reads cs tokens) : d.split? cs = some tokens := by
  have h := h [] apart_nil
  rw [List.append_nil] at h
  rw [h, Dialect.split?, Option.map_some, List.append_nil]

/-- What no quote opens with is code. -/
theorem split?_code {c : Char} (h : d.opening? (c :: cs) = none) :
    d.split? (c :: cs) = (d.split? cs).map (.code c :: ·) := by
  rw [Dialect.split?]
  split
  · next heq => exact nomatch h.symm.trans heq
  · rfl

/-- What a quote opens with goes on behind the quote that closes it. -/
theorem split?_quoted {quote : Quote} {inner s rest : List Char}
    (hopening : d.opening? cs = some (quote, inner))
    (hquoted : quoted? quote.closing (d.escapesIn quote) inner = some (s, rest)) :
    d.split? cs = (d.split? rest).map (.quoted quote (String.ofList s) :: ·) := by
  obtain _ | ⟨c, cs⟩ := cs
  · exact absurd (length_of_opening? hopening) (Nat.not_lt_zero _)
  · rw [Dialect.split?]
    split
    · next heq =>
      cases hopening.symm.trans heq
      split
      · next heq => cases hquoted.symm.trans heq; rfl
      · next heq => exact nomatch hquoted.symm.trans heq
    · next heq => exact nomatch hopening.symm.trans heq

/-- A quote of the dialect opens a quoted token. -/
theorem opening?_append {quote : Quote} (hquote : quote ∈ d.quotes) (inner : List Char) :
    d.opening? (quote.opening ++ inner) = some (quote, inner) := by
  cases d <;> cases quote <;> simp [quotes] at hquote <;> simp [opening?, quotes, Quote.opening]

/-- Between quotes of the dialect stands one token. -/
theorem reads_quoted {quote : Quote} (hquote : quote ∈ d.quotes) {s : String}
    (hs : ∀ rest, rest.head? ≠ some quote.closing →
      quoted? quote.closing (d.escapesIn quote) (cs ++ quote.closing :: rest)
        = some (s.toList, rest)) :
    d.Reads (quote.opening ++ (cs ++ [quote.closing])) [.quoted quote s] := by
  intro rest hrest
  rw [List.append_assoc, List.append_assoc, List.singleton_append,
    split?_quoted (opening?_append hquote _) (hs rest (hrest quote)), String.ofList_toList]
  rfl

theorem nameQuote_mem (d : Dialect) : d.nameQuote ∈ d.quotes := by
  cases d <;> decide

theorem textQuote_mem (d : Dialect) : d.textQuote ∈ d.quotes := by
  cases d <;> decide

theorem single_mem (d : Dialect) : .single ∈ d.quotes := by
  cases d <;> decide

/-- A quoted name is read as the name. -/
theorem reads_quoteName (d : Dialect) (s : String) :
    d.Reads (d.quoteName s).toList [.quoted d.nameQuote s] := by
  have hchars : (d.quoteName s).toList = d.nameQuote.opening
      ++ ((doubled d.nameQuote.closing s).toList ++ [d.nameQuote.closing]) := by
    cases d <;> simp [quoteName, nameQuote, Quote.opening, Quote.closing]
  have hescapes : d.escapesIn d.nameQuote = false := by cases d <;> rfl
  have hclose : d.nameQuote.closing ≠ '\\' := by cases d <;> decide
  rw [hchars]
  refine reads_quoted d.nameQuote_mem fun rest hrest => ?_
  rw [hescapes]
  exact quoted?_doubled hclose hrest s

/-- A quoted text is read as the text. -/
theorem reads_quoteText (d : Dialect) (s : String) :
    d.Reads (d.quoteText s).toList [.quoted d.textQuote s] := by
  have hchars : (d.quoteText s).toList = d.textQuote.opening
      ++ ((doubled '\'' (if d.escapesIn d.textQuote then doubled '\\' s else s)).toList
        ++ [d.textQuote.closing]) := by
    cases d <;> simp [quoteText, textQuote, escapesIn, Quote.opening, Quote.closing]
  have hclosing : d.textQuote.closing = '\'' := by cases d <;> rfl
  rw [hchars]
  refine reads_quoted d.textQuote_mem fun rest hrest => ?_
  rw [hclosing] at hrest ⊢
  cases d.escapesIn d.textQuote with
  | true => exact quoted?_doubled_backslash (by decide) hrest s
  | false => exact quoted?_doubled (by decide) hrest s

example : mySql.tokens? "`a``b`<'it''s \\'so\\''"
    = some [.quoted .backtick "a`b", .code '<', .quoted .single "it's 'so'"] := by
  decide +kernel

/-! ## Words -/

/-- The characters that mean something to a reader of quotes. -/
def quoteMarks : List Char := ['\'', '"', '`', '[', ']', '\\']

/-- A text without any of them. -/
def Unmarked (s : String) : Prop := ∀ c ∈ s.toList, c ∉ quoteMarks

instance (s : String) : Decidable (Unmarked s) :=
  List.decidableBAll (fun c => c ∉ quoteMarks) s.toList

theorem closing_mem_quoteMarks (quote : Quote) : quote.closing ∈ quoteMarks := by
  cases quote <;> decide

/-- What begins with no quote stands apart. -/
theorem apart_cons {c : Char} (hc : c ∉ quoteMarks) (rest : List Char) : Apart (c :: rest) := by
  intro quote h
  cases h
  exact hc (closing_mem_quoteMarks quote)

/-- A character that no quote is made of opens nothing, unless it marks the quote behind it. -/
theorem opening?_eq_none {c : Char} (hc : c ∉ quoteMarks)
    (hmark : c = 'N' → cs.head? ≠ some '\'') : d.opening? (c :: cs) = none := by
  refine List.findSome?_eq_none_iff.2 fun quote _ => if_neg fun h => ?_
  have hprefix : quote.opening <+: c :: cs := List.isPrefixOf_iff_prefix.1 h
  cases quote with
  | national =>
    obtain ⟨rfl, cs', hcs⟩ := List.cons_prefix_cons.1 hprefix
    exact hmark rfl (by rw [← hcs]; rfl)
  | backtick | double | bracket | single =>
    obtain ⟨rfl, -⟩ := List.cons_prefix_cons.1 hprefix
    exact hc (by decide)

/-- Words without quotes are code, if they do not mark a quote behind them. -/
theorem split?_words (hwords : ∀ c ∈ cs, c ∉ quoteMarks) {rest : List Char}
    (hmark : cs.getLast? = some 'N' → rest.head? ≠ some '\'') :
    d.split? (cs ++ rest) = (d.split? rest).map (cs.map .code ++ ·) := by
  induction cs with
  | nil => simp
  | cons c cs ih =>
    obtain ⟨hc, hwords⟩ := List.forall_mem_cons.1 hwords
    have hopening : d.opening? (c :: (cs ++ rest)) = none := by
      refine opening?_eq_none hc fun hn => ?_
      cases cs with
      | nil => exact hmark (congrArg some hn)
      | cons c' cs =>
        intro h
        exact hwords c' List.mem_cons_self (by cases h; decide)
    have hrest : cs.getLast? = some 'N' → rest.head? ≠ some '\'' := fun h =>
      hmark (by rw [List.getLast?_cons, h]; rfl)
    rw [List.cons_append, split?_code hopening, ih hwords hrest, Option.map_map]
    rfl

/-- Words without quotes are code. -/
theorem reads_words (hwords : ∀ c ∈ cs, c ∉ quoteMarks) : d.Reads cs (cs.map .code) :=
  fun _ hrest => split?_words hwords fun _ => hrest .single

/-- Words that do not mark a quote behind them are code, whatever follows. -/
theorem readsBefore_words (hwords : ∀ c ∈ cs, c ∉ quoteMarks) (hlast : cs.getLast? ≠ some 'N') :
    d.ReadsBefore cs (cs.map .code) :=
  fun _ => split?_words hwords fun h => absurd h hlast

/-- A text without quotes is read as itself between single ones. -/
theorem reads_single {s : String} (hs : Unmarked s) :
    d.Reads ('\'' :: (s.toList ++ ['\''])) [.quoted .single s] := by
  refine reads_quoted d.single_mem fun rest hrest => ?_
  have hplain : ∀ c ∈ s.toList, c ≠ '\'' ∧ c ≠ '\\' := fun c hc =>
    ⟨fun h => hs c hc (by rw [h]; decide), fun h => hs c hc (by rw [h]; decide)⟩
  have hread : quoted? '\'' (d.escapesIn .single) (s.toList.flatMap (fun c => [c]) ++ '\'' :: rest)
      = some (s.toList, rest) :=
    quoted?_flatMap (by decide) hrest fun c hc =>
      quoted?_plain (hplain c hc).1 fun _ => (hplain c hc).2
  rwa [List.flatMap_singleton'] at hread

end

end Dialect

end Pushdown
