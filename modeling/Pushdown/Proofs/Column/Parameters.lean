import Mathlib.Data.List.Infix
import Pushdown.Backend.Compiler
import Pushdown.Proofs.Text.Endings

/-!
# Type names with parameters

What a native type name stands for once a length or a precision in parentheses follows it. A list
of names takes the parameters off, so that they change nothing, unless a blank separates them from
a trailing ` unsigned`, which is then not taken off with them. Of the patterns, those that may go
on after their word still match, and those that must reach the end of the name do not: they match
no text that ends in a parenthesis, and none that another pattern may go on from
(`TypeTable.IsOrderly`). `BackendKind.classify_parameters` says so of the five tables.
-/

namespace Pushdown

/-! ## The texts of a pattern -/

namespace TypePattern

/-- The character, with every decimal digit read as a zero. -/
def blurDigit (c : Char) : Char :=
  if Text.isDecimalDigit c then '0' else c

/-- The texts that a pattern matches, with every decimal digit read as a zero. -/
def samples : TypePattern → List (List Char)
  | .word letters => [letters.toList.map blurDigit]
  | .digit => [['0']]
  | .maybe part => part.samples ++ [[]]
  | .either first second => first.samples ++ second.samples
  | .seq first second => first.samples.flatMap fun s => second.samples.map (s ++ ·)

/-- What a pattern takes off a text is one of its samples. -/
theorem exists_sample_of_mem_rests {p : TypePattern} {cs rest : List Char}
    (h : rest ∈ p.rests cs) : ∃ taken, cs = taken ++ rest ∧ taken.map blurDigit ∈ p.samples := by
  induction p generalizing cs rest with
  | word letters =>
    rw [rests] at h
    split at h
    · next hprefix =>
      obtain ⟨after, rfl⟩ := List.isPrefixOf_iff_prefix.1 hprefix
      rw [List.drop_left, List.mem_singleton] at h
      exact ⟨letters.toList, by rw [h], List.mem_singleton_self _⟩
    · exact absurd h List.not_mem_nil
  | digit =>
    cases cs with
    | nil => exact absurd h List.not_mem_nil
    | cons c after =>
      rw [rests] at h
      split at h
      · next hdigit =>
        refine ⟨[c], by rw [List.mem_singleton.1 h]; rfl, ?_⟩
        rw [List.map_singleton, blurDigit, if_pos hdigit]
        exact List.mem_singleton_self _
      · exact absurd h List.not_mem_nil
  | maybe part ih =>
    rw [rests, List.mem_append, List.mem_singleton] at h
    rcases h with h | rfl
    · obtain ⟨taken, hcs, hsample⟩ := ih h
      exact ⟨taken, hcs, List.mem_append_left _ hsample⟩
    · exact ⟨[], rfl, List.mem_append_right _ (List.mem_singleton_self _)⟩
  | either first second ihf ihs =>
    rw [rests, List.mem_append] at h
    rcases h with h | h
    · obtain ⟨taken, hcs, hsample⟩ := ihf h
      exact ⟨taken, hcs, List.mem_append_left _ hsample⟩
    · obtain ⟨taken, hcs, hsample⟩ := ihs h
      exact ⟨taken, hcs, List.mem_append_right _ hsample⟩
  | seq first second ihf ihs =>
    rw [rests, List.mem_flatMap] at h
    obtain ⟨between, hbetween, hrest⟩ := h
    obtain ⟨taken, rfl, hsample⟩ := ihf hbetween
    obtain ⟨taken', rfl, hsample'⟩ := ihs hrest
    refine ⟨taken ++ taken', (List.append_assoc ..).symm, ?_⟩
    rw [List.map_append, samples, List.mem_flatMap]
    exact ⟨_, hsample, List.mem_map_of_mem hsample'⟩

end TypePattern

namespace TypeRule

open TypePattern

variable {rule : TypeRule} {cs ds word : List Char}

/-! ## Rules that a name may go on from -/

/-- The word of a rule that a name may go on from. -/
def openWord? (rule : TypeRule) : Option (List Char) :=
  match rule.pattern, rule.atEnd with
  | .word letters, false => some letters.toList
  | _, _ => none

theorem admitsHere_iff_of_openWord (h : rule.openWord? = some word) :
    rule.admitsHere cs ↔ word <+: cs := by
  obtain ⟨atStart, pattern, atEnd, type⟩ := rule
  unfold openWord? at h
  split at h
  · next letters hpattern hend =>
    obtain rfl := Option.some.inj h
    obtain rfl : pattern = .word letters := hpattern
    obtain rfl : atEnd = false := hend
    simp only [admitsHere, rests]
    split
    · next hprefix => simpa using List.isPrefixOf_iff_prefix.1 hprefix
    · next hprefix => simpa using fun h => hprefix (List.isPrefixOf_iff_prefix.2 h)
  · cases h

theorem admitsWithin_iff_of_openWord (h : rule.openWord? = some word) :
    rule.admitsWithin cs ↔ word <:+: cs := by
  induction cs with
  | nil => rw [admitsWithin, admitsHere_iff_of_openWord h, List.prefix_nil, List.infix_nil]
  | cons c cs ih =>
    rw [admitsWithin, Bool.or_eq_true, admitsHere_iff_of_openWord h, ih, List.infix_cons_iff]

/-- What a list starts with, up to an element that does not follow, it starts with before that. -/
theorem prefix_append_iff_of_getLast {c : Char} (hlast : word.getLast? = some c) (hds : c ∉ ds) :
    word <+: cs ++ ds ↔ word <+: cs := by
  refine ⟨fun h => ?_, fun h => h.trans (List.prefix_append cs ds)⟩
  rcases Nat.le_total word.length cs.length with hle | hle
  · exact List.prefix_of_prefix_length_le h (List.prefix_append cs ds) hle
  · obtain ⟨beyond, rfl⟩ := List.prefix_of_prefix_length_le (List.prefix_append cs ds) h hle
    cases beyond with
    | nil => rw [List.append_nil]
    | cons b beyond =>
      rw [List.getLast?_append_of_ne_nil _ (List.cons_ne_nil b beyond)] at hlast
      have hmem := ((List.prefix_append_right_inj cs).1 h).subset (List.mem_of_getLast? hlast)
      exact absurd hmem hds

/-- A rule that a name may go on from matches the same names, whatever they go on with. -/
theorem admits_append_of_openWord {c : Char} (h : rule.openWord? = some word)
    (hlast : word.getLast? = some c) (hds : c ∉ ds) :
    rule.admits (cs ++ ds) = rule.admits cs := by
  rw [Bool.eq_iff_iff, admits, admits]
  split
  · rw [admitsHere_iff_of_openWord h, admitsHere_iff_of_openWord h,
      prefix_append_iff_of_getLast hlast hds]
  · rw [admitsWithin_iff_of_openWord h, admitsWithin_iff_of_openWord h]
    have hne : word ≠ [] := by rintro rfl; cases hlast
    refine exists_congr fun start => prefix_append_iff_of_getLast ?_ hds
    rw [List.getLast?_append_of_ne_nil _ hne, hlast]

theorem infix_of_admits (h : rule.openWord? = some word) (hadmits : rule.admits cs) :
    word <:+: cs := by
  rw [admits] at hadmits
  split at hadmits
  · exact ((admitsHere_iff_of_openWord h).1 hadmits).isInfix
  · exact (admitsWithin_iff_of_openWord h).1 hadmits

/-! ## Rules for whole names -/

/-- A rule for whole names matches its samples. -/
theorem mem_samples_of_admits (hstart : rule.atStart) (hend : rule.atEnd) (h : rule.admits cs) :
    cs.map blurDigit ∈ rule.pattern.samples := by
  rw [admits, if_pos hstart, admitsHere, List.any_eq_true] at h
  obtain ⟨rest, hrest, hempty⟩ := h
  obtain ⟨taken, rfl, hsample⟩ := exists_sample_of_mem_rests hrest
  rw [hend, Bool.not_true, Bool.false_or, List.isEmpty_iff] at hempty
  rwa [hempty, List.append_nil]

/-- The rules of a table are of two kinds: those that a name may go on from, after a word that ends
in a letter, and those for whole names. The latter match no text that ends in a parenthesis and none
that has the word of one of the former. -/
def AreOrderly (rules : List TypeRule) : Prop :=
  ∀ rule ∈ rules,
    if rule.atEnd then rule.atStart ∧ ∀ sample ∈ rule.pattern.samples, ')' ∉ sample.getLast?
      ∧ ∀ other ∈ rules, ∀ word ∈ other.openWord?, ¬ word.map blurDigit <:+: sample
    else rule.openWord?.any fun word => word.getLast?.any Char.isLower

instance : DecidablePred AreOrderly := fun rules => by unfold AreOrderly; infer_instance

section Orderly

variable {rules : List TypeRule}

/-- A name that goes on with a parenthesis is matched by the rules that it may go on from. -/
theorem admits_append (horderly : AreOrderly rules) (hrule : rule ∈ rules)
    (hbreak : ∀ c ∈ ds, Text.IsBreak c) (hlast : ds.getLast? = some ')') :
    rule.admits (cs ++ ds) = (!rule.atEnd && rule.admits cs) := by
  have hkind := horderly rule hrule
  split at hkind
  · next hend =>
    obtain ⟨hstart, hsamples⟩ := hkind
    rw [hend, Bool.not_true, Bool.false_and, Bool.eq_false_iff]
    intro hadmits
    have hne : ds ≠ [] := by rintro rfl; cases hlast
    refine (hsamples _ (mem_samples_of_admits hstart hend hadmits)).1 ?_
    rw [List.getLast?_map, List.getLast?_append_of_ne_nil _ hne, hlast]
    decide +kernel
  · next hend =>
    obtain ⟨word, hword, hlast⟩ := (Option.any_eq_true ..).1 hkind
    obtain ⟨c, hc, hlower⟩ := (Option.any_eq_true ..).1 hlast
    have hds : c ∉ ds := fun hmem => by
      rw [Text.isLower_eq_false_of_isBreak (hbreak c hmem)] at hlower
      exact absurd hlower (by decide)
    rw [admits_append_of_openWord hword hc hds, Bool.eq_false_iff.2 hend]
    rfl

/-- No name is matched both by a rule for whole names and by one it may go on from. -/
theorem not_admits_both (horderly : AreOrderly rules) {whole start : TypeRule}
    (hwhole : whole ∈ rules) (hend : whole.atEnd) (hadmits : whole.admits cs)
    (hstart : start ∈ rules) (hopen : start.atEnd = false) : start.admits cs = false := by
  have hkind := horderly whole hwhole
  have hother := horderly start hstart
  rw [if_pos hend] at hkind
  rw [if_neg (by rw [hopen]; decide)] at hother
  obtain ⟨hatStart, hsamples⟩ := hkind
  obtain ⟨word, hword, -⟩ := (Option.any_eq_true ..).1 hother
  rw [Bool.eq_false_iff]
  intro hadmitsStart
  refine (hsamples _ (mem_samples_of_admits hatStart hend hadmits)).2 start hstart word hword ?_
  exact (infix_of_admits hword hadmitsStart).map blurDigit

/-- **The rule for a name with parameters** is the rule for the name, if it is one that the name may
go on from; otherwise there is none. -/
theorem find?_admits_append (horderly : AreOrderly rules) (hbreak : ∀ c ∈ ds, Text.IsBreak c)
    (hlast : ds.getLast? = some ')') :
    rules.find? (·.admits (cs ++ ds)) = (rules.find? (·.admits cs)).filter (!·.atEnd) := by
  have hopen : rules.find? (·.admits (cs ++ ds))
      = rules.find? fun rule => !rule.atEnd && rule.admits cs := by
    rw [← List.head?_filter, ← List.head?_filter]
    exact congrArg List.head? (List.filter_congr fun rule hrule =>
      admits_append horderly hrule hbreak hlast)
  rw [hopen]
  cases hfind : rules.find? (·.admits cs) with
  | none =>
    rw [List.find?_eq_none] at hfind
    rw [Option.filter_none, List.find?_eq_none]
    intro rule hrule
    rw [Bool.eq_false_iff.2 (hfind rule hrule), Bool.and_false]
    decide
  | some first =>
    have hfirst : first ∈ rules := List.mem_of_find?_eq_some hfind
    have hadmits := List.find?_some hfind
    cases hend : first.atEnd with
    | true =>
      rw [Option.filter_some, hend, List.find?_eq_none.2]
      · rfl
      · intro rule hrule
        cases hrest : rule.atEnd with
        | true => exact Bool.false_ne_true
        | false =>
          rw [not_admits_both horderly hfirst hend hadmits hrule hrest]
          decide
    | false =>
      rw [Option.filter_some, hend]
      obtain ⟨-, before, after, hsplit, hbefore⟩ := List.find?_eq_some_iff_append.1 hfind
      refine List.find?_eq_some_iff_append.2 ⟨by rw [hend, hadmits]; rfl, before, after, hsplit, ?_⟩
      intro rule hrule
      rw [(Bool.not_eq_true' _).mp (hbefore rule hrule), Bool.and_false]
      rfl

end Orderly

end TypeRule

/-! ## Lists of names -/

namespace TypeTable

open Text

variable {cs spaces : List Char}

theorem dropEndings_of_not_suffix {ending : List Char} (h : ¬ ending <:+ cs) :
    dropEndings ending cs = cs := by
  rw [dropEndings, dif_neg fun hs => h (List.isSuffixOf_iff_suffix.1 hs.2)]

/-- A name without a parenthesis ends before the one that follows. -/
theorem takeWhile_append_paren {rest : List Char} (h : '(' ∉ cs) :
    (cs ++ '(' :: rest).takeWhile (· ≠ '(') = cs := by
  rw [List.takeWhile_append_of_pos fun c hc => by simpa using ne_of_mem_of_not_mem hc h]
  simp

theorem takeWhile_of_not_mem (h : '(' ∉ cs) : cs.takeWhile (· ≠ '(') = cs :=
  List.takeWhile_eq_self_iff.2 fun c hc => by simpa using ne_of_mem_of_not_mem hc h

/-- Blanks hide a trailing ` unsigned`, and make no other difference. -/
theorem trimChars_dropEndings_append (hspaces : ∀ c ∈ spaces, isBlank c) :
    trimChars (dropEndings " unsigned".toList (cs ++ spaces))
      = if spaces = [] then trimChars (dropEndings " unsigned".toList cs) else trimChars cs := by
  split
  · next h => rw [h, List.append_nil]
  · next hne =>
    rw [dropEndings_of_not_suffix, trimChars_append_blanks hspaces]
    rintro ⟨start, hstart⟩
    have hlast := congrArg List.getLast? hstart
    rw [List.getLast?_append_of_ne_nil _ (by decide), List.getLast?_append_of_ne_nil _ hne] at hlast
    exact absurd (hspaces 'd' (List.mem_of_getLast? hlast.symm)) (by decide)

/-- What is left of a name whose trailing ` unsigned` is hidden ends in it. -/
theorem suffix_trimChars_of_suffix (h : " unsigned".toList <:+ cs) :
    "unsigned".toList <:+ trimChars cs := by
  obtain ⟨start, rfl⟩ := h
  have hsplit : start ++ " unsigned".toList = (start ++ [' ']) ++ "unsigned".toList := by simp
  rw [hsplit, trimChars_append_of_ends ⟨'u', by decide, by decide⟩ ⟨'d', by decide, by decide⟩]
  exact List.suffix_append _ _

theorem lookup_of_suffix {entries : List (String × ColumnType)} {name : List Char}
    (hentries : ∀ entry ∈ entries, ¬ "unsigned".toList <:+ entry.1.toList)
    (hname : "unsigned".toList <:+ name) : entries.lookup (String.ofList name) = none := by
  rw [List.lookup_eq_none_iff]
  intro entry hentry
  rw [bne_iff_ne]
  intro heq
  refine hentries entry hentry ?_
  have htext : name = entry.1.toList := by rw [← heq, String.toList_ofList]
  rwa [← htext]

/-- A list of names finds a name with parameters as it finds the name, unless it does not see the
` unsigned` before the blanks. -/
theorem lookup_baseName_append {entries : List (String × ColumnType)}
    (hentries : ∀ entry ∈ entries, ¬ "unsigned".toList <:+ entry.1.toList) {rest : List Char}
    (hparen : '(' ∉ cs) (hspaces : ∀ c ∈ spaces, isBlank c) :
    entries.lookup (String.ofList (baseName (cs ++ (spaces ++ '(' :: rest))))
      = if " unsigned".toList <:+ cs ∧ spaces ≠ [] then none
        else entries.lookup (String.ofList (baseName cs)) := by
  have hblanks : '(' ∉ spaces := fun h => absurd (hspaces _ h) (by decide)
  rw [baseName, baseName, ← List.append_assoc, takeWhile_append_paren (by simp [hparen, hblanks]),
    takeWhile_of_not_mem hparen, trimChars_dropEndings_append hspaces]
  by_cases hempty : spaces = []
  · rw [if_pos hempty, if_neg fun h => h.2 hempty]
  · rw [if_neg hempty]
    split
    · next hunsigned =>
      exact lookup_of_suffix hentries (suffix_trimChars_of_suffix hunsigned.1)
    · next hplain =>
      rw [dropEndings_of_not_suffix fun h => hplain ⟨h, hempty⟩]

/-! ## Names with parameters -/

/-- The entries of a table are such that parameters make a name unknown at worst. -/
def IsOrderly : TypeTable → Prop
  | .names entries => ∀ entry ∈ entries, ¬ "unsigned".toList <:+ entry.1.toList
  | .rules entries => TypeRule.AreOrderly entries

instance : DecidablePred IsOrderly
  | .names entries =>
    inferInstanceAs (Decidable (∀ entry ∈ entries, ¬ "unsigned".toList <:+ entry.1.toList))
  | .rules entries => inferInstanceAs (Decidable (TypeRule.AreOrderly entries))

/-- Whether a name has the same type with parameters after it. A list of names finds it unless
blanks stand between a trailing ` unsigned` and the parameters; of patterns, one that the name may
go on from has to be the first that matches. -/
def keepsType (table : TypeTable) (native : String) : Bool :=
  let cs := (lower (trim native)).toList
  match table with
  | .names _ =>
    !" unsigned".toList.isSuffixOf cs || trimStartChars native.toList == trimChars native.toList
  | .rules entries => (entries.find? (·.admits cs)).all (!·.atEnd)

theorem find?_names (entries : List (String × ColumnType)) (native : String) :
    (names entries).find? native
      = entries.lookup (String.ofList (baseName (lower (trim native)).toList)) := rfl

theorem find?_rules (entries : List TypeRule) (native : String) :
    (rules entries).find? native
      = (entries.find? (·.admits (lower (trim native)).toList)).map (·.type) := rfl

theorem keepsType_names (entries : List (String × ColumnType)) (native : String) :
    (names entries).keepsType native
      = (!" unsigned".toList.isSuffixOf (lower (trim native)).toList
        || trimStartChars native.toList == trimChars native.toList) := rfl

theorem keepsType_rules (entries : List TypeRule) (native : String) :
    (rules entries).keepsType native
      = (entries.find? (·.admits (lower (trim native)).toList)).all (!·.atEnd) := rfl

/-- Parameters as they follow a name. -/
def inParentheses (parameters : String) : List Char :=
  '(' :: (parameters.toList ++ [')'])

theorem getLast?_inParentheses (parameters : String) :
    (inParentheses parameters).getLast? = some ')' := by
  rw [inParentheses, ← List.cons_append, List.getLast?_concat]

/-- A name with parameters is read as the name, the blanks after it, and the parameters. -/
theorem exists_lower_trim_append (native : String) {parameters : String}
    (hparameters : ∀ c ∈ parameters.toList, c.isDigit ∨ c = ',' ∨ c = ' ') :
    ∃ spaces, (∀ c ∈ spaces, isBlank c)
      ∧ trimStartChars native.toList = trimChars native.toList ++ spaces
      ∧ (∀ c ∈ spaces ++ inParentheses parameters, IsBreak c)
      ∧ (lower (trim (native ++ "(" ++ parameters ++ ")"))).toList
        = (lower (trim native)).toList ++ (spaces ++ inParentheses parameters) := by
  obtain ⟨spaces, hsplit, hspaces⟩ := exists_trimEnd_append (trimStartChars native.toList)
  have hbreak : ∀ c ∈ spaces ++ inParentheses parameters, IsBreak c := by
    intro c hc
    simp only [inParentheses, List.mem_append, List.mem_cons, List.not_mem_nil, or_false] at hc
    rcases hc with hc | rfl | hc | rfl
    · exact isBreak_of_isBlank (hspaces c hc)
    · decide +kernel
    · rcases hparameters c hc with hdigit | rfl | rfl
      · exact isBreak_of_isDigit hdigit
      · decide +kernel
      · decide +kernel
    · decide +kernel
  refine ⟨spaces, hspaces, hsplit, hbreak, ?_⟩
  have htrim : (trim (native ++ "(" ++ parameters ++ ")")).toList
      = (trim native).toList ++ (spaces ++ inParentheses parameters) := by
    have htext : (native ++ "(" ++ parameters ++ ")").toList
        = native.toList ++ inParentheses parameters := by
      simp [String.toList_append, inParentheses]
    rw [trim, trim, String.toList_ofList, String.toList_ofList, htext,
      trimChars_append_of_ends ⟨'(', rfl, by decide⟩
        ⟨')', getLast?_inParentheses parameters, by decide⟩, hsplit, List.append_assoc]
    rfl
  rw [lower, lower, String.toList_ofList, String.toList_ofList, htrim,
    lowerFrom_append fun c hc => hbreak c (List.mem_of_mem_head? hc), lowerFrom_of_isBreak hbreak]

/-- A name without a parenthesis is read without one. -/
theorem paren_not_mem_lower_trim {native : String} (hnative : '(' ∉ native.toList) :
    '(' ∉ (lower (trim native)).toList := by
  rw [lower, String.toList_ofList]
  refine paren_not_mem_lowerFrom fun hmem => hnative ?_
  rw [trim, String.toList_ofList] at hmem
  exact mem_of_mem_trimChars hmem

/-- **A name with parameters has the type of the name or none.** -/
theorem find?_parameters {table : TypeTable} (horderly : table.IsOrderly)
    {native parameters : String} (hnative : '(' ∉ native.toList)
    (hparameters : ∀ c ∈ parameters.toList, c.isDigit ∨ c = ',' ∨ c = ' ') :
    table.find? (native ++ "(" ++ parameters ++ ")")
      = if table.keepsType native then table.find? native else none := by
  obtain ⟨spaces, hspaces, hsplit, hbreak, hname⟩ := exists_lower_trim_append native hparameters
  have hparen := paren_not_mem_lower_trim hnative
  cases table with
  | names entries =>
    rw [find?_names, find?_names, hname, inParentheses,
      lookup_baseName_append horderly hparen hspaces]
    have hspaced : trimStartChars native.toList = trimChars native.toList ↔ spaces = [] := by
      rw [hsplit, List.append_right_eq_self]
    have hkeeps : (names entries).keepsType native
        ↔ ¬ (" unsigned".toList <:+ (lower (trim native)).toList ∧ spaces ≠ []) := by
      rw [keepsType_names, Bool.or_eq_true, Bool.not_eq_true', ← Bool.not_eq_true,
        List.isSuffixOf_iff_suffix, beq_iff_eq, hspaced, not_and_or, not_not]
    split
    · next hlost => rw [if_neg fun h => hkeeps.1 h hlost]
    · next hkept => rw [if_pos (hkeeps.2 hkept)]
  | rules entries =>
    have hlast : (spaces ++ inParentheses parameters).getLast? = some ')' := by
      have hne : inParentheses parameters ≠ [] := List.cons_ne_nil _ _
      rw [List.getLast?_append_of_ne_nil spaces hne, getLast?_inParentheses]
    rw [find?_rules, find?_rules, hname, TypeRule.find?_admits_append horderly hbreak hlast,
      keepsType_rules]
    cases entries.find? (·.admits (lower (trim native)).toList) with
    | none => rfl
    | some first =>
      cases hend : first.atEnd with
      | true => simp [hend]
      | false => simp [hend]

end TypeTable

namespace BackendKind

/-- The tables of the five backends are orderly. -/
theorem isOrderly_types (kind : BackendKind) : kind.types.IsOrderly := by
  cases kind <;> decide +kernel

/-- **A length or a precision at most hides the type.** A native type name has the same type with
parameters after it where the table of the backend keeps the type of the name, and is a label
otherwise: behind a pattern for whole names, and in a list of names where blanks stand between
` unsigned` and the parameters. -/
theorem classify_parameters (kind : BackendKind) {native parameters : String}
    (hnative : '(' ∉ native.toList)
    (hparameters : ∀ c ∈ parameters.toList, c.isDigit ∨ c = ',' ∨ c = ' ') :
    kind.types.classify (native ++ "(" ++ parameters ++ ")")
      = if kind.types.keepsType native then kind.types.classify native else .hierarchy := by
  rw [TypeTable.classify, TypeTable.classify,
    TypeTable.find?_parameters kind.isOrderly_types hnative hparameters]
  split <;> rfl

/-- A pattern that a name may go on from is reached behind blanks and in capitals. -/
theorem classify_parameters_numeric :
    '(' ∉ " NUMERIC ".toList ∧ (∀ c ∈ "10, 2".toList, c.isDigit ∨ c = ',' ∨ c = ' ')
      ∧ postgres.types.keepsType " NUMERIC "
      ∧ postgres.types.classify (" NUMERIC " ++ "(" ++ "10, 2" ++ ")") = .numeric := by
  have hnative : '(' ∉ " NUMERIC ".toList := by decide
  have hparameters : ∀ c ∈ "10, 2".toList, c.isDigit ∨ c = ',' ∨ c = ' ' := by simp
  have hkeeps : postgres.types.keepsType " NUMERIC " := by decide +kernel
  refine ⟨hnative, hparameters, hkeeps, ?_⟩
  rw [classify_parameters postgres hnative hparameters, if_pos hkeeps]
  decide +kernel

/-- Some types are lost: the patterns for whole names do not ask for the parentheses that a
precision comes in, and a list of names looks for ` unsigned` before it trims. -/
theorem classify_parameters_lost :
    (sqlserver.types.classify "datetime2" = .datetime
      ∧ sqlserver.types.classify ("datetime2" ++ "(" ++ "7" ++ ")") = .hierarchy)
    ∧ mysql.types.classify "int unsigned " = .numeric
      ∧ mysql.types.classify ("int unsigned " ++ "(" ++ "10" ++ ")") = .hierarchy := by
  decide +kernel

end BackendKind

end Pushdown
