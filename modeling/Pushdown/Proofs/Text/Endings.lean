import Mathlib.Data.List.TakeWhile
import Pushdown.Text.Blank
import Pushdown.Text.Lower

/-!
# What is written after a text

A text in lower case goes on where more is written after it: the images of the characters stand as
they were when what follows starts with a character that ends a word (`Text.lowerFrom_append`), and
blanks and the marks of ASCII are their own images. A text that goes on with an ending between two
characters that are not blank is trimmed at its start only (`Text.trimChars_append_of_ends`), and
what `Text.trimChars` takes off an end is blanks.
-/

namespace Pushdown.Text

variable {c : Char} {cs ds : List Char} {before : List Char}

/-! ## Blanks -/

/-- The characters with the property `White_Space`. -/
def blanks : List Char :=
  [0x09, 0x0A, 0x0B, 0x0C, 0x0D, 0x20, 0x85, 0xA0, 0x1680, 0x2000, 0x2001, 0x2002, 0x2003, 0x2004,
    0x2005, 0x2006, 0x2007, 0x2008, 0x2009, 0x200A, 0x2028, 0x2029, 0x202F, 0x205F, 0x3000].map
    Char.ofNat

theorem mem_blanks (h : isBlank c) : c ∈ blanks := by
  simp only [isBlank, UInt32.le_iff_toNat_le, UInt32.reduceToNat, Char.toNat_val, Bool.or_eq_true,
    Bool.and_eq_true, decide_eq_true_eq, beq_iff_eq, ← UInt32.toNat_inj] at h
  rw [← Char.ofNat_toNat c, blanks, List.mem_map]
  refine ⟨c.toNat, ?_, rfl⟩
  simp only [List.mem_cons, List.not_mem_nil, or_false]
  omega

/-- A character that is its own lower-case image and at which a word ends. -/
def IsBreak (c : Char) : Prop :=
  (isCaseIgnorable c = false ∧ isCased c = false) ∧ c.val ≠ 0x3A3 ∧ lowerChar c = [c]

instance : DecidablePred IsBreak := fun c => by unfold IsBreak; infer_instance

theorem isBreak_of_isBlank (h : isBlank c) : IsBreak c := by
  have hblanks : blanks.all (fun c => decide (IsBreak c)) = true := by decide +kernel
  exact of_decide_eq_true (List.all_eq_true.1 hblanks c (mem_blanks h))

theorem isBreak_of_isDigit (h : c.isDigit) : IsBreak c := by
  have hdigit : ∀ n < 0x3A, (Char.ofNat n).isDigit → IsBreak (Char.ofNat n) := by decide +kernel
  have hc := hdigit c.toNat (Nat.lt_succ_of_le (Char.isDigit_iff_toNat.1 h).2)
  rw [Char.ofNat_toNat] at hc
  exact hc h

/-- A word does not end at a letter. -/
theorem isLower_eq_false_of_isBreak (h : IsBreak c) : c.isLower = false := by
  rw [Bool.eq_false_iff]
  intro hlower
  have hletter : ∀ n < 0x80, (Char.ofNat n).isLower → isCased (Char.ofNat n) := by decide +kernel
  have hhigh : c.val ≤ 'z'.val := of_decide_eq_true (Bool.and_eq_true_iff.1 hlower).2
  have hc := hletter c.toNat (Nat.lt_of_le_of_lt (UInt32.le_iff_toNat_le.1 hhigh) (by decide))
  rw [Char.ofNat_toNat, h.1.2] at hc
  exact absurd (hc hlower) (by decide)

/-! ## Lower case -/

/-- Whether a sigma stands before a cased character does not depend on what follows a break. -/
theorem meetsCased_append (hbreak : ∀ c ∈ ds.head?, IsBreak c) :
    meetsCased (cs ++ ds) = meetsCased cs := by
  rw [meetsCased, meetsCased, List.dropWhile_append]
  cases hrest : cs.dropWhile isCaseIgnorable with
  | cons c rest => rfl
  | nil =>
    cases ds with
    | nil => rfl
    | cons d ds =>
      obtain ⟨⟨hignorable, hcased⟩, -⟩ := hbreak d rfl
      simp [hignorable, hcased]

/-- **A text in lower case goes on.** What follows, if it starts with a break, changes no image. -/
theorem lowerFrom_append (hbreak : ∀ c ∈ ds.head?, IsBreak c) :
    lowerFrom before (cs ++ ds) = lowerFrom before cs ++ lowerFrom (cs.reverse ++ before) ds := by
  induction cs generalizing before with
  | nil => rfl
  | cons c cs ih =>
    simp only [List.cons_append, lowerFrom, ih, List.append_assoc, List.reverse_cons,
      List.nil_append, lowerSigma, meetsCased_append hbreak]

/-- Breaks are their own images. -/
theorem lowerFrom_of_isBreak (h : ∀ c ∈ cs, IsBreak c) : lowerFrom before cs = cs := by
  induction cs generalizing before with
  | nil => rfl
  | cons c cs ih =>
    obtain ⟨-, hsigma, himage⟩ := h c List.mem_cons_self
    rw [lowerFrom, if_neg (by simpa using hsigma), himage,
      ih fun d hd => h d (List.mem_cons_of_mem _ hd)]
    rfl

/-- No range of capital letters maps to a character as low as the parenthesis. -/
theorem high_of_mem_lowerRanges :
    ∀ range ∈ lowerRanges, '('.toNat < (range.1 : Int) + range.2.2.2 := by
  decide +kernel

theorem ofNat_ne_paren {n : Nat} (h : '('.toNat < n) : Char.ofNat n ≠ '(' := by
  intro heq
  by_cases hvalid : n.isValidChar
  · rw [Char.ofNat, dif_pos hvalid] at heq
    have : n = '('.toNat := congrArg Char.toNat heq
    omega
  · rw [Char.ofNat, dif_neg hvalid] at heq
    exact absurd heq (by decide)

/-- Only a parenthesis has a parenthesis as its image. -/
theorem eq_paren_of_mem_lowerChar (h : '(' ∈ lowerChar c) : c = '(' := by
  unfold lowerChar at h
  split at h
  · next hascii =>
    have hplain : ∀ n < 0x80, '(' = (if (Char.ofNat n).isUpper then (Char.ofNat n).toLower
        else Char.ofNat n) → Char.ofNat n = '(' := by decide +kernel
    have hc := hplain c.toNat (UInt32.lt_iff_toNat_lt.1 hascii)
    rw [Char.ofNat_toNat] at hc
    exact hc (List.mem_singleton.1 h)
  · split at h
    · exact absurd h (by decide)
    · split at h
      · next lo hi step distance hrange =>
        have hhigh := high_of_mem_lowerRanges _ (List.mem_of_find?_eq_some hrange)
        have hin := List.find?_some hrange
        simp only [Bool.and_eq_true, decide_eq_true_eq] at hin hhigh
        exact absurd (List.mem_singleton.1 h).symm (ofNat_ne_paren (by omega))
      · exact (List.mem_singleton.1 h).symm

theorem paren_not_mem_lowerFrom (h : '(' ∉ cs) : '(' ∉ lowerFrom before cs := by
  induction cs generalizing before with
  | nil => exact List.not_mem_nil
  | cons c cs ih =>
    obtain ⟨hc, hcs⟩ := List.ne_and_not_mem_of_not_mem_cons h
    rw [lowerFrom, List.mem_append, not_or]
    refine ⟨?_, ih hcs⟩
    split
    · rw [List.mem_singleton, lowerSigma]
      split <;> decide
    · exact fun hmem => hc (eq_paren_of_mem_lowerChar hmem).symm

/-! ## Trimming -/

theorem mem_of_mem_trimChars (h : c ∈ trimChars cs) : c ∈ cs := by
  rw [trimChars, trimEndChars, List.mem_reverse] at h
  have hstart : c ∈ trimStartChars cs := List.mem_reverse.1 (List.dropWhile_sublist _ |>.mem h)
  exact (List.dropWhile_sublist _).mem hstart

/-- A text that goes on with something between two characters that are not blank is trimmed at its
start only. -/
theorem trimChars_append_of_ends (hhead : ∃ c ∈ ds.head?, isBlank c = false)
    (hlast : ∃ c ∈ ds.getLast?, isBlank c = false) :
    trimChars (cs ++ ds) = trimStartChars cs ++ ds := by
  obtain ⟨d, hd, hblank⟩ := hhead
  obtain ⟨e, he, hend⟩ := hlast
  obtain ⟨ds, rfl⟩ : ∃ rest, ds = d :: rest := List.head?_eq_some_iff.1 hd
  have hstart : trimStartChars (cs ++ d :: ds) = trimStartChars cs ++ d :: ds := by
    rw [trimStartChars, List.dropWhile_append]
    split
    · next hempty =>
      rw [trimStartChars, List.isEmpty_iff.1 hempty]
      exact trimStart_append_of_not_blank hblank ds
    · rfl
  obtain ⟨init, hinit⟩ := List.getLast?_eq_some_iff.1 he
  rw [trimChars, hstart, hinit, trimEnd_eq_reverse, ← List.append_assoc, List.reverse_append,
    List.reverse_singleton, List.singleton_append, trimStart_append_of_not_blank hend]
  simp

/-- What is trimmed off an end is blanks. -/
theorem exists_trimEnd_append (cs : List Char) :
    ∃ spaces, cs = trimEndChars cs ++ spaces ∧ ∀ c ∈ spaces, isBlank c := by
  refine ⟨(cs.reverse.takeWhile isBlank).reverse, ?_, fun c hc => ?_⟩
  · rw [trimEndChars, ← List.reverse_append, List.takeWhile_append_dropWhile, List.reverse_reverse]
  · exact List.mem_takeWhile_imp (List.mem_reverse.1 hc)

/-- Blanks at the end make no difference to a trimmed text. -/
theorem trimChars_append_blanks (h : ∀ c ∈ ds, isBlank c) :
    trimChars (cs ++ ds) = trimChars cs := by
  rw [trimChars, trimChars, trimStartChars, List.dropWhile_append]
  split
  · next hempty =>
    rw [trimStartChars, List.isEmpty_iff.1 hempty, List.dropWhile_eq_nil_iff.2 h]
  · rw [trimEndChars, List.reverse_append,
      List.dropWhile_append_of_pos fun c hc => h c (List.mem_reverse.1 hc)]
    rfl

end Pushdown.Text
