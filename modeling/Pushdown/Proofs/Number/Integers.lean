import Mathlib.Algebra.Group.Nat.Defs
import Mathlib.Data.List.TakeWhile
import Pushdown.Number.Layout
import Pushdown.Number.Numeral
import Pushdown.Predicate.Basic
import Pushdown.Proofs.Relational.PageClause

/-!
# Integers as numbers

Every number of a filter, and every numeral a backend answers with, passes through `Binary64`
(`Binary64.ofText?_toString`). Up to `Binary64.exactLimit` nothing of an integer is lost on the way:
it is a number (`Binary64.truncate_ofInt`), and a statement writes this number as the integer's
numeral (`Dialect.numberText_ofInt`).

The numeral is not obvious. From `integralBound` on a statement writes the shortest digits that
read back, and zeros in place of the others. These are the digits of the integer because its
neighbours are one away: `Binary64.denotes_shortest` follows the search for them.
-/

namespace Pushdown

namespace Binary64

/-- The fifty-third power of two. Up to it every integer is a number. -/
def exactLimit : Nat := 9007199254740992

/-! ## Integers are numbers -/

theorem scaled_up (num den s : Nat) : scaled num den s = (num * 2 ^ s, den) := by
  simp [scaled]

theorem scaled_down (num den s : Nat) : scaled num den (-s) = (num, den * 2 ^ s) := by
  unfold scaled
  split
  · have hs : s = 0 := by omega
    simp [hs]
  · simp

section
variable (negative : Bool) (n s : Nat)

theorem isIntegral_scaled : isIntegral (.finite negative (n * 2 ^ s) (-s)) := by
  simp [isIntegral]

theorem truncate_scaled :
    truncate (.finite negative (n * 2 ^ s) (-s)) = if negative then -(n : Int) else n := by
  have hfloor : floorAbs (n * 2 ^ s) (-s) = n := by
    unfold floorAbs
    split
    · have hs : s = 0 := by omega
      simp [hs]
    · rw [Int.neg_neg, Int.toNat_natCast]
      exact Nat.mul_div_cancel n (Nat.two_pow_pos s)
  rw [truncate, hfloor]

end

theorem magnitude_one {n : Nat} (hne : n ≠ 0) : magnitude n 1 = n.log2 := by
  have hself : 2 ^ n.log2 ≤ n := Nat.log2_self_le hne
  have hone : Nat.log2 1 = 0 := by decide
  simp [magnitude, hone, scaled_down, hself]

/-- Below the limit an integer keeps its digits: the significand is the integer, moved up until it
has 53 bits. -/
theorem ofRatio_one (negative : Bool) {n : Nat} (hne : n ≠ 0) (hn : n < exactLimit) :
    ofRatio negative n 1
      = .finite negative (n * 2 ^ (52 - n.log2)) (-(52 - n.log2 : Nat)) := by
  have hlog : n.log2 < 53 := (Nat.log2_lt hne).2 hn
  have hexponent : max (magnitude n 1 - 52) minExponent = -(52 - n.log2 : Nat) := by
    rw [magnitude_one hne, minExponent]
    omega
  have hround (a : Nat) : roundHalfEven a 1 = a := by
    simp [roundHalfEven, Nat.mod_one]
  have hsignificand : n * 2 ^ (52 - n.log2) < 2 * halfSignificand := by
    have hlt : n < 2 ^ (n.log2 + 1) := Nat.lt_log2_self
    calc n * 2 ^ (52 - n.log2) < 2 ^ (n.log2 + 1) * 2 ^ (52 - n.log2) :=
          Nat.mul_lt_mul_of_pos_right hlt (Nat.two_pow_pos _)
      _ = 2 ^ 53 := by
          rw [← Nat.pow_add]
          congr 1
          omega
      _ = 2 * halfSignificand := by decide
  have hmax : ¬ maxExponent < -(52 - n.log2 : Nat) := by
    rw [maxExponent]
    omega
  simp only [ofRatio, if_neg hne, hexponent, Int.neg_neg, scaled_up, hround,
    if_neg (Nat.ne_of_lt hsignificand), if_neg hmax]

theorem exists_ofInt_eq {k : Int} (hk : k.natAbs < exactLimit) :
    ∃ s : Nat, ofInt k = .finite (k < 0) (k.natAbs * 2 ^ s) (-s) := by
  by_cases hzero : k = 0
  · subst hzero
    refine ⟨1074, ?_⟩
    simp only [Int.natAbs_zero, Nat.zero_mul]
    rfl
  · exact ⟨_, ofRatio_one _ (Int.natAbs_ne_zero.2 hzero) hk⟩

/-- A number whose last digit does not count less than one is an integer. -/
theorem isIntegral_ofRatio (negative : Bool) {num den : Nat} (hne : num ≠ 0)
    (hlow : 52 ≤ magnitude num den) (hhigh : magnitude num den < maxExponent + 52) :
    (ofRatio negative num den).isIntegral := by
  have hexponent : max (magnitude num den - 52) minExponent = magnitude num den - 52 := by
    rw [minExponent]
    omega
  have hintegral {m : Nat} {e : Int} (he : 0 ≤ e) (hmax : e ≤ maxExponent) :
      (if maxExponent < e then infinite negative else finite negative m e).isIntegral := by
    rw [if_neg (by omega)]
    simp [isIntegral, he]
  simp only [ofRatio, if_neg hne, hexponent]
  split
  · exact hintegral (by omega) (by omega)
  · exact hintegral (by omega) (by omega)

/-- A 64-bit integer is rounded to an integer: beyond the limit there are no fractions left. -/
theorem isIntegral_ofInt {k : Int} (hk : k.natAbs ≤ nat64Max) : (ofInt k).isIntegral := by
  by_cases hlt : k.natAbs < exactLimit
  · obtain ⟨s, hs⟩ := exists_ofInt_eq hlt
    rw [hs]
    exact isIntegral_scaled ..
  · have hlow : 2 ^ 53 ≤ k.natAbs := Nat.not_lt.1 hlt
    have hne : k.natAbs ≠ 0 := by omega
    have hlog : 53 ≤ k.natAbs.log2 := (Nat.le_log2 hne).2 hlow
    have hlog' : k.natAbs.log2 < 64 := (Nat.log2_lt hne).2 (Nat.lt_of_le_of_lt hk (by decide))
    refine isIntegral_ofRatio _ hne ?_ ?_ <;> rw [magnitude_one hne]
    · omega
    · rw [maxExponent]
      omega

/-- From the least full significand on, an integer is its own significand. -/
theorem ofInt_eq_of_le {k : Int} (hlow : halfSignificand ≤ k.natAbs) (hk : k.natAbs < exactLimit) :
    ofInt k = .finite (k < 0) k.natAbs 0 := by
  have hne : k.natAbs ≠ 0 := by
    rintro h
    rw [h] at hlow
    exact absurd hlow (by decide)
  have hlog : k.natAbs.log2 = 52 := (Nat.log2_eq_iff hne).2 ⟨hlow, hk⟩
  rw [ofInt, ofRatio_one _ hne hk, hlog]
  simp

/-- Up to the limit an integer is a number: it loses nothing. -/
theorem truncate_ofInt {k : Int} (hk : k.natAbs ≤ exactLimit) : (ofInt k).truncate = k := by
  rcases Nat.lt_or_eq_of_le hk with hlt | heq
  · obtain ⟨s, hs⟩ := exists_ofInt_eq hlt
    rw [hs, truncate_scaled]
    simp only [decide_eq_true_eq]
    omega
  · rcases Int.natAbs_eq k with h | h <;> rw [heq] at h <;> subst h <;> decide

theorem isFinite_of_isIntegral {x : Binary64} (h : x.isIntegral) : x.isFinite := by
  cases x with
  | finite => rfl
  | infinite | nan => cases h

/-- A bound on a number is a bound on its integer part. -/
theorem absBelow_eq {x : Binary64} (hx : x.isFinite) (bound : Nat) :
    x.absBelow bound = decide (x.truncate.natAbs < bound) := by
  cases x with
  | finite negative m e =>
    have hnatAbs : (truncate (.finite negative m e)).natAbs = floorAbs m e := by
      cases negative <;> simp [truncate]
    rw [hnatAbs, absBelow, floorAbs]
    split
    · rfl
    · exact decide_eq_decide.2 (Nat.div_lt_iff_lt_mul (Nat.two_pow_pos _)).symm
  | infinite | nan => cases hx

/-! ## The shortest digits of an integer -/

/-- The decimal is a natural number, written without a fraction. -/
def Decimal.Denotes (d : Decimal) (n : Nat) : Prop :=
  ∃ p : Nat, d.exponent = p ∧ d.digits * 10 ^ p = n

theorem Decimal.Denotes.strip {d : Decimal} {n : Nat} (h : d.Denotes n) (fuel : Nat) :
    (d.strip fuel).Denotes n := by
  induction fuel generalizing d with
  | zero => exact h
  | succ fuel ih =>
    rw [Decimal.strip]
    split
    · next hzero =>
      obtain ⟨p, hp, hdigits⟩ := h
      refine ih ⟨p + 1, by simp [hp], ?_⟩
      have hten : d.digits / 10 * 10 = d.digits :=
        Nat.div_mul_cancel (Nat.dvd_of_mod_eq_zero hzero.2)
      rw [Nat.pow_succ', ← Nat.mul_assoc, hten, hdigits]
    · exact h

section
variable {tie : Tie} {closed : Bool} {n : Nat}

/-- A candidate lies in the interval it is taken from. -/
theorem inside_of_candidate {low value high den p : Nat} {d : Decimal}
    (h : candidate tie low value high den closed p = some d) :
    d.exponent = p ∧ low ≤ d.digits * (den * 10 ^ p) ∧ d.digits * (den * 10 ^ p) ≤ high := by
  simp only [candidate, gridFloor, Int.natCast_nonneg, if_true, Int.toNat_natCast, Nat.mul_one,
    Nat.pow_eq] at h
  cases closed <;>
    simp only [if_true, if_false, Bool.false_eq_true, Bool.and_eq_true, decide_eq_true_eq] at h
  all_goals
    split at h
    · next hdown =>
      obtain rfl := Option.some.inj h
      refine ⟨rfl, ?_⟩
      dsimp only
      omega
    · split at h
      · next hup =>
        obtain rfl := Option.some.inj h
        refine ⟨rfl, ?_⟩
        dsimp only
        omega
      · cases h

/-- A decimal without a fraction reads back as an integer only if it is the integer, since it is
nearer than half way to the next one. -/
theorem denotes_of_candidate {p : Nat} {d : Decimal}
    (h : candidate tie (4 * n - 2) (4 * n) (4 * n + 2) 4 closed p = some d) : d.Denotes n := by
  obtain ⟨hexponent, hlow, hhigh⟩ := inside_of_candidate h
  have hfour : d.digits * (4 * 10 ^ p) = 4 * (d.digits * 10 ^ p) := Nat.mul_left_comm ..
  exact ⟨p, hexponent, by omega⟩

/-- With all of its digits the integer is a candidate. -/
theorem candidate_zero (hn : n ≠ 0) :
    candidate tie (4 * n - 2) (4 * n) (4 * n + 2) 4 closed 0 = some ⟨n, 0⟩ := by
  have hfloor : 4 * n / 4 = n := Nat.mul_div_cancel_left n (by decide)
  cases closed <;> simp [candidate, gridFloor, hfloor] <;> omega

/-- The search ends at the units at the latest. The induction is on the places above them. -/
theorem denotes_search (hn : n ≠ 0) {fuel : Nat} (hfuel : fuel ≤ 15) :
    (search tie (4 * n - 2) (4 * n) (4 * n + 2) 4 closed 15 (fuel + 2)).Denotes n := by
  induction fuel with
  | zero =>
    have hplace : (15 : Int) - (16 - 1 : Nat) = 0 := by decide
    rw [search, hplace, candidate_zero hn]
    exact ⟨0, rfl, Nat.mul_one n⟩
  | succ fuel ih =>
    have hplace : (15 : Int) - (16 - (fuel + 2) : Nat) = (fuel + 1 : Nat) := by omega
    rw [search, hplace]
    split
    · exact denotes_of_candidate ‹_›
    · exact ih (by omega)

/-- The shortest digits of an integer of sixteen places are its own. -/
theorem denotes_shortest (hlow : integralBound ≤ n) (hn : n < exactLimit) :
    (shortest tie n 0).Denotes n := by
  rw [integralBound] at hlow
  rw [exactLimit] at hn
  have hinterval : readBackInterval n 0 = (4 * n - 2, 4 * n, 4 * n + 2, 4) := by
    have hhalf : n ≠ halfSignificand := by
      rw [halfSignificand]
      omega
    simp [readBackInterval, scaled, hhalf]
  have hmagnitude : magnitude (4 * n) 4 = 52 := by
    have hlog : (4 * n).log2 = 54 := (Nat.log2_eq_iff (by omega)).2 (by omega)
    have hfour : Nat.log2 4 = 2 := by decide
    have hreaches : 18014398509481984 ≤ 4 * n := by omega
    simp [magnitude, scaled, hlog, hfour, hreaches]
  have htop : decimalMagnitude (4 * n) 4 = 15 := by
    have hreaches : decide (4 * 10 ^ 15 ≤ 4 * n) = true := by
      rw [decide_eq_true_eq]
      omega
    have hnot : decide (4 * 10 ^ 16 ≤ 4 * n) = false := by
      rw [decide_eq_false_iff_not]
      omega
    rw [decimalMagnitude, hmagnitude]
    change (if decide (4 * 10 ^ 16 ≤ 4 * n) then (16 : Int)
      else if decide (4 * 10 ^ 15 ≤ 4 * n) then 15 else 14) = 15
    rw [hnot, hreaches]
    rfl
  have hne : n ≠ 0 := by omega
  rw [shortest, if_neg hne, hinterval]
  dsimp only
  rw [htop]
  exact (denotes_search hne (Nat.le_refl 15)).strip 20

end

end Binary64

/-! ## Numerals -/

/-- Powers of ten put zeros behind a numeral. -/
theorem repr_mul_pow {n : Nat} (hn : n ≠ 0) (p : Nat) :
    (n * 10 ^ p).repr = n.repr ++ Layout.zeros p := by
  have hpos (p : Nat) : 0 < n * 10 ^ p :=
    Nat.mul_pos (Nat.pos_of_ne_zero hn) (Nat.pow_pos (by decide))
  rw [← String.toList_inj]
  induction p with
  | zero => simp [Layout.zeros]
  | succ p ih =>
    have hshift : n * 10 ^ (p + 1) = 10 * (n * 10 ^ p) + 0 := by
      rw [Nat.pow_succ', Nat.mul_left_comm, Nat.add_zero]
    rw [hshift, Nat.toList_repr, ← Nat.toDigits_append_toDigits (by decide) (hpos p) (by decide),
      ← Nat.toList_repr, ih]
    simp [Layout.zeros, List.replicate_succ']

/-- The digits of an integer, with as many zeros as its exponent says, are its numeral. -/
theorem Binary64.Decimal.Denotes.positionalText {d : Binary64.Decimal} {n : Nat} (h : d.Denotes n)
    (hn : n ≠ 0) : Layout.positionalText "" (toString d.digits) d.exponent = toString n := by
  obtain ⟨p, hexponent, rfl⟩ := h
  have hdigits : d.digits ≠ 0 := (Nat.mul_ne_zero_iff.1 hn).1
  have htext : toString (d.digits * 10 ^ p) = toString d.digits ++ Layout.zeros p :=
    repr_mul_pow hdigits p
  simp [Layout.positionalText, hexponent, htext]

/-- The numeral of an integer: its sign and the digits of its magnitude. -/
theorem toString_int (k : Int) :
    toString k = (if k < 0 then "-" else "") ++ toString k.natAbs := by
  cases k with
  | ofNat n =>
    have hn : ¬ Int.ofNat n < 0 := Int.not_lt.2 (Int.natCast_nonneg n)
    rw [if_neg hn, String.empty_append]
    rfl
  | negSucc n =>
    rw [if_pos (Int.negSucc_lt_zero n)]
    rfl

/-- The shortest digits of an integer up to the limit make its numeral. -/
theorem Layout.text_ofInt {k : Int} (hlow : integralBound ≤ k.natAbs)
    (hk : k.natAbs ≤ Binary64.exactLimit) : Layout.statement.text (.ofInt k) = toString k := by
  rcases Nat.lt_or_eq_of_le hk with hlt | heq
  · have hne : k.natAbs ≠ 0 := by
      rw [integralBound] at hlow
      omega
    have hhalf : Binary64.halfSignificand ≤ k.natAbs := Nat.le_trans (by decide) hlow
    rw [Binary64.ofInt_eq_of_le hhalf hlt, toString_int]
    change (if decide (k < 0) then "-" else "")
        ++ positionalText "" (toString (Binary64.shortest .up k.natAbs 0).digits)
          (Binary64.shortest .up k.natAbs 0).exponent = _
    rw [(Binary64.denotes_shortest hlow hlt).positionalText hne]
    simp only [decide_eq_true_eq]
  · rcases Int.natAbs_eq k with h | h <;> rw [heq] at h <;> subst h <;> decide +kernel

/-- In a statement an integer up to the limit is written as its numeral. -/
theorem Dialect.numberText_ofInt {k : Int} (hk : k.natAbs ≤ Binary64.exactLimit) :
    numberText (.ofInt k) = toString k := by
  have htruncate := Binary64.truncate_ofInt hk
  rw [numberText]
  split
  · rw [htruncate]
  · next hlarge =>
    have hintegral := Binary64.isIntegral_ofInt (Nat.le_trans hk (by decide))
    have hfinite := Binary64.isFinite_of_isIntegral hintegral
    refine Layout.text_ofInt ?_ hk
    simpa [Binary64.writesAsInteger, hintegral, Binary64.absBelow_eq hfinite, htruncate]
      using hlarge

/-! ## Numerals read back -/

namespace Text

/-- There is nothing to trim off a text without blanks. -/
theorem trim_eq_self {s : String} (h : ∀ c ∈ s.toList, isBlank c = false) : trim s = s := by
  have hstart {cs : List Char} (hcs : ∀ c ∈ cs, isBlank c = false) : trimStartChars cs = cs := by
    cases cs with
    | nil => rfl
    | cons c cs => exact trimStart_append_of_not_blank (hcs c List.mem_cons_self) cs
  have hreverse : ∀ c ∈ s.toList.reverse, isBlank c = false :=
    fun c hc => h c (List.mem_reverse.1 hc)
  rw [trim, trimChars, trimEnd_eq_reverse, hstart h, hstart hreverse, List.reverse_reverse,
    String.ofList_toList]

theorem isBlank_of_isDigit {c : Char} (h : c.isDigit) : isBlank c = false := by
  obtain ⟨hlow, hhigh⟩ : 48 ≤ c.toNat ∧ c.toNat ≤ 57 := Char.isDigit_iff_toNat.1 h
  rw [Bool.eq_false_iff]
  intro hblank
  simp only [isBlank, UInt32.le_iff_toNat_le, UInt32.reduceToNat, Char.toNat_val, Bool.or_eq_true,
    Bool.and_eq_true, decide_eq_true_eq, beq_iff_eq, ← UInt32.toNat_inj] at hblank
  omega

theorem toLower_of_isDigit {c : Char} (h : c.isDigit) : c.toLower = c := by
  have hhigh : c.toNat ≤ '9'.toNat := (Char.isDigit_iff_toNat.1 h).2
  refine dif_neg fun hupper => ?_
  have hlow : 'A'.toNat ≤ c.toNat := hupper.1
  exact absurd (Nat.le_trans hlow hhigh) (by decide)

/-- A numeral starts with its sign. -/
theorem takeSign_toString (k : Int) :
    takeSign (toString k).toList = (decide (k < 0), k.natAbs.repr.toList) := by
  rw [toString_int]
  by_cases hk : k < 0
  · simp [hk, takeSign]
  · have hdigit (c : Char) (rest : List Char) (h : k.natAbs.repr.toList = c :: rest) : c.isDigit :=
      PageWindow.isDigit_of_mem_repr (h ▸ List.mem_cons_self)
    simp only [hk, if_false, String.empty_append, decide_false]
    change takeSign k.natAbs.repr.toList = _
    unfold takeSign
    split
    · next h => exact absurd (hdigit _ _ h) (by decide)
    · next h => exact absurd (hdigit _ _ h) (by decide)
    · rfl

end Text

theorem trim_toString (k : Int) : Text.trim (toString k) = toString k := by
  refine Text.trim_eq_self fun c hc => ?_
  rw [toString_int, String.toList_append, List.mem_append] at hc
  rcases hc with hc | hc
  · split at hc
    · rw [List.mem_singleton.1 hc]
      decide
    · cases hc
  · exact Text.isBlank_of_isDigit (PageWindow.isDigit_of_mem_repr hc)

namespace Binary64

theorem ofDecimal_zero (negative : Bool) {n : Nat} (hn : n ≤ nat64Max) :
    ofDecimal negative n 0 = ofRatio negative n 1 := by
  by_cases hzero : n = 0
  · rw [hzero]
    rfl
  · have hlog : n.log2 < 64 := (Nat.log2_lt hzero).2 (Nat.lt_of_le_of_lt hn (by decide))
    rw [ofDecimal, if_neg hzero]
    dsimp only
    rw [if_neg (by omega), if_neg (by omega), if_pos (Int.le_refl 0)]
    simp

/-- The numeral of a 64-bit integer is read as the number nearest to the integer. -/
theorem ofText?_toString {k : Int} (hk : k.natAbs ≤ nat64Max) :
    ofText? (toString k) = some (ofInt k) := by
  have hdigit : ∀ c ∈ k.natAbs.repr.toList, c.isDigit :=
    fun c hc => PageWindow.isDigit_of_mem_repr hc
  have hlower : k.natAbs.repr.toList.map Char.toLower = k.natAbs.repr.toList :=
    (List.map_congr_left fun c hc => Text.toLower_of_isDigit (hdigit c hc)).trans (List.map_id _)
  have hword {w : String} (hw : 'n' ∈ w.toList) : String.ofList k.natAbs.repr.toList ≠ w := by
    rintro rfl
    rw [String.toList_ofList] at hw
    exact absurd (hdigit _ hw) (by decide)
  have hspan : Text.spanDigits k.natAbs.repr.toList = (k.natAbs.repr.toList, []) := by
    rw [Text.spanDigits, List.takeWhile_eq_self_iff.2 hdigit, List.dropWhile_eq_nil_iff.2 hdigit]
  have hne : k.natAbs.repr.toList ≠ [] := by
    rw [Nat.toList_repr]
    exact Nat.toDigits_ne_nil
  have hinf : ¬ (String.ofList k.natAbs.repr.toList = "inf"
      ∨ String.ofList k.natAbs.repr.toList = "infinity") :=
    not_or.2 ⟨hword (by decide), hword (by decide)⟩
  simp only [ofText?, Text.takeSign_toString, hlower, hspan, if_neg hinf,
    if_neg (hword (w := "nan") (by decide)), hne, false_and, if_false, List.append_nil,
    PageWindow.digitsValue_repr]
  exact congrArg some (ofDecimal_zero _ hk)

end Binary64

end Pushdown
