import Pushdown.Calendar.Date

/-!
# Days and dates

`Date.ofDays` finds the date of a day: the date exists (`Date.isValid_ofDays`), and counting back
from it gives the day (`Date.toDays_ofDays`). Both rest on one fact about years and one about
months. The year is found as cycles of 400, 100, 4 and 1 years, of which the last of each may be a
day longer (`Date.Counted`), and the month as the number of months that have begun
(`Date.monthOfDay_spec`).
-/

namespace Pushdown

namespace Date

/-! ## Years -/

/-- The number of days of a year. -/
def yearDays (year : Int) : Nat :=
  daysBeforeMonth (isLeap year) 13

theorem isLeap_iff {year : Int} :
    isLeap year ↔ year % 4 = 0 ∧ (year % 100 ≠ 0 ∨ year % 400 = 0) := by
  simp [isLeap]

theorem yearDays_eq (year : Int) : yearDays year = if isLeap year then 366 else 365 := by
  cases h : isLeap year <;> simp [yearDays, h, daysBeforeMonth]

/-- A year and a day of it, counted in cycles of 400, 100, 4 and 1 years. -/
structure Counted (year : Int) (day : Nat) (cycles centuries quads years : Int) : Prop where
  year_eq : year = 400 * cycles + 100 * centuries + 4 * quads + years + 1
  centuries_le : 0 ≤ centuries ∧ centuries ≤ 3
  quads_le : 0 ≤ quads ∧ quads ≤ 24
  years_le : 0 ≤ years ∧ years ≤ 3
  day_le : day ≤ 365
  /-- A day more has only the last year of four, and at the end of a century only the last one. -/
  of_long : day = 365 → years = 3 ∧ (quads = 24 → centuries = 3)

section
variable {year year' cycles centuries quads years : Int} {day : Nat}

theorem Counted.daysBeforeYear_eq (h : Counted year day cycles centuries quads years) :
    daysBeforeYear year = 146097 * cycles + 36524 * centuries + 1461 * quads + 365 * years := by
  obtain ⟨rfl, hcenturies, hquads, hyears, -, -⟩ := h
  rw [daysBeforeYear]
  omega

theorem Counted.lt_yearDays (h : Counted year day cycles centuries quads years) :
    day < yearDays year := by
  obtain ⟨rfl, hcenturies, hquads, hyears, hday, hlong⟩ := h
  rw [yearDays_eq]
  split
  · omega
  · next hleap =>
    rw [isLeap_iff] at hleap
    omega

/-- The cycles that a day is counted in. -/
theorem exists_counted (n : Int) : ∃ cycles centuries quads years,
    Counted (yearOfDay n).1 (yearOfDay n).2 cycles centuries quads years
      ∧ n = 146097 * cycles + 36524 * centuries + 1461 * quads + 365 * years
        + (yearOfDay n).2 := by
  simp only [yearOfDay]
  exact ⟨_, _, _, _, ⟨rfl, by omega, by omega, by omega, by omega, by omega⟩, by omega⟩

/-- The year that a day falls into has begun as many days before as the day is far into it. -/
theorem daysBeforeYear_yearOfDay (n : Int) :
    daysBeforeYear (yearOfDay n).1 + (yearOfDay n).2 = n := by
  obtain ⟨cycles, centuries, quads, years, hcounted, hn⟩ := exists_counted n
  rw [hcounted.daysBeforeYear_eq, ← hn]

/-- The year that a day falls into has that many days. -/
theorem lt_yearDays (n : Int) : (yearOfDay n).2 < yearDays (yearOfDay n).1 := by
  obtain ⟨cycles, centuries, quads, years, hcounted, -⟩ := exists_counted n
  exact hcounted.lt_yearDays

/-- A year begins where the one before it ends. -/
theorem daysBeforeYear_succ (year : Int) :
    daysBeforeYear (year + 1) = daysBeforeYear year + yearDays year := by
  rw [yearDays_eq]
  split
  all_goals
    next h =>
      rw [isLeap_iff] at h
      simp only [daysBeforeYear]
      omega

/-- A year that begins before another one is before it. -/
theorem lt_of_daysBeforeYear_lt (h : daysBeforeYear year < daysBeforeYear year') :
    year < year' := by
  refine Int.not_le.1 fun hle => ?_
  rcases Int.lt_or_eq_of_le hle with hlt | rfl
  · simp only [daysBeforeYear] at h
    omega
  · exact Int.lt_irrefl _ h

/-- The year of a day that is kept is kept. -/
theorem yearOfDay_kept {days : Int} (hmin : minDays ≤ days) (hmax : days ≤ maxDays) :
    minYear ≤ (yearOfDay (days + epochDay)).1 ∧ (yearOfDay (days + epochDay)).1 ≤ maxYear := by
  have hfirst : minDays = daysBeforeYear minYear - epochDay := rfl
  have hlast : maxDays = daysBeforeYear (maxYear + 1) - 1 - epochDay := rfl
  have hbegins := daysBeforeYear_yearOfDay (days + epochDay)
  have hends := daysBeforeYear_succ (yearOfDay (days + epochDay)).1
  have hday := lt_yearDays (days + epochDay)
  constructor
  · refine Int.lt_add_one_iff.1 (lt_of_daysBeforeYear_lt ?_)
    omega
  · refine Int.lt_add_one_iff.1 (lt_of_daysBeforeYear_lt ?_)
    omega

end

/-! ## Months -/

/-- What holds of the first places and of no others holds of as many as are counted. -/
theorem lt_countP_range {p : Nat → Bool} {size i : Nat}
    (hp : ∀ j < size, p j → ∀ i < j, p i) (hi : i < size) :
    p i ↔ i < (List.range size).countP p := by
  induction size with
  | zero => exact absurd hi (Nat.not_lt_zero i)
  | succ size ih =>
    have hinit (h : i < size) := ih (fun j hj => hp j (Nat.lt_succ_of_lt hj)) h
    rw [List.range_succ, List.countP_append, List.countP_singleton]
    cases hlast : p size with
    | false =>
      rcases Nat.lt_succ_iff_lt_or_eq.1 hi with h | rfl
      · simpa using hinit h
      · have hle := List.countP_le_length (p := p) (l := List.range i)
        rw [List.length_range] at hle
        simpa [hlast] using hle
    | true =>
      have hearlier : ∀ i < size, p i := hp size (Nat.lt_succ_self _) hlast
      have hall : (List.range size).countP p = size := by
        rw [List.countP_eq_length.2, List.length_range]
        exact fun i hi => hearlier i (List.mem_range.1 hi)
      have hi' : p i := by
        rcases Nat.lt_succ_iff_lt_or_eq.1 hi with h | rfl
        · exact hearlier i h
        · exact hlast
      simpa [hall, hi'] using hi

theorem daysBeforeMonth_le (leap : Bool) : ∀ j < 12, ∀ i < j,
    daysBeforeMonth leap (i + 1) ≤ daysBeforeMonth leap (j + 1) := by
  cases leap <;> decide

/-- A day of a year falls into a month that has begun and has not ended. -/
theorem monthOfDay_spec {leap : Bool} {n : Nat} (h : n < daysBeforeMonth leap 13) :
    (1 ≤ monthOfDay leap n ∧ monthOfDay leap n ≤ 12)
      ∧ daysBeforeMonth leap (monthOfDay leap n) ≤ n
      ∧ n < daysBeforeMonth leap (monthOfDay leap n + 1) := by
  have hbegun {i : Nat} (hi : i < 12) :
      daysBeforeMonth leap (i + 1) ≤ n ↔ i < monthOfDay leap n := by
    rw [monthOfDay, ← lt_countP_range _ hi, decide_eq_true_iff]
    intro j hj hle i hi
    rw [decide_eq_true_iff] at hle ⊢
    exact Nat.le_trans (daysBeforeMonth_le leap j hj i hi) hle
  have hfirst : 0 < monthOfDay leap n :=
    (hbegun (by decide)).1 (by cases leap <;> exact Nat.zero_le n)
  have hlast : monthOfDay leap n ≤ 12 := List.countP_le_length
  obtain ⟨m, hm⟩ : ∃ m, monthOfDay leap n = m + 1 := ⟨_, (Nat.sub_add_cancel hfirst).symm⟩
  refine ⟨⟨hfirst, hlast⟩, ?_, ?_⟩
  · rw [hm] at hlast ⊢
    exact (hbegun hlast).2 (hm ▸ Nat.lt_succ_self m)
  · rcases Nat.lt_or_eq_of_le hlast with hlt | heq
    · exact Nat.lt_of_not_le fun hle => Nat.lt_irrefl _ ((hbegun hlt).1 hle)
    · rwa [heq]

/-! ## Dates -/

/-- Counting back from the date of a day gives the day. -/
theorem toDays_ofDays (days : Int) : (ofDays days).toDays = days := by
  have hyear := daysBeforeYear_yearOfDay (days + epochDay)
  obtain ⟨-, hmonth, -⟩ := monthOfDay_spec (lt_yearDays (days + epochDay))
  simp only [toDays, ofDays]
  omega

theorem isValid_iff {d : Date} :
    d.isValid ↔ (minYear ≤ d.year ∧ d.year ≤ maxYear) ∧ (1 ≤ d.month ∧ d.month ≤ 12)
      ∧ 1 ≤ d.day ∧ d.day ≤ daysInMonth d.year d.month := by
  simp [isValid, and_assoc]

/-- The date of a day that is kept exists. -/
theorem isValid_ofDays {days : Int} (hmin : minDays ≤ days) (hmax : days ≤ maxDays) :
    (ofDays days).isValid := by
  have hyear := yearOfDay_kept hmin hmax
  obtain ⟨hmonth, hbegun, hnext⟩ := monthOfDay_spec (lt_yearDays (days + epochDay))
  rw [isValid_iff]
  simp only [ofDays, daysInMonth]
  omega

end Date

end Pushdown
