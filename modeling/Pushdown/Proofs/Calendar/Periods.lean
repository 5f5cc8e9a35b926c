import Mathlib
import Pushdown.Proofs.Calendar.Days
import Pushdown.Request.Basic

/-!
# Periods

When a period of a level starts (`DateLevel.StartsPeriod`) is said with the clock and the calendar.
The starts of the periods of a level are a grid: `DateLevel.periodStart` numbers them, and
`DateLevel.period` is the number of the period that a moment falls into, so that a start is no later
than a moment just if its number is no greater (`DateLevel.gc_periodStart`). From this the latest
start up to a moment is the one of its period (`DateLevel.isGreatest_periodStart`), and the first
one from a moment on is the one that the moment has not passed while it has passed the one before
(`DateLevel.isLeast_periodStart`).

Months are numbered through the years. A month starts on its first day, which `Date.toDays` counts,
and every moment falls into the month of its date (`Moment.eq_monthStart_add`).
-/

namespace Pushdown

namespace Date

/-- The date of a day is one of the calendar. -/
theorem ofDays_bounds (days : Int) :
    (1 ≤ (ofDays days).month ∧ (ofDays days).month ≤ 12)
      ∧ 1 ≤ (ofDays days).day
      ∧ (ofDays days).day ≤ daysInMonth (ofDays days).year (ofDays days).month := by
  obtain ⟨hmonth, hbegun, hnext⟩ := monthOfDay_spec (lt_yearDays (days + epochDay))
  simp only [ofDays, daysInMonth]
  omega

/-- A month begins where the one before it in its year ends. -/
theorem daysBeforeMonth_succ (year : Int) {month : Nat} (h : 1 ≤ month ∧ month ≤ 12) :
    daysBeforeMonth (isLeap year) month + daysInMonth year month
        = daysBeforeMonth (isLeap year) (month + 1)
      ∧ 0 < daysInMonth year month := by
  have hmonth : ∀ leap : Bool, ∀ month < 13, 1 ≤ month →
      daysBeforeMonth leap month < daysBeforeMonth leap (month + 1) := by decide
  have hlt := hmonth (isLeap year) month (Nat.lt_succ_of_le h.2) h.1
  rw [daysInMonth]
  omega

theorem toDays_first (year : Int) (month : Nat) :
    toDays ⟨year, month, 1⟩
      = daysBeforeYear year + daysBeforeMonth (isLeap year) month - epochDay := by
  simp [toDays]

end Date

/-! ## Moments

A moment is a number of nanoseconds from the start of 1 January 1970.
-/

namespace Moment

/-- The nanoseconds of a day. -/
def dayNanos : Int := 86400000000000

/-- The day, counted from 1 January 1970. -/
def day (t : Int) : Int := t / dayNanos

/-- The nanoseconds since midnight. -/
def clock (t : Int) : Int := t % dayNanos

/-- The start of a day. -/
def ofDay (days : Int) : Int := days * dayNanos

/-- The start of the day. -/
def midnight (t : Int) : Int := ofDay (day t)

def date (t : Int) : Date := Date.ofDays (day t)

/-- The days since Monday: 1 January 1970 was a Thursday. -/
def weekday (t : Int) : Int := (day t + 3) % 7

/-- The month, counted from January of year 0. -/
def month (t : Int) : Int := 12 * (date t).year + ((date t).month - 1)

/-- The start of a month. -/
def monthStart (n : Int) : Int := ofDay (Date.toDays ⟨n / 12, (n % 12).toNat + 1, 1⟩)

/-- The nanoseconds since the month started. -/
def sinceMonth (t : Int) : Int := ((date t).day - 1) * dayNanos + clock t

/-! ## Months -/

/-- A month ends where the next one starts. -/
theorem monthStart_succ (n : Int) :
    monthStart (n + 1)
        = monthStart n + Date.daysInMonth (n / 12) ((n % 12).toNat + 1) * dayNanos
      ∧ 0 < Date.daysInMonth (n / 12) ((n % 12).toNat + 1) := by
  have hmonth : 1 ≤ (n % 12).toNat + 1 ∧ (n % 12).toNat + 1 ≤ 12 := by omega
  obtain ⟨hnext, hpos⟩ := Date.daysBeforeMonth_succ (n / 12) hmonth
  refine ⟨?_, hpos⟩
  rw [monthStart, monthStart, ofDay, ofDay, Date.toDays_first, Date.toDays_first, ← Int.add_mul]
  congr 1
  by_cases hlast : n % 12 = 11
  · have hyear : (n + 1) / 12 = n / 12 + 1 := by omega
    have hnumber : ((n + 1) % 12).toNat + 1 = 1 := by omega
    have hdecember : (n % 12).toNat + 1 = 12 := by omega
    have hfirst : Date.daysBeforeMonth (Date.isLeap (n / 12 + 1)) 1 = 0 := by
      cases Date.isLeap (n / 12 + 1) <;> rfl
    rw [hdecember] at hnext ⊢
    rw [hyear, hnumber, Date.daysBeforeYear_succ, Date.yearDays, hfirst, ← hnext]
    omega
  · have hyear : (n + 1) / 12 = n / 12 := by omega
    have hnumber : ((n + 1) % 12).toNat + 1 = (n % 12).toNat + 1 + 1 := by omega
    rw [hyear, hnumber, ← hnext]
    omega

theorem strictMono_monthStart : StrictMono monthStart := by
  refine strictMono_int_of_lt_succ fun n => ?_
  obtain ⟨hnext, hpos⟩ := monthStart_succ n
  simp only [hnext, dayNanos]
  omega

theorem month_ediv (t : Int) :
    month t / 12 = (date t).year ∧ (month t % 12).toNat + 1 = (date t).month := by
  obtain ⟨hmonth, -⟩ := Date.ofDays_bounds (day t)
  simp only [month, date]
  omega

theorem eq_day_add_clock (t : Int) : t = day t * dayNanos + clock t :=
  (Int.ediv_mul_add_emod t dayNanos).symm

theorem clock_bounds (t : Int) : 0 ≤ clock t ∧ clock t < dayNanos :=
  ⟨Int.emod_nonneg t (by decide), Int.emod_lt_of_pos t (by decide)⟩

/-- A moment is as far behind the start of its month as its date and its clock say. -/
theorem eq_monthStart_add (t : Int) : t = monthStart (month t) + sinceMonth t := by
  obtain ⟨hyear, hmonth⟩ := month_ediv t
  have hday : (date t).toDays = day t := Date.toDays_ofDays (day t)
  have hfirst : Date.toDays ⟨(date t).year, (date t).month, 1⟩ + ((date t).day - 1) = day t := by
    rw [← hday, Date.toDays_first, Date.toDays]
    omega
  rw [monthStart, hyear, hmonth, sinceMonth, ofDay, ← Int.add_assoc, ← Int.add_mul, hfirst]
  exact eq_day_add_clock t

theorem sinceMonth_bounds (t : Int) :
    0 ≤ sinceMonth t
      ∧ sinceMonth t < Date.daysInMonth (date t).year (date t).month * dayNanos := by
  obtain ⟨-, hfirst, hlast⟩ := Date.ofDays_bounds (day t)
  have hclock := clock_bounds t
  simp only [sinceMonth, date, dayNanos] at hclock ⊢
  omega

theorem lt_monthStart_succ (t : Int) : t < monthStart (month t + 1) := by
  obtain ⟨hyear, hmonth⟩ := month_ediv t
  have hbounds := sinceMonth_bounds t
  have ht := eq_monthStart_add t
  rw [(monthStart_succ _).1, hyear, hmonth]
  omega

/-- The month of a moment is the last one that has started. -/
theorem gc_monthStart : GaloisConnection monthStart month := by
  intro n t
  have ht := eq_monthStart_add t
  have hsince := (sinceMonth_bounds t).1
  constructor
  · intro hle
    have hlt := Int.lt_of_le_of_lt hle (lt_monthStart_succ t)
    exact Int.lt_add_one_iff.1 (strictMono_monthStart.lt_iff_lt.1 hlt)
  · intro hle
    have hstart := strictMono_monthStart.monotone hle
    omega

theorem month_monthStart (n : Int) : month (monthStart n) = n :=
  strictMono_monthStart.injective (gc_monthStart.l_u_l_eq_l n)

theorem monthStart_month_eq_iff {t : Int} :
    monthStart (month t) = t ↔ clock t = 0 ∧ (date t).day = 1 := by
  have ht := eq_monthStart_add t
  have hclock := clock_bounds t
  obtain ⟨-, hfirst, -⟩ := Date.ofDays_bounds (day t)
  have hsince : sinceMonth t = ((date t).day - 1) * dayNanos + clock t := rfl
  simp only [date, dayNanos] at *
  omega

end Moment

/-- How long a unit is: some nanoseconds, or some months of the calendar. -/
inductive Span where
  | nanos (length : Int) (pos : 0 < length)
  | months (count : Int) (pos : 0 < count)

namespace DateLevel

open Moment

/-- How long a period is. -/
def span : DateLevel → Span
  | .millisecond => .nanos 1000000 (by decide)
  | .second => .nanos 1000000000 (by decide)
  | .minute => .nanos 60000000000 (by decide)
  | .hour => .nanos 3600000000000 (by decide)
  | .day => .nanos dayNanos (by decide)
  | .week => .nanos (7 * dayNanos) (by decide)
  | .month => .months 1 (by decide)
  | .quarter => .months 3 (by decide)
  | .year => .months 12 (by decide)

/-- Whether a period starts at a moment. Weeks start on Monday, and every moment is counted as the
start of its own millisecond. -/
def StartsPeriod (level : DateLevel) (t : Int) : Prop :=
  match level with
  | .millisecond => True
  | .second => t % 1000000000 = 0
  | .minute => t % 60000000000 = 0
  | .hour => t % 3600000000000 = 0
  | .day => clock t = 0
  | .week => clock t = 0 ∧ weekday t = 0
  | .month => clock t = 0 ∧ (date t).day = 1
  | .quarter => clock t = 0 ∧ (date t).day = 1 ∧ (date t).month ∈ [1, 4, 7, 10]
  | .year => clock t = 0 ∧ (date t).day = 1 ∧ (date t).month = 1

/-- The start of the period with the number 0 if its length is fixed: 29 December 1969 was a
Monday. -/
def phase : DateLevel → Int
  | .week => ofDay (-3)
  | _ => 0

/-- The start of the period with a number. -/
def periodStart (level : DateLevel) (n : Int) : Int :=
  match level.span with
  | .nanos length _ => level.phase + n * length
  | .months count _ => monthStart (n * count)

/-- The number of the period that a moment falls into. -/
def period (level : DateLevel) (t : Int) : Int :=
  match level.span with
  | .nanos length _ => (t - level.phase) / length
  | .months count _ => Moment.month t / count

/-- The period of a moment is the last one that has started. -/
theorem gc_periodStart (level : DateLevel) : GaloisConnection level.periodStart level.period := by
  intro n t
  rw [periodStart, period]
  cases level.span with
  | nanos length pos =>
    show level.phase + n * length ≤ t ↔ n ≤ (t - level.phase) / length
    rw [Int.le_ediv_iff_mul_le pos]
    omega
  | months count pos =>
    show monthStart (n * count) ≤ t ↔ n ≤ Moment.month t / count
    rw [Int.le_ediv_iff_mul_le pos]
    exact gc_monthStart _ _

theorem strictMono_periodStart (level : DateLevel) : StrictMono level.periodStart := by
  intro n m hlt
  rw [periodStart, periodStart]
  cases level.span with
  | nanos length pos => exact Int.add_lt_add_left (Int.mul_lt_mul_of_pos_right hlt pos) _
  | months count pos => exact strictMono_monthStart (Int.mul_lt_mul_of_pos_right hlt pos)

theorem period_periodStart (level : DateLevel) (n : Int) : level.period (level.periodStart n) = n :=
  level.strictMono_periodStart.injective (level.gc_periodStart.l_u_l_eq_l n)

/-- A month is the first of its period at a start of the period, and only there. -/
theorem monthStart_eq_iff (count : Int) {t : Int} :
    monthStart (Moment.month t / count * count) = t
      ↔ Moment.month t % count = 0 ∧ clock t = 0 ∧ (date t).day = 1 := by
  rw [← monthStart_month_eq_iff]
  constructor
  · intro h
    have hmonth : Moment.month t / count * count = Moment.month t := by
      rw [← month_monthStart (Moment.month t / count * count), h]
    have hsplit := Int.ediv_mul_add_emod (Moment.month t) count
    rw [hmonth] at h
    exact ⟨by omega, h⟩
  · rintro ⟨hfirst, h⟩
    rw [Int.ediv_mul_cancel (Int.dvd_of_emod_eq_zero hfirst), h]

/-- A period starts at a moment just if the moment is where its period starts. -/
theorem startsPeriod_iff {level : DateLevel} (hlevel : level ≠ .millisecond) {t : Int} :
    level.StartsPeriod t ↔ level.periodStart (level.period t) = t := by
  have hmonth := (Date.ofDays_bounds (Moment.day t)).1
  have hnumber : Moment.month t = 12 * (date t).year + ((date t).month - 1) := rfl
  cases level with
  | millisecond => exact absurd rfl hlevel
  | second | minute | hour =>
    simp only [StartsPeriod, periodStart, period, span, phase]
    omega
  | day =>
    simp only [StartsPeriod, periodStart, period, span, phase, clock, dayNanos]
    omega
  | week =>
    simp only [StartsPeriod, periodStart, period, span, phase, clock, weekday, Moment.day, ofDay,
      dayNanos]
    omega
  | month =>
    refine Iff.trans ?_ (monthStart_eq_iff 1).symm
    simp only [StartsPeriod]
    omega
  | quarter =>
    refine Iff.trans ?_ (monthStart_eq_iff 3).symm
    simp only [StartsPeriod, List.mem_cons, List.not_mem_nil, or_false, date] at *
    omega
  | year =>
    refine Iff.trans ?_ (monthStart_eq_iff 12).symm
    simp only [StartsPeriod, date] at *
    omega

variable {level : DateLevel} {x : Int}

/-- The latest start of a period up to a moment is that of its own period. -/
theorem isGreatest_periodStart (hlevel : level ≠ .millisecond) (x : Int) :
    IsGreatest {s | level.StartsPeriod s ∧ s ≤ x} (level.periodStart (level.period x)) := by
  refine ⟨⟨?_, level.gc_periodStart.l_u_le x⟩, fun s hs => ?_⟩
  · rw [startsPeriod_iff hlevel, period_periodStart]
  · obtain ⟨hstarts, hle⟩ := hs
    rw [← (startsPeriod_iff hlevel).1 hstarts]
    exact level.gc_periodStart.monotone_l (level.gc_periodStart.monotone_u hle)

/-- The first start of a period from a moment on is the one after a start that has passed. -/
theorem isLeast_periodStart (hlevel : level ≠ .millisecond) {n : Int}
    (hle : x ≤ level.periodStart n) (hlt : level.periodStart (n - 1) < x) :
    IsLeast {s | level.StartsPeriod s ∧ x ≤ s} (level.periodStart n) := by
  refine ⟨⟨?_, hle⟩, fun s hs => ?_⟩
  · rw [startsPeriod_iff hlevel, period_periodStart]
  · obtain ⟨hstarts, hxs⟩ := hs
    rw [← (startsPeriod_iff hlevel).1 hstarts] at hxs ⊢
    have hpassed := level.strictMono_periodStart.lt_iff_lt.1 (Int.lt_of_lt_of_le hlt hxs)
    exact level.strictMono_periodStart.monotone (by omega)

end DateLevel

end Pushdown
