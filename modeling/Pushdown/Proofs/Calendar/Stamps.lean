import Mathlib.Data.List.Basic
import Mathlib.Data.Nat.Digits.Defs
import Pushdown.Proofs.Calendar.Days
import Pushdown.Proofs.Calendar.Sound
import Pushdown.Proofs.Number.Integers

/-!
# Written instants read back

An instant is written in a result with a letter between its date and its time and a mark of
universal time at its end (`Instant.iso`), and in a statement with a blank or the letter and without
the mark (`Instant.stamp`). `Instant.ofText?_written` reads the three of them back, to the
millisecond.

What is written is a list of numbers of a fixed width, and each is read up to the character behind
it, which is no digit (`Calendar.EndsNumeral`). A year of four digits with the mark at the end is
read in the strict format. Every other text is read by the one pattern that has a field for what
stands between the date and the time (`Calendar.Separates`), and no pattern before it misreads the
text.
-/

namespace Pushdown

open Text

/-! ## Numbers of a fixed width -/

namespace Calendar

/-- A text that does not begin with a digit, so that digits before it end there. -/
def EndsNumeral (cs : List Char) : Prop :=
  ∀ c ∈ cs.head?, c.isDigit = false

theorem endsNumeral_nil : EndsNumeral [] := nofun

theorem endsNumeral_cons {c : Char} (h : c.isDigit = false) (cs : List Char) :
    EndsNumeral (c :: cs) :=
  fun _ hc => Option.some.inj hc ▸ h

variable {ds cs : List Char} {width n least most : Nat}

theorem takeWhile_isDigit (hds : ∀ c ∈ ds, c.isDigit) (hcs : EndsNumeral cs) :
    (ds ++ cs).takeWhile Char.isDigit = ds := by
  rw [List.takeWhile_append_of_pos hds]
  cases cs with
  | nil => simp
  | cons c cs => simp [hcs c rfl]

theorem spanDigits_append (hds : ∀ c ∈ ds, c.isDigit) (hcs : EndsNumeral cs) :
    spanDigits (ds ++ cs) = (ds, cs) := by
  rw [spanDigits, takeWhile_isDigit hds hcs, List.dropWhile_append_of_pos hds]
  cases cs with
  | nil => rfl
  | cons c cs => simp [hcs c rfl]

theorem isDigit_of_mem_padded {c : Char} (h : c ∈ (Instant.padded width n).toList) :
    c.isDigit := by
  rw [Instant.padded, String.toList_append, String.toList_ofList, List.mem_append] at h
  rcases h with h | h
  · rw [List.eq_of_mem_replicate h]
    decide
  · exact PageWindow.isDigit_of_mem_repr h

theorem digitsValue_padded : digitsValue (Instant.padded width n).toList = n := by
  have hzeros (k : Nat) (ds : List Char) :
      digitsValue (List.replicate k '0' ++ ds) = digitsValue ds := by
    induction k with
    | zero => rfl
    | succ k ih => exact ih
  rw [Instant.padded, String.toList_append, String.toList_ofList, hzeros]
  exact PageWindow.digitsValue_repr n

theorem toList_padded_length : (Instant.padded width n).toList.length
    = width - (toString n).length + (toString n).length := by
  simp only [Instant.padded, String.toList_append, String.toList_ofList, List.length_append,
    List.length_replicate, String.length_toList]

theorem le_length_padded : width ≤ (Instant.padded width n).toList.length := by
  rw [toList_padded_length]
  omega

theorem length_padded (hwidth : 0 < width) (hn : n < 10 ^ width) :
    (Instant.padded width n).toList.length = width := by
  have hrepr : (toString n).length ≤ width := Nat.repr_length n width hwidth hn
  rw [toList_padded_length]
  omega

/-- A number of a fixed width begins with a digit. -/
theorem exists_padded_eq (width n : Nat) (hwidth : 0 < width) :
    ∃ c ds, (Instant.padded width n).toList = c :: ds ∧ c.isDigit := by
  obtain ⟨c, ds, h⟩ := List.exists_cons_of_length_pos
    (Nat.lt_of_lt_of_le hwidth (le_length_padded (n := n)))
  exact ⟨c, ds, h, isDigit_of_mem_padded (h ▸ List.mem_cons_self)⟩

/-- A number of a fixed width is read back by a reader that takes so many digits. -/
theorem takeNumber?_padded (hleast : least ≤ width)
    (hmost : (Instant.padded width n).toList.length ≤ most) (hcs : EndsNumeral cs) :
    takeNumber? least most ((Instant.padded width n).toList ++ cs) = some (n, cs) := by
  have hlength := Nat.le_trans hleast (le_length_padded (n := n))
  rw [takeNumber?, takeWhile_isDigit (fun _ => isDigit_of_mem_padded) hcs,
    List.take_of_length_le hmost]
  simp only [Nat.not_lt.2 hlength, if_false, digitsValue_padded, List.drop_left]

/-- Where no digit stands no number is read. -/
theorem takeNumber?_eq_none (hleast : 0 < least) (hcs : EndsNumeral cs) :
    takeNumber? least most cs = none := by
  have hdigits : ([] ++ cs).takeWhile Char.isDigit = [] := takeWhile_isDigit nofun hcs
  rw [List.nil_append] at hdigits
  simp [takeNumber?, hdigits, hleast]

theorem takeNumber?_two (hn : n < 100) (hcs : EndsNumeral cs) :
    takeNumber? 2 2 ((Instant.padded 2 n).toList ++ cs) = some (n, cs) :=
  takeNumber?_padded (Nat.le_refl 2) (Nat.le_of_eq (length_padded (by decide) hn)) hcs

theorem trimStartChars_of_isDigit {c : Char} (h : c.isDigit) (cs : List Char) :
    trimStartChars (c :: cs) = c :: cs :=
  trimStart_append_of_not_blank (isBlank_of_isDigit h) cs

theorem takeShort?_padded (hn : n < 100) (hcs : EndsNumeral cs) :
    takeShort? ((Instant.padded 2 n).toList ++ cs) = some (n, cs) := by
  have htrim : trimStartChars ((Instant.padded 2 n).toList ++ cs)
      = (Instant.padded 2 n).toList ++ cs := by
    obtain ⟨c, ds, hpadded, hc⟩ := exists_padded_eq 2 n (by decide)
    rw [hpadded]
    exact trimStartChars_of_isDigit hc _
  rw [takeShort?, htrim]
  exact takeNumber?_padded (by decide) (Nat.le_of_eq (length_padded (by decide) hn)) hcs

theorem takeYear?_of_isDigit {c : Char} (h : c.isDigit) (cs : List Char) :
    takeYear? (c :: cs) = (takeNumber? 1 4 (c :: cs)).map fun read => ((read.1 : Int), read.2) := by
  rw [takeYear?, trimStartChars_of_isDigit h]
  split
  · next heq =>
    obtain ⟨rfl, -⟩ := List.cons.inj heq
    cases h
  · next heq =>
    obtain ⟨rfl, -⟩ := List.cons.inj heq
    cases h
  · rfl

/-- A year is read back, in four digits or with its sign. -/
theorem takeYear?_yearText (year : Int) (hcs : EndsNumeral cs) :
    takeYear? ((Instant.yearText year).toList ++ cs) = some (year, cs) := by
  rw [Instant.yearText]
  split
  · next h =>
    obtain ⟨c, ds, hpadded, hc⟩ := exists_padded_eq 4 year.natAbs (by decide)
    have hfour : (Instant.padded 4 year.natAbs).toList.length ≤ 4 :=
      Nat.le_of_eq (length_padded (by decide) (by omega))
    have hread : takeNumber? 1 4 ((Instant.padded 4 year.natAbs).toList ++ cs)
        = some (year.natAbs, cs) := takeNumber?_padded (by decide) hfour hcs
    rw [hpadded, List.cons_append] at hread ⊢
    rw [takeYear?_of_isDigit hc, hread]
    simp only [Option.map_some]
    rw [Int.natAbs_of_nonneg h.1]
  · have hread : takeNumber? 1 ((Instant.padded 4 year.natAbs).toList ++ cs).length
        ((Instant.padded 4 year.natAbs).toList ++ cs) = some (year.natAbs, cs) :=
      takeNumber?_padded (by decide) (by simp) hcs
    by_cases hneg : year < 0
    · have hchars : (("-" ++ Instant.padded 4 year.natAbs).toList ++ cs)
          = '-' :: ((Instant.padded 4 year.natAbs).toList ++ cs) := by simp
      have hminus : takeYear? ('-' :: ((Instant.padded 4 year.natAbs).toList ++ cs))
          = some (-(year.natAbs : Int), cs) := by
        rw [takeYear?, trimStart_append_of_not_blank (by decide)]
        simp only [hread, Option.map_some]
      have hyear : -(year.natAbs : Int) = year := by omega
      rw [if_pos hneg, hchars, hminus, hyear]
    · have hchars : (("+" ++ Instant.padded 4 year.natAbs).toList ++ cs)
          = '+' :: ((Instant.padded 4 year.natAbs).toList ++ cs) := by simp
      have hplus : takeYear? ('+' :: ((Instant.padded 4 year.natAbs).toList ++ cs))
          = some ((year.natAbs : Int), cs) := by
        rw [takeYear?, trimStart_append_of_not_blank (by decide)]
        simp only [hread, Option.map_some]
      rw [if_neg hneg, hchars, hplus, Int.natAbs_of_nonneg (Int.not_lt.1 hneg)]

/-- The milliseconds of a second are read back. -/
theorem takeFraction?_padded (hn : n < 1000) (hcs : EndsNumeral cs) :
    takeFraction? ('.' :: ((Instant.padded 3 n).toList ++ cs)) = some (n * 1000000, cs) := by
  have hlength : (Instant.padded 3 n).toList.length = 3 := length_padded (by decide) hn
  have hne : (Instant.padded 3 n).toList ≠ [] := by
    intro h
    rw [h] at hlength
    cases hlength
  have hnine : (Instant.padded 3 n).toList.take 9 = (Instant.padded 3 n).toList :=
    List.take_of_length_le (by omega)
  rw [takeFraction?, takeNanos?, spanDigits_append (fun _ => isDigit_of_mem_padded) hcs]
  simp only [if_neg hne, hnine, hlength, digitsValue_padded]

end Calendar

/-! ## The fields of an instant -/

namespace Instant

/-- The instant without what is less than a millisecond. -/
def wholeMillis (t : Instant) : Instant :=
  { t with nanos := t.nanos / 1000000 * 1000000 }

/-- The milliseconds of an instant that are written. -/
def millis (t : Instant) : Nat :=
  t.nanos % billion / 1000000

/-- The fields of an instant that are written. -/
def reading (t : Instant) : Calendar.Reading :=
  { year := (Date.ofDays t.days).year
    month := (Date.ofDays t.days).month
    day := (Date.ofDays t.days).day
    hour := t.seconds / 3600
    minute := t.seconds / 60 % 60
    second := t.seconds % 60 + t.nanos / billion
    nanos := t.millis * 1000000
    offset := 0 }

variable {t : Instant}

theorem iso_wholeMillis (t : Instant) : t.wholeMillis.iso = t.iso := by
  have hsecond : t.nanos / 1000000 * 1000000 / 1000000000 = t.nanos / 1000000000 := by omega
  have hmillis : t.nanos / 1000000 * 1000000 % 1000000000 / 1000000
      = t.nanos % 1000000000 / 1000000 := by omega
  simp only [iso, dateText, timeText, wholeMillis, billion, hsecond, hmillis]

theorem toMillis_wholeMillis (t : Instant) : t.wholeMillis.toMillis = t.toMillis := by
  have hmillis : t.nanos / 1000000 * 1000000 / 1000000 = t.nanos / 1000000 :=
    Nat.mul_div_cancel _ (by decide)
  simp only [toMillis, toSeconds, wholeMillis]
  omega

theorem shiftBack?_zero (h : t.Sound) : shiftBack? 0 t = some t := by
  obtain ⟨hmin, hmax, hseconds, -, -⟩ := h
  rw [daySeconds] at hseconds
  have hday : (t.seconds : Int) / 86400 = 0 := by omega
  have hsecond : ((t.seconds : Int) % 86400).toNat = t.seconds := by omega
  simp [shiftBack?, daySeconds, hday, hsecond, hmin, hmax]

theorem Sound.wholeMillis (h : t.Sound) : t.wholeMillis.Sound := by
  obtain ⟨hmin, hmax, hseconds, hnanos, hleap⟩ := h
  refine ⟨hmin, hmax, hseconds, ?_, fun hlong => hleap ?_⟩
  all_goals
    simp only [Instant.wholeMillis, billion] at *
    omega

/-- The fields that are written have two digits, and the milliseconds have three. -/
theorem Sound.fields_lt (h : t.Sound) :
    t.reading.month < 100 ∧ t.reading.day < 100 ∧ t.reading.hour < 100 ∧ t.reading.minute < 100
      ∧ t.reading.second < 100 ∧ t.millis < 1000 := by
  have hvalid := Date.isValid_ofDays h.minDays_le h.le_maxDays
  obtain ⟨-, ⟨-, hmonth⟩, -, hday⟩ := Date.isValid_iff.1 hvalid
  have hdays (leap : Bool) : ∀ month ≤ 12,
      Date.daysBeforeMonth leap (month + 1) - Date.daysBeforeMonth leap month ≤ 31 := by
    cases leap <;> decide
  have hday' := Nat.le_trans hday (hdays _ _ hmonth)
  obtain ⟨-, -, hseconds, hnanos, -⟩ := h
  rw [daySeconds] at hseconds
  rw [billion] at hnanos
  simp only [reading, millis, billion]
  omega

/-- The fields that are written make the instant again, to the millisecond. -/
theorem instant?_reading (h : t.Sound) : t.reading.instant? = some t.wholeMillis := by
  have hdate : t.reading.date? = some (Date.ofDays t.days) :=
    if_pos (Date.isValid_ofDays h.minDays_le h.le_maxDays)
  have hshift := shiftBack?_zero h.wholeMillis
  obtain ⟨-, -, hseconds, hnanos, hleap⟩ := h
  rw [daySeconds] at hseconds
  rw [billion] at hnanos hleap
  have hclock : t.reading.hour ≤ 23 ∧ t.reading.minute ≤ 59 ∧ t.reading.second ≤ 60
      ∧ -86400 < t.reading.offset ∧ t.reading.offset < 86400 := by
    simp only [reading, billion]
    omega
  have hminute : t.reading.second = t.seconds % 60 + t.nanos / 1000000000 := rfl
  have hsplit : (if t.reading.second = 60 then (59, billion) else (t.reading.second, 0))
      = (t.seconds % 60, t.nanos / 1000000000 * 1000000000) := by
    rcases Nat.lt_or_ge t.nanos 1000000000 with hlt | hge
    · have hnone : t.nanos / 1000000000 = 0 := by omega
      rw [if_neg (by omega), hminute, hnone, Nat.add_zero, Nat.zero_mul]
    · have hone : t.nanos / 1000000000 = 1 := by omega
      rw [if_pos (by omega), hone, hleap hge]
      rfl
  have hsecond : t.reading.hour * 3600 + t.reading.minute * 60 + t.seconds % 60 = t.seconds := by
    simp only [reading]
    omega
  have hnanos : t.reading.nanos + t.nanos / 1000000000 * 1000000000
      = t.nanos / 1000000 * 1000000 := by
    have hwritten : t.reading.nanos = t.nanos % 1000000000 / 1000000 * 1000000 := rfl
    omega
  rw [Calendar.Reading.instant?, hdate]
  simp only [Option.bind_eq_bind, Option.bind_some, if_pos hclock, hsplit, hsecond, hnanos,
    Date.toDays_ofDays]
  exact hshift

/-! ## Written instants -/

/-- The characters of the date of an instant. -/
def dateChars (t : Instant) : List Char :=
  (yearText t.reading.year).toList ++ '-' :: ((padded 2 t.reading.month).toList
    ++ '-' :: (padded 2 t.reading.day).toList)

/-- The characters of the time of an instant. -/
def timeChars (t : Instant) : List Char :=
  (padded 2 t.reading.hour).toList ++ ':' :: ((padded 2 t.reading.minute).toList
    ++ ':' :: ((padded 2 t.reading.second).toList ++ '.' :: (padded 3 t.millis).toList))

theorem toList_stamp (separator : String) (t : Instant) :
    (t.stamp separator).toList = t.dateChars ++ (separator.toList ++ t.timeChars) := by
  simp [stamp, dateText, timeText, dateChars, timeChars, reading, millis]

theorem toList_iso (t : Instant) :
    t.iso.toList = t.dateChars ++ 'T' :: (t.timeChars ++ ['Z']) := by
  simp [iso, dateText, timeText, dateChars, timeChars, reading, millis]

end Instant

namespace Calendar

variable {t : Instant} {cs : List Char} {r : Reading} {pattern : Pattern}

theorem endsNumeral_dash (cs : List Char) : EndsNumeral ('-' :: cs) :=
  endsNumeral_cons (by decide) cs

theorem endsNumeral_colon (cs : List Char) : EndsNumeral (':' :: cs) :=
  endsNumeral_cons (by decide) cs

theorem endsNumeral_point (cs : List Char) : EndsNumeral ('.' :: cs) :=
  endsNumeral_cons (by decide) cs

theorem takeChar?_self (c : Char) (cs : List Char) : takeChar? c (c :: cs) = some cs :=
  if_pos rfl

/-- The date of an instant is read back by a pattern. -/
theorem read?_dateChars (h : t.Sound) (hcs : EndsNumeral cs) :
    Pattern.read? r (datePattern ++ pattern) (t.dateChars ++ cs)
      = Pattern.read? { r with
          year := t.reading.year, month := t.reading.month, day := t.reading.day } pattern cs := by
  obtain ⟨hmonth, hday, -⟩ := h.fields_lt
  simp only [datePattern, Instant.dateChars, List.cons_append, List.nil_append, List.append_assoc,
    Pattern.read?, Field.read?, takeChar?_self, takeYear?_yearText _ (endsNumeral_dash _),
    takeShort?_padded hmonth (endsNumeral_dash _), takeShort?_padded hday hcs, Option.map_some]

/-- The time of an instant is read back by a pattern, to the millisecond. -/
theorem read?_timeChars (h : t.Sound) (hcs : EndsNumeral cs) :
    Pattern.read? r (timePattern ++ pattern) (t.timeChars ++ cs)
      = Pattern.read? { r with
          hour := t.reading.hour, minute := t.reading.minute, second := t.reading.second,
          nanos := t.reading.nanos } pattern cs := by
  obtain ⟨-, -, hhour, hminute, hsecond, hmillis⟩ := h.fields_lt
  simp only [timePattern, minutePattern, Instant.timeChars, List.cons_append, List.nil_append,
    List.append_assoc, Pattern.read?, Field.read?, takeChar?_self,
    takeShort?_padded hhour (endsNumeral_colon _), takeShort?_padded hminute (endsNumeral_colon _),
    takeShort?_padded hsecond (endsNumeral_point _), takeFraction?_padded hmillis hcs,
    Option.map_some]
  rfl

theorem bind_of_read {α β : Type} {read : Option α} {a : α} (h : read = some a)
    (next : α → Option β) : read >>= next = next a :=
  h ▸ rfl

/-- What the strict format reads: its fields one after the other, up to the offset. -/
theorem strict?_of_fields {cs₁ cs₂ cs₃ cs₄ cs₅ cs₆ cs₇ : List Char} {sep : Char}
    (hsep : sep = 't' ∨ sep = 'T' ∨ sep = ' ') {year month day hour minute second nanos : Nat}
    (hyear : takeNumber? 4 4 cs = some (year, '-' :: cs₁))
    (hmonth : takeNumber? 2 2 cs₁ = some (month, '-' :: cs₂))
    (hday : takeNumber? 2 2 cs₂ = some (day, sep :: cs₃))
    (hhour : takeNumber? 2 2 cs₃ = some (hour, ':' :: cs₄))
    (hminute : takeNumber? 2 2 cs₄ = some (minute, ':' :: cs₅))
    (hsecond : takeNumber? 2 2 cs₅ = some (second, cs₆))
    (hnanos : takeFraction? cs₆ = some (nanos, cs₇)) :
    strict? cs = (takeOffset? true cs₇).bind fun read =>
      if read.2.isEmpty then
        Reading.instant? ⟨year, month, day, hour, minute, second, nanos, read.1⟩
      else none := by
  have hmark {c : Char} (cs : List Char) := takeChar?_self c cs
  refine (bind_of_read hyear _).trans ((bind_of_read (hmark cs₁) _).trans ?_)
  refine (bind_of_read hmonth _).trans ((bind_of_read (hmark cs₂) _).trans ?_)
  refine (bind_of_read hday _).trans ?_
  dsimp only
  rw [if_pos hsep]
  refine (bind_of_read hhour _).trans ((bind_of_read (hmark cs₄) _).trans ?_)
  refine (bind_of_read hminute _).trans ((bind_of_read (hmark cs₅) _).trans ?_)
  exact (bind_of_read hsecond _).trans (bind_of_read hnanos _)

/-- An instant whose year has four digits is read back in the strict format, up to its offset. -/
theorem strict?_of_plain (h : t.Sound) (hyear : 0 ≤ t.reading.year ∧ t.reading.year ≤ 9999)
    {sep : Char} (hsep : sep = 't' ∨ sep = 'T' ∨ sep = ' ') (hcs : EndsNumeral cs) :
    strict? (t.dateChars ++ sep :: (t.timeChars ++ cs))
      = (takeOffset? true cs).bind fun read =>
          if read.2.isEmpty then Reading.instant? { t.reading with offset := read.1 }
          else none := by
  obtain ⟨hmonth, hday, hhour, hminute, hsecond, hmillis⟩ := h.fields_lt
  have hfour : (Instant.padded 4 t.reading.year.natAbs).toList.length ≤ 4 :=
    Nat.le_of_eq (length_padded (by decide) (by omega))
  have hsep' : sep.isDigit = false := by
    rcases hsep with rfl | rfl | rfl <;> decide
  have hread := strict?_of_fields hsep
    (takeNumber?_padded (Nat.le_refl 4) hfour (endsNumeral_dash _))
    (takeNumber?_two hmonth (endsNumeral_dash _)) (takeNumber?_two hday (endsNumeral_cons hsep' _))
    (takeNumber?_two hhour (endsNumeral_colon _)) (takeNumber?_two hminute (endsNumeral_colon _))
    (takeNumber?_two hsecond (endsNumeral_point _)) (takeFraction?_padded hmillis hcs)
  rw [Int.natAbs_of_nonneg hyear.1] at hread
  have hchars : t.dateChars ++ sep :: (t.timeChars ++ cs)
      = (Instant.padded 4 t.reading.year.natAbs).toList ++ '-' ::
        ((Instant.padded 2 t.reading.month).toList ++ '-' ::
        ((Instant.padded 2 t.reading.day).toList ++ sep ::
        ((Instant.padded 2 t.reading.hour).toList ++ ':' ::
        ((Instant.padded 2 t.reading.minute).toList ++ ':' ::
        ((Instant.padded 2 t.reading.second).toList ++ '.' ::
        ((Instant.padded 3 t.millis).toList ++ cs)))))) := by
    simp only [Instant.dateChars, Instant.timeChars, Instant.yearText, if_pos hyear,
      List.cons_append, List.append_assoc]
  rw [hchars]
  exact hread

/-- A text that begins with a sign is not in the strict format. -/
theorem strict?_eq_none (hcs : EndsNumeral cs) : strict? cs = none := by
  rw [strict?, takeNumber?_eq_none (by decide) hcs]
  rfl

/-- An instant whose year is written with its sign begins with it. -/
theorem endsNumeral_dateChars (hyear : ¬ (0 ≤ t.reading.year ∧ t.reading.year ≤ 9999))
    (cs : List Char) : EndsNumeral (t.dateChars ++ cs) := by
  rw [Instant.dateChars, Instant.yearText, if_neg hyear]
  split
  · simpa using endsNumeral_cons (c := '-') (by decide) _
  · simpa using endsNumeral_cons (c := '+') (by decide) _

/-! ## What stands between the date and the time -/

theorem read?_mark (c : Char) (cs : List Char) :
    Pattern.read? r (.mark c :: pattern) (c :: cs) = Pattern.read? r pattern cs := by
  simp only [Pattern.read?, Field.read?, takeChar?_self, Option.map_some]

theorem read?_mark_of_ne {c d : Char} (h : d ≠ c) (cs : List Char) :
    Pattern.read? r (.mark c :: pattern) (d :: cs) = none := by
  simp only [Pattern.read?, Field.read?, takeChar?, if_neg h, Option.map_none]

theorem exists_timeChars_eq (t : Instant) : ∃ c cs, t.timeChars = c :: cs ∧ c.isDigit := by
  obtain ⟨c, ds, hpadded, hc⟩ := exists_padded_eq 2 t.reading.hour (by decide)
  exact ⟨c, _, by rw [Instant.timeChars, hpadded, List.cons_append], hc⟩

theorem read?_space (cs : List Char) :
    Pattern.read? r (.blanks :: pattern) (' ' :: (t.timeChars ++ cs))
      = Pattern.read? r pattern (t.timeChars ++ cs) := by
  obtain ⟨c, ds, htime, hc⟩ := exists_timeChars_eq t
  have hspace (cs : List Char) : trimStartChars (' ' :: cs) = trimStartChars cs := rfl
  rw [htime, List.cons_append]
  simp only [Pattern.read?, Field.read?, hspace, trimStartChars_of_isDigit hc]

/-- An hour is not read where a letter stands. -/
theorem read?_hour_mark (cs : List Char) :
    Pattern.read? r (.blanks :: .hour :: pattern) ('T' :: cs) = none := by
  have htrim : trimStartChars ('T' :: cs) = 'T' :: cs :=
    trimStart_append_of_not_blank (by decide) cs
  have hnone : takeNumber? 1 2 ('T' :: cs) = none :=
    takeNumber?_eq_none (by decide) (endsNumeral_cons (by decide) cs)
  simp only [Pattern.read?, Field.read?, takeShort?, htrim, hnone, Option.map_none]

end Calendar

namespace Instant

open Calendar

variable {t : Instant}

/-- There is nothing to trim off a text whose first character and whose ending are not blank. -/
theorem trimChars_append {cs ds : List Char} (hfirst : ∀ c ∈ (cs ++ ds).head?, isBlank c = false)
    (hne : ds ≠ []) (hds : ∀ c ∈ ds, isBlank c = false) : trimChars (cs ++ ds) = cs ++ ds := by
  have hstart {xs : List Char} (h : ∀ c ∈ xs.head?, isBlank c = false) :
      trimStartChars xs = xs := by
    cases xs with
    | nil => rfl
    | cons c xs => exact trimStart_append_of_not_blank (h c rfl) xs
  have hend : ∀ c ∈ (cs ++ ds).reverse.head?, isBlank c = false := by
    intro c hc
    rw [List.head?_reverse, List.getLast?_append_of_ne_nil _ hne] at hc
    exact hds c (List.mem_of_getLast? hc)
  rw [trimChars, hstart hfirst, trimEnd_eq_reverse, hstart hend, List.reverse_reverse]

theorem isBlank_head_dateChars (t : Instant) (cs : List Char) :
    ∀ c ∈ (t.dateChars ++ cs).head?, isBlank c = false := by
  obtain ⟨c, ds, hpadded, hc⟩ := exists_padded_eq 4 t.reading.year.natAbs (by decide)
  rw [dateChars, yearText]
  split
  · rw [hpadded]
    exact fun d hd => Option.some.inj hd ▸ isBlank_of_isDigit hc
  · split <;> simp <;> decide

/-- There is nothing to trim off a written instant. -/
theorem trimChars_iso (t : Instant) : trimChars t.iso.toList = t.iso.toList := by
  rw [toList_iso, show t.dateChars ++ 'T' :: (t.timeChars ++ ['Z'])
    = (t.dateChars ++ 'T' :: t.timeChars) ++ ['Z'] by simp]
  refine trimChars_append ?_ (by simp) (by simp; decide)
  rw [List.append_assoc]
  exact isBlank_head_dateChars t _

theorem trimChars_stamp (separator : String) (t : Instant) :
    trimChars (t.stamp separator).toList = (t.stamp separator).toList := by
  have hsplit : t.dateChars ++ (separator.toList ++ t.timeChars)
      = (t.dateChars ++ (separator.toList ++ ((padded 2 t.reading.hour).toList ++
        ':' :: ((padded 2 t.reading.minute).toList ++ ':' ::
          ((padded 2 t.reading.second).toList ++ ['.']))))) ++ (padded 3 t.millis).toList := by
    simp [timeChars]
  have hne : (padded 3 t.millis).toList ≠ [] := by
    obtain ⟨c, ds, hpadded, -⟩ := exists_padded_eq 3 t.millis (by decide)
    rw [hpadded]
    exact List.cons_ne_nil c ds
  rw [toList_stamp, hsplit]
  refine trimChars_append ?_ hne fun c hc => isBlank_of_isDigit (isDigit_of_mem_padded hc)
  rw [List.append_assoc]
  exact isBlank_head_dateChars t _

/-- The character between the date and the time that a field reads. -/
def Separates (field : Field) (sep : Char) : Prop :=
  field = .blanks ∧ sep = ' ' ∨ field = .mark 'T' ∧ sep = 'T'

/-- The date and the time are read by a pattern whose field between them reads what stands there. -/
theorem read?_written (h : t.Sound) {field : Field} {sep : Char} (hsep : Separates field sep)
    (pattern : Pattern) {cs : List Char} (hcs : EndsNumeral cs) :
    Pattern.read? .empty (datePattern ++ [field] ++ timePattern ++ pattern)
      (t.dateChars ++ sep :: (t.timeChars ++ cs)) = Pattern.read? t.reading pattern cs := by
  rw [List.append_assoc, List.append_assoc]
  rcases hsep with ⟨rfl, rfl⟩ | ⟨rfl, rfl⟩
  · rw [read?_dateChars h (endsNumeral_cons (by decide) _), List.cons_append, List.nil_append,
      read?_space, read?_timeChars h hcs]
    rfl
  · rw [read?_dateChars h (endsNumeral_cons (by decide) _), List.cons_append, List.nil_append,
      read?_mark, read?_timeChars h hcs]
    rfl

/-- A blank does not stand for the letter between the date and the time, nor the letter for a
blank. -/
theorem read?_written_eq_none (h : t.Sound) {field : Field} {sep : Char}
    (hsep : field = .blanks ∧ sep = 'T' ∨ field = .mark 'T' ∧ sep = ' ') (pattern : Pattern)
    (cs : List Char) :
    Pattern.read? .empty (datePattern ++ [field] ++ timePattern ++ pattern)
      (t.dateChars ++ sep :: (t.timeChars ++ cs)) = none := by
  rw [List.append_assoc, List.append_assoc]
  rcases hsep with ⟨rfl, rfl⟩ | ⟨rfl, rfl⟩
  · rw [read?_dateChars h (endsNumeral_cons (by decide) _)]
    exact read?_hour_mark _
  · rw [read?_dateChars h (endsNumeral_cons (by decide) _)]
    exact read?_mark_of_ne (by decide) _

/-- What an instant is written with: what stands between its date and its time, and what stands
behind them. -/
inductive Written : Char → List Char → Prop where
  | result : Written 'T' ['Z']
  | blank : Written ' ' []
  | letter : Written 'T' []

/-- What the patterns make of the date and the time of a written instant. -/
theorem findSome?_patterns (h : t.Sound) {sep : Char} {cs : List Char} (hwritten : Written sep cs) :
    patterns.findSome? (fun p =>
      (Pattern.read? .empty p (t.dateChars ++ sep :: (t.timeChars ++ cs))).bind Reading.instant?)
      = some t.wholeMillis := by
  have hblanks : Separates .blanks ' ' := .inl ⟨rfl, rfl⟩
  have hletter : Separates (.mark 'T') 'T' := .inr ⟨rfl, rfl⟩
  have hmade := instant?_reading h
  have hend (r : Reading) : Pattern.read? r [] [] = some r := rfl
  have hnone (r : Reading) : Pattern.read? r [.offset] [] = none := rfl
  have hZ (r : Reading) : Pattern.read? r [.offset] ['Z'] = some { r with offset := 0 } := rfl
  have hzero : { t.reading with offset := 0 } = t.reading := rfl
  have hpatterns : patterns
      = [ datePattern ++ [.blanks] ++ timePattern ++ [.offset],
          datePattern ++ [.mark 'T'] ++ timePattern ++ [.offset],
          datePattern ++ [.blanks] ++ timePattern ++ [],
          datePattern ++ [.mark 'T'] ++ timePattern ++ [],
          datePattern ++ [.blanks] ++ minutePattern, datePattern ] := rfl
  simp only [hpatterns, List.findSome?_cons]
  -- an offset is looked for first, and the instants without one fail there
  cases hwritten with
  | result =>
    have hcs : EndsNumeral ['Z'] := endsNumeral_cons (by decide) []
    rw [read?_written_eq_none h (.inl ⟨rfl, rfl⟩), read?_written h hletter _ hcs, hZ, hzero,
      Option.bind_none, Option.bind_some, hmade]
  | blank =>
    rw [read?_written h hblanks _ endsNumeral_nil, hnone,
      read?_written_eq_none h (.inr ⟨rfl, rfl⟩), read?_written h hblanks _ endsNumeral_nil, hend,
      Option.bind_none, Option.bind_some, hmade]
  | letter =>
    rw [read?_written_eq_none h (.inl ⟨rfl, rfl⟩), read?_written h hletter _ endsNumeral_nil, hnone,
      read?_written_eq_none h (.inl ⟨rfl, rfl⟩), read?_written h hletter _ endsNumeral_nil, hend,
      Option.bind_none, Option.bind_some, hmade]

/-- In the strict format the instant is read, or nothing is. -/
theorem strict?_written (h : t.Sound) {sep : Char} {cs : List Char} (hwritten : Written sep cs) :
    strict? (t.dateChars ++ sep :: (t.timeChars ++ cs)) = none ∨
      strict? (t.dateChars ++ sep :: (t.timeChars ++ cs)) = some t.wholeMillis := by
  by_cases hyear : 0 ≤ t.reading.year ∧ t.reading.year ≤ 9999
  · cases hwritten with
    | result =>
      rw [strict?_of_plain h hyear (.inr (.inl rfl)) (endsNumeral_cons (by decide) [])]
      exact .inr (instant?_reading h)
    | blank =>
      rw [strict?_of_plain h hyear (.inr (.inr rfl)) endsNumeral_nil]
      exact .inl rfl
    | letter =>
      rw [strict?_of_plain h hyear (.inr (.inl rfl)) endsNumeral_nil]
      exact .inl rfl
  · exact .inl (strict?_eq_none (endsNumeral_dateChars hyear _))

/-- A written instant reads back as the instant, to the millisecond. -/
theorem ofText?_written (h : t.Sound) {s : String} {sep : Char} {cs : List Char}
    (hwritten : Written sep cs)
    (hs : trimChars s.toList = t.dateChars ++ sep :: (t.timeChars ++ cs)) :
    ofText? s = some t.wholeMillis := by
  rw [ofText?, hs, findSome?_patterns h hwritten]
  rcases strict?_written h hwritten with hstrict | hstrict
  all_goals
    rw [hstrict]
    rfl

theorem ofText?_iso (h : t.Sound) : ofText? t.iso = some t.wholeMillis :=
  ofText?_written h .result (by rw [trimChars_iso, toList_iso])

theorem ofText?_stamp_space (h : t.Sound) : ofText? (t.stamp " ") = some t.wholeMillis :=
  ofText?_written h .blank (by
    rw [trimChars_stamp]
    simp [toList_stamp])

theorem ofText?_stamp_letter (h : t.Sound) : ofText? (t.stamp "T") = some t.wholeMillis :=
  ofText?_written h .letter (by
    rw [trimChars_stamp]
    simp [toList_stamp])

end Instant

end Pushdown
