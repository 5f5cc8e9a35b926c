import Mathlib.Algebra.Group.Nat.Defs
import Mathlib.Data.List.Induction
import Pushdown.Calendar.Reading

/-!
# Sound instants

Every instant that is made has a day that is kept, a second of that day and, outside of a leap
second, less than a billion nanoseconds (`Instant.Sound`). It holds of instants counted from the
epoch (`Instant.sound_of_ofSeconds?`) and of instants that are read (`Instant.sound_of_ofText?`):
each field of a pattern keeps what has been read sound (`Calendar.Reading.Sound.read?`), so a whole
pattern does, and only a sixtieth second is a leap second.
-/

namespace Pushdown

open Text

namespace Instant

/-- What holds of every instant that is made: its day is kept, its second is one of a day, and only
the last second of a minute is a leap second. -/
structure Sound (t : Instant) : Prop where
  minDays_le : Date.minDays ≤ t.days
  le_maxDays : t.days ≤ Date.maxDays
  seconds_lt : t.seconds < daySeconds
  nanos_lt : t.nanos < 2 * billion
  of_leap : billion ≤ t.nanos → t.seconds % 60 = 59

end Instant

namespace Calendar

theorem digitsValue_lt {ds : List Char} (h : ∀ c ∈ ds, c.isDigit) :
    digitsValue ds < 10 ^ ds.length := by
  induction ds using List.reverseRecOn with
  | nil => decide
  | append_singleton ds c ih =>
    have hvalue : digitsValue (ds ++ [c]) = 10 * digitsValue ds + (c.toNat - '0'.toNat) := by
      simp [digitsValue]
    obtain ⟨hlow, hhigh⟩ : 48 ≤ c.toNat ∧ c.toNat ≤ 57 :=
      Char.isDigit_iff_toNat.1 (h c (by simp))
    have hprefix := ih fun d hd => h d (by simp [hd])
    have hdigit : c.toNat - '0'.toNat < 10 := by
      rw [show '0'.toNat = 48 from rfl]
      omega
    rw [hvalue, List.length_append, List.length_singleton, Nat.pow_succ]
    omega

/-- Nine digits after the point are less than a second. -/
theorem takeNanos?_lt {cs rest : List Char} {nanos : Nat} (h : takeNanos? cs = some (nanos, rest)) :
    nanos < Instant.billion := by
  rw [takeNanos?] at h
  dsimp only at h
  split at h
  · cases h
  · obtain ⟨rfl, -⟩ := Prod.mk.inj (Option.some.inj h)
    have hdigits : ∀ c ∈ (spanDigits cs).1.take 9, c.isDigit := fun c hc =>
      List.all_eq_true.1 List.all_takeWhile c (List.mem_of_mem_take hc)
    have hlength : ((spanDigits cs).1.take 9).length ≤ 9 := List.length_take_le 9 _
    calc digitsValue ((spanDigits cs).1.take 9) * 10 ^ (9 - ((spanDigits cs).1.take 9).length)
      _ < 10 ^ ((spanDigits cs).1.take 9).length
            * 10 ^ (9 - ((spanDigits cs).1.take 9).length) :=
          Nat.mul_lt_mul_of_pos_right (digitsValue_lt hdigits) (Nat.pow_pos (by decide))
      _ = Instant.billion := by
          rw [← Nat.pow_add, Nat.add_sub_cancel' hlength]
          rfl

theorem takeFraction?_lt {cs rest : List Char} {nanos : Nat}
    (h : takeFraction? cs = some (nanos, rest)) : nanos < Instant.billion := by
  rw [takeFraction?.eq_def] at h
  split at h
  · exact takeNanos?_lt h
  · obtain ⟨rfl, -⟩ := Prod.mk.inj (Option.some.inj h)
    decide

/-- An offset is written in minutes. -/
theorem dvd_of_takeOffset? {strict : Bool} {cs rest : List Char} {offset : Int}
    (h : takeOffset? strict cs = some (offset, rest)) : 60 ∣ offset := by
  cases cs with
  | nil => cases h
  | cons c cs =>
    rw [takeOffset?] at h
    split at h
    · obtain ⟨rfl, -⟩ := Prod.mk.inj (Option.some.inj h)
      exact Int.dvd_zero 60
    · obtain ⟨⟨negative, cs₁⟩, -, h⟩ := Option.bind_eq_some_iff.1 h
      obtain ⟨⟨hours, cs₂⟩, -, h⟩ := Option.bind_eq_some_iff.1 h
      have hend {minutes : Nat} {cs : List Char}
          (h : some (if negative then -(hours * 3600 + minutes * 60 : Int)
            else hours * 3600 + minutes * 60, cs) = some (offset, rest)) : 60 ∣ offset := by
        obtain ⟨rfl, -⟩ := Prod.mk.inj (Option.some.inj h)
        split <;> omega
      dsimp only at h
      -- the colon and the minutes are there or are left out
      split at h
      all_goals
        obtain ⟨cs₃, -, h⟩ := Option.bind_eq_some_iff.1 h
        split at h
        all_goals
          obtain ⟨⟨minutes, cs₄⟩, -, h⟩ := Option.bind_eq_some_iff.1 h
          exact hend h

/-- What holds of what is read, field by field: its fraction is less than a second and its offset is
in minutes. -/
structure Reading.Sound (r : Reading) : Prop where
  nanos_lt : r.nanos < Instant.billion
  dvd_offset : 60 ∣ r.offset

theorem Reading.sound_empty : Reading.empty.Sound :=
  ⟨by decide, Int.dvd_zero 60⟩

/-- A field keeps what is read sound. -/
theorem Reading.Sound.read? {r r' : Reading} {cs rest : List Char} {field : Field} (h : r.Sound)
    (hread : field.read? r cs = some (r', rest)) : r'.Sound := by
  obtain ⟨hnanos, hoffset⟩ := h
  cases field with
  | fraction =>
    obtain ⟨⟨nanos, _⟩, hfraction, heq⟩ := Option.map_eq_some_iff.1 hread
    obtain ⟨rfl, -⟩ := Prod.mk.inj heq
    exact ⟨takeFraction?_lt hfraction, hoffset⟩
  | offset =>
    obtain ⟨⟨seconds, _⟩, hseconds, heq⟩ := Option.map_eq_some_iff.1 hread
    obtain ⟨rfl, -⟩ := Prod.mk.inj heq
    exact ⟨hnanos, dvd_of_takeOffset? hseconds⟩
  | blanks =>
    obtain ⟨rfl, -⟩ := Prod.mk.inj (Option.some.inj hread)
    exact ⟨hnanos, hoffset⟩
  | year | month | day | hour | minute | second | mark =>
    obtain ⟨_, _, heq⟩ := Option.map_eq_some_iff.1 hread
    obtain ⟨rfl, -⟩ := Prod.mk.inj heq
    exact ⟨hnanos, hoffset⟩

/-- A pattern keeps what is read sound. -/
theorem Reading.Sound.readAll? {r r' : Reading} {cs : List Char} {p : Pattern} (h : r.Sound)
    (hread : Pattern.read? r p cs = some r') : r'.Sound := by
  induction p generalizing r cs with
  | nil =>
    rw [Pattern.read?] at hread
    split at hread
    · exact Option.some.inj hread ▸ h
    · cases hread
  | cons field rest ih =>
    rw [Pattern.read?] at hread
    split at hread
    · next hfield => exact ih (h.read? hfield) hread
    · cases hread

theorem of_shiftBack? {offset : Int} {t made : Instant} (h : t.shiftBack? offset = some made) :
    Date.minDays ≤ made.days ∧ made.days ≤ Date.maxDays
      ∧ made.seconds = ((t.seconds - offset : Int) % 86400).toNat ∧ made.nanos = t.nanos := by
  dsimp only [Instant.shiftBack?] at h
  split at h
  · next hkept =>
    rw [← Option.some.inj h]
    exact ⟨hkept.1, hkept.2, rfl, rfl⟩
  · cases h

/-- A sound reading makes a sound instant. -/
theorem Reading.Sound.instant? {r : Reading} {t : Instant} (h : r.Sound)
    (hmade : r.instant? = some t) : t.Sound := by
  obtain ⟨hnanos, minutes, hoffset⟩ := h
  obtain ⟨d, -, hmade⟩ := Option.bind_eq_some_iff.1 hmade
  rw [Instant.billion] at hnanos hmade
  split at hmade
  · by_cases hsixty : r.second = 60
    · rw [if_pos hsixty] at hmade
      obtain ⟨hmin, hmax, hseconds, hmadeNanos⟩ := of_shiftBack? hmade
      refine ⟨hmin, hmax, ?_, ?_, fun _ => ?_⟩
      all_goals
        simp only [Instant.billion, Instant.daySeconds] at *
        omega
    · rw [if_neg hsixty] at hmade
      obtain ⟨hmin, hmax, hseconds, hmadeNanos⟩ := of_shiftBack? hmade
      refine ⟨hmin, hmax, ?_, ?_, fun hleap => ?_⟩
      all_goals
        simp only [Instant.billion, Instant.daySeconds] at *
        omega
  · cases hmade

theorem sound_of_strict? {cs : List Char} {t : Instant} (h : strict? cs = some t) : t.Sound := by
  obtain ⟨⟨year, cs₁⟩, -, h⟩ := Option.bind_eq_some_iff.1 h
  obtain ⟨cs₂, -, h⟩ := Option.bind_eq_some_iff.1 h
  obtain ⟨⟨month, cs₃⟩, -, h⟩ := Option.bind_eq_some_iff.1 h
  obtain ⟨cs₄, -, h⟩ := Option.bind_eq_some_iff.1 h
  obtain ⟨⟨day, cs₅⟩, -, h⟩ := Option.bind_eq_some_iff.1 h
  dsimp only at h
  split at h
  · split at h
    · obtain ⟨cs₆, -, h⟩ := Option.bind_eq_some_iff.1 h
      obtain ⟨⟨hour, cs₇⟩, -, h⟩ := Option.bind_eq_some_iff.1 h
      obtain ⟨cs₈, -, h⟩ := Option.bind_eq_some_iff.1 h
      obtain ⟨⟨minute, cs₉⟩, -, h⟩ := Option.bind_eq_some_iff.1 h
      obtain ⟨cs₁₀, -, h⟩ := Option.bind_eq_some_iff.1 h
      obtain ⟨⟨second, cs₁₁⟩, -, h⟩ := Option.bind_eq_some_iff.1 h
      obtain ⟨⟨nanos, cs₁₂⟩, hnanos, h⟩ := Option.bind_eq_some_iff.1 h
      obtain ⟨⟨offset, cs₁₃⟩, hoffset, h⟩ := Option.bind_eq_some_iff.1 h
      dsimp only at h
      split at h
      · exact Reading.Sound.instant? ⟨takeFraction?_lt hnanos, dvd_of_takeOffset? hoffset⟩ h
      · cases h
    · cases h
  · cases h

end Calendar

namespace Instant

open Calendar

variable {t : Instant}

theorem sound_of_ofSeconds? {seconds : Int} {nanos : Nat} (hnanos : nanos < billion)
    (h : ofSeconds? seconds nanos = some t) : t.Sound := by
  rw [ofSeconds?] at h
  split at h
  · next hkept =>
    rw [← Option.some.inj h]
    refine ⟨hkept.1, hkept.2, ?_, ?_, ?_⟩
    all_goals
      simp only [billion, daySeconds] at *
      omega
  · cases h

theorem sound_of_ofMillis? {millis : Int} (h : ofMillis? millis = some t) : t.Sound := by
  refine sound_of_ofSeconds? ?_ h
  rw [billion]
  omega

/-- A text that is read makes a sound instant. -/
theorem sound_of_ofText? {s : String} (h : ofText? s = some t) : t.Sound := by
  rw [ofText?, Option.orElse_eq_or, Option.or_eq_some_iff] at h
  rcases h with hstrict | ⟨-, hpattern⟩
  · exact sound_of_strict? hstrict
  · obtain ⟨p, -, hp⟩ := List.exists_of_findSome?_eq_some hpattern
    obtain ⟨r, hread, hmade⟩ := Option.bind_eq_some_iff.1 hp
    exact (Reading.sound_empty.readAll? hread).instant? hmade

end Instant

end Pushdown
