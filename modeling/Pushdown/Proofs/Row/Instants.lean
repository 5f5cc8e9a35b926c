import Pushdown.Predicate.OfFilter
import Pushdown.Proofs.Calendar.Stamps
import Pushdown.Row.Normalize

/-!
# Normalized instants

A value of a datetime column is normalized to the text of the instant it denotes.
`normalizeInstant_fixed` says that the text is normalized to itself and that a filter takes it for
the same instant, to the millisecond, so a cell of a result can be asked for as it stands. It does
not matter how the value denoted the instant, since every instant that a value denotes is sound
(`Instant.sound_of_ofJson?`) and a sound instant is read back from its text.
-/

namespace Pushdown

open Text

/-! ## Denoted instants are sound -/

namespace Instant

variable {t : Instant}

theorem sound_of_ofScalar? {j : Json} (h : ofScalar? j = some t) : t.Sound := by
  cases j with
  | int k =>
    rw [ofScalar?] at h
    split at h <;> exact sound_of_ofMillis? h
  | float x => exact sound_of_ofMillis? h
  | text s =>
    rw [ofScalar?] at h
    split at h
    · exact sound_of_ofMillis? h
    · exact sound_of_ofText? h
  | null | bool | list | object => cases h

mutual

/-- An instant that a value denotes is sound. -/
theorem sound_of_ofJson? {j : Json} {t : Instant} (h : ofJson? j = some t) : t.Sound := by
  cases j with
  | object members =>
    rw [ofJson?] at h
    split at h
    · obtain ⟨seconds, -, hseconds⟩ := Option.bind_eq_some_iff.1 h
      exact sound_of_ofSeconds? (by decide) hseconds
    · dsimp only at h
      split at h
      · next hdate => exact sound_of_ofMembers (h ▸ hdate)
      · exact sound_of_ofMembers (Option.join_eq_some_iff.1 h)
  | null | bool | int | float | text | list =>
    rw [ofJson?] at h
    · exact sound_of_ofScalar? h
    · nofun

theorem sound_of_ofMembers {members : Members} {name : String} {t : Instant}
    (h : (ofMembers members).lookup name = some (some t)) : t.Sound := by
  cases members with
  | nil => cases h
  | cons member rest =>
    rw [ofMembers, List.lookup_cons] at h
    split at h
    · exact sound_of_ofJson? (Option.some.inj h)
    · exact sound_of_ofMembers h

end

/-! ## Milliseconds since the epoch -/

/-- The milliseconds that denote an instant are those of the days that are kept. -/
theorem isSome_ofMillis? (millis : Int) :
    (ofMillis? millis).isSome
      ↔ Date.minDays * 86400000 ≤ millis ∧ millis < (Date.maxDays + 1) * 86400000 := by
  have hdays : (Date.minDays ≤ millis / 1000 / 86400 ∧ millis / 1000 / 86400 ≤ Date.maxDays)
      ↔ Date.minDays * 86400000 ≤ millis ∧ millis < (Date.maxDays + 1) * 86400000 := by omega
  rw [← hdays, ofMillis?, ofSeconds?, daySeconds]
  split
  · next hkept => exact iff_of_true rfl hkept
  · next hkept => exact iff_of_false Bool.false_ne_true hkept

/-- An instant of milliseconds has that many, and nothing less than a millisecond. -/
theorem of_ofMillis? {millis : Int} (h : ofMillis? millis = some t) :
    t.toMillis = millis ∧ t.wholeMillis = t := by
  rw [ofMillis?, ofSeconds?, daySeconds] at h
  split at h
  · rw [← Option.some.inj h]
    have hnanos : (millis % 1000).toNat * 1000000 / 1000000 = (millis % 1000).toNat :=
      Nat.mul_div_cancel _ (by decide)
    refine ⟨?_, ?_⟩
    · simp only [toMillis, toSeconds, daySeconds]
      omega
    · simp only [wholeMillis, hnanos]
  · cases h

end Instant

/-! ## Normalizing again -/

/-- A text that holds something other than a sign and digits is no integer. -/
theorem int64OfText?_eq_none {s : String} {c : Char} (hc : c ∈ s.toList)
    (hdigit : c.isDigit = false) (hsign : c ≠ '-' ∧ c ≠ '+') : int64OfText? s = none := by
  have hmem : c ∈ (takeSign s.toList).2 := by
    revert hc
    generalize s.toList = cs
    intro hc
    rw [takeSign.eq_def]
    split
    · exact (List.mem_cons.1 hc).resolve_left hsign.1
    · exact (List.mem_cons.1 hc).resolve_left hsign.2
    · exact hc
  have hall : (takeSign s.toList).2.all Char.isDigit = false :=
    List.all_eq_false.2 ⟨c, hmem, by rw [hdigit]; decide⟩
  rw [int64OfText?]
  dsimp only
  rw [hall]
  exact if_pos (.inr rfl)

namespace Instant

variable {t : Instant}

/-- The text of an instant denotes it, to the millisecond: it is no number of milliseconds. -/
theorem ofJson?_iso (h : t.Sound) : ofJson? (.text t.iso) = some t.wholeMillis := by
  have htrim : trim t.iso = t.iso := by rw [trim, trimChars_iso, String.ofList_toList]
  have hletter : 'T' ∈ t.iso.toList := by simp [toList_iso]
  have hnone : int64OfText? (trim t.iso) = none := by
    rw [htrim]
    exact int64OfText?_eq_none hletter (by decide) (by decide)
  rw [ofJson?, ofScalar?, hnone]
  · exact ofText?_iso h
  · intro k hk
    cases hk

end Instant

/-- A value that is normalized to a text denotes the instant that is written there. -/
theorem exists_of_normalizeInstant {v : Json} {s : String} (h : normalizeInstant v = .text s) :
    ∃ t, Instant.ofJson? v = some t ∧ t.iso = s := by
  rw [normalizeInstant] at h
  split at h
  · next t hv => exact ⟨t, hv, Json.text.inj h⟩
  · cases h

/-- A normalized instant is normalized to itself, and a filter on a datetime column takes it for the
instant it was normalized from, to the millisecond. So the instant of every number of milliseconds
that is kept is read back from its text as it was. -/
theorem normalizeInstant_fixed :
    (∀ (v : Json) (s : String), normalizeInstant v = .text s →
      normalizeInstant (.text s) = .text s
      ∧ ∀ column : Column, column.type = .datetime →
        ∃ t t' : Instant, Instant.ofJson? v = some t
          ∧ Literal.coerce column (.text s) = .ok (.timestamp t')
          ∧ t'.toMillis = t.toMillis ∧ t'.iso = s)
    ∧ (∀ millis : Int, (Instant.ofMillis? millis).isSome
      ↔ Date.minDays * 86400000 ≤ millis ∧ millis < (Date.maxDays + 1) * 86400000)
    ∧ ∀ (millis : Int) (t : Instant), Instant.ofMillis? millis = some t →
      t.toMillis = millis ∧ Instant.ofText? t.iso = some t := by
  refine ⟨fun v s h => ?_, Instant.isSome_ofMillis?, fun millis t h => ?_⟩
  · obtain ⟨t, hv, rfl⟩ := exists_of_normalizeInstant h
    have hsound := Instant.sound_of_ofJson? hv
    refine ⟨?_, fun column hcolumn => ⟨t, t.wholeMillis, hv, ?_, t.toMillis_wholeMillis,
      t.iso_wholeMillis⟩⟩
    · rw [normalizeInstant, Instant.ofJson?_iso hsound]
      exact congrArg Json.text t.iso_wholeMillis
    · rw [Literal.coerce, hcolumn, Literal.coerce?, Instant.ofText?_iso hsound]
      rfl
  · obtain ⟨hmillis, hwhole⟩ := Instant.of_ofMillis? h
    have hread := Instant.ofText?_iso (Instant.sound_of_ofMillis? h)
    exact ⟨hmillis, by rwa [hwhole] at hread⟩

/-- A leap second on a leap day before the year zero, written with what is less than a millisecond
and an offset and marked as a document does, and the last millisecond that is kept. -/
theorem normalizeInstant_fixed_leapDay :
    let value : Json := .object [("$date", .text "-0004-02-29T23:59:60.1239 +14")]
    let text := "-0004-02-29T09:59:60.123Z"
    (normalizeInstant value = .text text
      ∧ normalizeInstant (.text text) = .text text
      ∧ ∀ column : Column, column.type = .datetime →
        ∃ t t' : Instant, Instant.ofJson? value = some t
          ∧ Literal.coerce column (.text text) = .ok (.timestamp t')
          ∧ t'.toMillis = t.toMillis ∧ t'.iso = text)
    ∧ ∃ t, Instant.ofMillis? 8210266876799999 = some t ∧ t.iso = "+262142-12-31T23:59:59.999Z"
      ∧ t.toMillis = 8210266876799999 ∧ Instant.ofText? t.iso = some t := by
  intro value text
  have hvalue : normalizeInstant value = .text text := by decide +kernel
  obtain ⟨t, ht⟩ := Option.isSome_iff_exists.1
    ((normalizeInstant_fixed.2.1 8210266876799999).2 (by decide))
  have hiso : (Instant.ofMillis? 8210266876799999).map Instant.iso
      = some "+262142-12-31T23:59:59.999Z" := by decide +kernel
  rw [ht] at hiso
  exact ⟨⟨hvalue, normalizeInstant_fixed.1 value text hvalue⟩, t, ht, Option.some.inj hiso,
    normalizeInstant_fixed.2.2 8210266876799999 t ht⟩

end Pushdown
