import Pushdown.Document.Selector
import Pushdown.Proofs.Calendar.Stamps
import Pushdown.Proofs.Predicate.Filters
import Pushdown.Proofs.Relational.Lexemes

/-!
# Instants in every backend

A filter value of a datetime column is written five times: as a quoted text in the statements of
three dialects, as a marked text in a document query and as a number in a search query.
`Literal.instants_agree` says that they all write one instant, to the millisecond. The texts are
found with the reader that knows nothing of a dialect but its quotes (`Dialect.lexemes?`), and they
are read as the texts of a request are (`Instant.ofText?`).

They agree because a filter value is coerced to a sound instant, whatever it was written as
(`Literal.coerce?_datetime`), and each of the texts of a sound instant reads back as the instant
without what is less than a millisecond.
-/

namespace Pushdown

/-! ## What is written of an instant -/

/-- What stands inside the quotes of a word. -/
def Lexeme.inside? : Lexeme → Option String
  | .quoted _ s => some s
  | .word _ | .mark _ => none

namespace Dialect

/-- The texts between the quotes of a statement. -/
def insides? (d : Dialect) (text : String) : Option (List String) :=
  (d.lexemes? text).map fun words => words.filterMap Lexeme.inside?

/-- The text of an instant in the statements of a dialect. -/
def stampOf (d : Dialect) (t : Instant) : String :=
  match d with
  | .mySql | .postgres => t.stamp " "
  | .sqlServer => t.stamp "T"

/-- Only the text of an instant stands between quotes. -/
theorem insides?_instant (d : Dialect) (t : Instant) :
    d.insides? (d.render [d.literal (.timestamp t)]) = some [d.stampOf t] := by
  have htokens : d.tokens? (d.render [.words (d.instantText t)])
      = some (d.tokensOf (.words (d.instantText t))) := by
    have hsplit := (d.legible_instant t).reads.split?
    rwa [List.flatMap_singleton] at hsplit
  have hwords : Lexeme.ofTokens (d.tokensOf (.words (d.instantText t))) = d.instantLexemes t :=
    d.lexemesOf_instant t
  rw [insides?, lexemes?, literal, htokens, Option.map_some, hwords]
  cases d <;> rfl

theorem ofText?_stampOf (d : Dialect) {t : Instant} (h : t.Sound) :
    Instant.ofText? (d.stampOf t) = some t.wholeMillis := by
  cases d with
  | mySql | postgres => exact Instant.ofText?_stamp_space h
  | sqlServer => exact Instant.ofText?_stamp_letter h

end Dialect

/-! ## Filter values of a datetime column -/

namespace Literal

variable {value : Json} {literal : Literal}

/-- A filter value of a datetime column is coerced to a sound instant. -/
theorem coerce?_datetime (h : coerce? .datetime value = some literal) :
    ∃ t : Instant, literal = .timestamp t ∧ t.Sound := by
  have hmillis (h : (value.int64?.bind Instant.ofMillis?).map timestamp = some literal) :
      ∃ t : Instant, literal = .timestamp t ∧ t.Sound := by
    obtain ⟨t, ht, rfl⟩ := Option.map_eq_some_iff.1 h
    obtain ⟨millis, -, ht⟩ := Option.bind_eq_some_iff.1 ht
    exact ⟨t, rfl, Instant.sound_of_ofMillis? ht⟩
  cases value with
  | text s =>
    obtain ⟨t, ht, rfl⟩ := Option.map_eq_some_iff.1 h
    exact ⟨t, rfl, Instant.sound_of_ofText? ht⟩
  | null | bool | int | float | list | object => exact hmillis h

/-- A filter value of a datetime column stands for one number of milliseconds since the epoch. It is
the number in a search query, and it is the instant of the text in a document query and of the one
quoted text in a statement of each dialect. -/
theorem instants_agree {column : Column} (hdatetime : column.type = .datetime)
    (h : coerce column value = .ok literal) :
    ∃ millis : Int, literal.toJson = .int millis
      ∧ (∀ d : Dialect, ∃ s, d.insides? (d.render [d.literal literal]) = some [s]
        ∧ (Instant.ofText? s).map Instant.toMillis = some millis)
      ∧ ∃ s, Document.Selector.literal literal = .single "$date" (.text s)
        ∧ (Instant.ofText? s).map Instant.toMillis = some millis := by
  obtain ⟨t, rfl, hsound⟩ := coerce?_datetime (hdatetime ▸ coerce_eq_ok h)
  have hmillis {s : String} (hs : Instant.ofText? s = some t.wholeMillis) :
      (Instant.ofText? s).map Instant.toMillis = some t.toMillis := by
    rw [hs, Option.map_some, t.toMillis_wholeMillis]
  refine ⟨t.toMillis, rfl, fun d => ⟨d.stampOf t, d.insides?_instant t, ?_⟩, t.iso, rfl, ?_⟩
  · exact hmillis (d.ofText?_stampOf hsound)
  · exact hmillis (Instant.ofText?_iso hsound)

/-- The last leap second of a leap day before the year zero, written with what is less than a
millisecond. The texts show its sixtieth second; its milliseconds are those of the second behind. -/
theorem instants_agree_leapSecond :
    let column : Column := ⟨"placed", "Placed", .datetime, "timestamp", "orders", false⟩
    let literal := Literal.timestamp ⟨-720930, 86399, 1999900000⟩
    coerce column (.text "-0004-02-29 23:59:60.9999") = .ok literal
    ∧ ∃ millis : Int, literal.toJson = .int millis ∧ millis = -62288265599001
      ∧ (∀ d : Dialect, ∃ s, d.insides? (d.render [d.literal literal]) = some [s]
        ∧ (Instant.ofText? s).map Instant.toMillis = some millis)
      ∧ ∃ s, Document.Selector.literal literal = .single "$date" (.text s)
        ∧ (Instant.ofText? s).map Instant.toMillis = some millis := by
  intro column literal
  have hvalue : coerce? .datetime (.text "-0004-02-29 23:59:60.9999") = some literal := by
    decide +kernel
  have hcoerce : coerce column (.text "-0004-02-29 23:59:60.9999") = .ok literal := by
    rw [coerce, hvalue]
  obtain ⟨millis, hjson, hagree⟩ := instants_agree rfl hcoerce
  have hmillis : literal.toJson = .int (-62288265599001) := by decide +kernel
  exact ⟨hcoerce, millis, hjson, Json.int.inj (hjson.symm.trans hmillis), hagree⟩

end Literal

end Pushdown
