import Timex.Proofs.Calendar
import Timex.Proofs.Normalizer.Outcome

/-!
# Values are well formed

Every value that comes about is well formed: what is read of a text, what is understood of
a token, and a date with the time of another value. A well-formed value has a calendar date
exactly if its date is full, and a time of day exactly if its time is explicit. Its weekday
is that of the calendar, which counts the days on from a Monday.
-/

namespace Timex

theorem wellFormed_of_parse {t : Text} {g : Granularity} {synthesize : Bool} {v : Temporal}
    (h : parse t g synthesize = .ok v) : v.WellFormed :=
  Temporal.wellFormed_of_read (parse_eq_ok_iff.mp h)

/-- Reading and merging give well-formed values alone, and these have the dates and the times
of day that their fields promise. The first date of the calendar is a Monday and the weekday
moves on by one from each date to the next, so the weekday of a date is fixed by the count of
days. -/
theorem values_wellFormed :
    (∀ t g synthesize v, parse t g synthesize = .ok v → v.WellFormed) ∧
    (∀ filling today token a, analyze filling today token = .ok a → a.value.WellFormed) ∧
    (∀ v w : Temporal, v.WellFormed → w.WellFormed → (v.withTime w).WellFormed) ∧
    (∀ v : Temporal, v.WellFormed →
      ((∃ date, v.toDate = .ok date) ↔ v.hasFullDate = true) ∧
        ((∃ time, v.toTime = .ok time) ↔ v.hadExplicitTime = true)) ∧
    Gregorian.isoWeekday 1 1 1 = 1 ∧
    ∀ d : Date, d.next ≠ d → d.next.isoWeekday = d.isoWeekday % 7 + 1 := by
  refine ⟨?_, ?_, ?_, ?_, rfl, fun d => Date.isoWeekday_next⟩
  · intro t g synthesize v h
    exact wellFormed_of_parse h
  · intro filling today token a h
    exact wellFormed_of_analyze h
  · intro v w hv hw
    exact hv.withTime hw
  · intro v hv
    exact ⟨hv.exists_toDate_iff, hv.exists_toTime_iff⟩

/-- The 29th of February without a year, joined with a time that has no minute, and with a
year. Behind a Monday comes a Tuesday. -/
theorem leap_day_at_five_wellFormed :
    ∃ v w a, parse "02-29".toList .monthDay true = .ok v ∧
      parse "T17".toList .timeOnly false = .ok w ∧ v.WellFormed ∧ w.WellFormed ∧
      (v.withTime w).WellFormed ∧ (∃ time, (v.withTime w).toTime = .ok time) ∧
      analyze .strip exampleDay "2024-02-29".toList = .ok a ∧ a.value.WellFormed ∧
      exampleDay.next.isoWeekday = 2 := by
  have hv : parse "02-29".toList .monthDay true =
      .ok ⟨none, some 2, some 29, none, none, none, none, false⟩ := rfl
  have hw : parse "T17".toList .timeOnly false =
      .ok ⟨none, none, none, none, some 17, none, none, true⟩ := rfl
  have ha : analyze .strip exampleDay "2024-02-29".toList =
      .ok ⟨.dateOnly, ⟨some 2024, some 2, some 29, some 4, none, none, none, false⟩⟩ := rfl
  have hnext : exampleDay.next ≠ exampleDay := by decide
  obtain ⟨hread, hunderstood, hjoin, hparts, -, hdays⟩ := values_wellFormed
  have hv' := hread _ _ _ _ hv
  have hw' := hread _ _ _ _ hw
  have hvw := hjoin _ _ hv' hw'
  exact ⟨_, _, _, hv, hw, hv', hw', hvw, (hparts _ hvw).2.mpr rfl, ha, hunderstood _ _ _ _ ha,
    hdays _ hnext⟩

end Timex
