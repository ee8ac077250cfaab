import Timex.Proofs.Normalizer.Combination
import Timex.Proofs.Normalizer.DateShown
import Timex.Proofs.Presentation.Range

/-!
# Tokens that are filled in

What is filled in needs no markers but that of a week: its text is understood by itself. It is
never a part of a date without the year, so that a date and a time are never out of range.
-/

namespace Timex

open Token (Spelling)

-- ---------------------------------------------------------------------------
-- Markers that are left
-- ---------------------------------------------------------------------------

/-- Of the markers that of a week alone. -/
def Markers.weekOnly (m : Markers) : Markers :=
  { Markers.none with weekReference := m.weekReference }

theorem Markers.weekOnly_of_no_week {m : Markers} (h : m.weekReference = false) :
    m.weekOnly = Markers.none := by
  rw [weekOnly, h]
  rfl

namespace Token.Spelling

variable {s : Spelling} {m : Markers}

/-- The markers of a year and a month decide only between spellings that have no year. -/
theorem fits_weekOnly (hf : s.fits m = true)
    (hy : m.unspecifiedYear = true → s.value.year.isSome = true) : s.fits m.weekOnly = true := by
  -- A spelling without a year was not declared to have an unknown one: that would be filled in.
  have hno (h : s.value.year = none) : m.unspecifiedYear = false := by simpa [h] using hy
  cases s with
  | date d time => rfl
  | yearMonth ym marked => rfl
  | monthDay md time =>
    cases time with
    | none => exact absurd hf (by simp [fits, hno rfl])
    | some τ => rfl
  | month n marked => exact absurd hf (by simp [fits, hno rfl])
  | dayOfMonth padded d => exact absurd hf (by simp [fits, hno rfl])
  | weekday e time =>
    cases time with
    | none => simp_all [fits, Markers.weekOnly, Markers.none]
    | some τ => exact hf
  | timeAlone τ => exact hf
  | bareTime τ => exact hf

theorem granularity_of_fits_weekOnly (hf : s.fits m.weekOnly = true) :
    s.granularity ≠ .monthDay ∧ s.granularity ≠ .monthOnly ∧ s.granularity ≠ .dayOfMonth := by
  cases s with
  | date d time => cases time <;> simp [granularity]
  | monthDay md time =>
    cases time with
    | none => exact absurd hf Bool.false_ne_true
    | some τ => simp [granularity]
  | month n marked => exact absurd hf Bool.false_ne_true
  | dayOfMonth padded d => exact absurd hf Bool.false_ne_true
  | _ => simp [granularity]

theorem shows_dateTime_of_fits_weekOnly (hf : s.fits m.weekOnly = true) :
    Facet.localizedDateTime.shows s.value = true := by
  cases s with
  | date d time => simp [Facet.shows, value, ofDate]
  | yearMonth ym marked => rfl
  | monthDay md time =>
    cases time with
    | none => exact absurd hf Bool.false_ne_true
    | some τ => simp [Facet.shows, value]
  | month n marked => exact absurd hf Bool.false_ne_true
  | dayOfMonth padded d => exact absurd hf Bool.false_ne_true
  | weekday e time => rcases time with _ | _ | _ | _ <;> rfl
  | timeAlone τ => cases τ <;> rfl
  | bareTime τ => cases τ <;> rfl

end Token.Spelling

section
variable {today : Date} {token : Text} {a : Analysis}

/-- What is filled in is spelled without the markers of its year and its month. -/
theorem exists_spelling_of_filled (h : analyze .substitute today token = .ok a) :
    ∃ s : Spelling, s.unmarked = (resolve .substitute today token).text ∧
      s.fits (resolve .substitute today token).markers.weekOnly = true ∧
      s.granularity = a.granularity ∧ s.value = a.value := by
  obtain ⟨s, ht, hf, hg, hv⟩ := exists_spelling_of_analyze h
  refine ⟨s, ht, Spelling.fits_weekOnly hf fun hm => ?_, hg, hv⟩
  rw [hv, year_of_unspecifiedYear h hm]
  rfl

theorem granularity_of_filled (h : analyze .substitute today token = .ok a) :
    a.granularity ≠ .monthDay ∧ a.granularity ≠ .monthOnly ∧ a.granularity ≠ .dayOfMonth := by
  obtain ⟨s, -, hf, hg, -⟩ := exists_spelling_of_filled h
  exact hg ▸ Spelling.granularity_of_fits_weekOnly hf

theorem shows_dateTime_of_filled (h : analyze .substitute today token = .ok a) :
    Facet.localizedDateTime.shows a.value = true := by
  obtain ⟨s, -, hf, -, hv⟩ := exists_spelling_of_filled h
  exact hv ▸ Spelling.shows_dateTime_of_fits_weekOnly hf

/-- The text of a token that is filled in and refers to no week stands on its own: under both
fillings and on any day it is understood as the token was. -/
theorem analyze_text_of_filled (h : analyze .substitute today token = .ok a)
    (hw : (resolve .substitute today token).markers.weekReference = false) (filling : Filling)
    (other : Date) : analyze filling other (resolve .substitute today token).text = .ok a := by
  obtain ⟨s, ht, hf, hg, hv⟩ := exists_spelling_of_filled h
  rw [Markers.weekOnly_of_no_week hw] at hf
  rw [← ht, analyze_unmarked hf, hg, hv]

end

theorem march_evening_stands_alone :
    analyze .substitute exampleDay "XXXX-03-15T17:30".toList =
        .ok ⟨.fullDateTime, ⟨some 2024, some 3, some 15, some 5, some 17, some 30, none, true⟩⟩ ∧
      analyze .strip ⟨1999, 12, 31, by decide, by decide, by decide⟩ "2024-03-15T17:30".toList =
        .ok ⟨.fullDateTime,
          ⟨some 2024, some 3, some 15, some 5, some 17, some 30, none, true⟩⟩ := by
  have ha : analyze .substitute exampleDay "XXXX-03-15T17:30".toList =
      .ok ⟨.fullDateTime, ⟨some 2024, some 3, some 15, some 5, some 17, some 30, none, true⟩⟩ := rfl
  exact ⟨ha, analyze_text_of_filled ha rfl .strip _⟩

-- ---------------------------------------------------------------------------
-- Outcomes out of range
-- ---------------------------------------------------------------------------

/-- The outcome is a fault of a value that lacks what its facet shows. -/
def EndsOutOfRange (outcome : Except Failure Output) : Prop :=
  ∃ f, outcome = .error (.fault f) ∧ f.kind = .outOfRange

theorem not_endsOutOfRange_of_analyze {filling : Filling} {today : Date} {token : Text} {f : Fault}
    (h : analyze filling today token = .error f) : ¬ EndsOutOfRange (.error (.fault f)) := by
  rintro ⟨f', he, hk⟩
  obtain rfl := Failure.fault.inj (Except.error.inj he)
  rcases kind_of_analyze h with hk' | hk' <;> simp [hk'] at hk

/-- A time takes nothing from what a facet shows. -/
theorem Facet.shows_withTime {facet : Facet} {v : Temporal} (h : facet.shows v = true)
    (w : Temporal) : facet.shows (v.withTime w) = true := by
  cases hw : w.hadExplicitTime with
  | false => rwa [Temporal.withTime_of_timeless hw]
  | true => cases facet <;> simp_all [shows, Temporal.withTime]

section
variable [LocaleLibrary] {s : Settings} {today : Date} {facet : Facet}

theorem presentAs_outOfRange_iff {a : Analysis} (hv : a.value.WellFormed) {token : Text} :
    EndsOutOfRange (presentAs s facet token a) ↔ facet.shows a.value = false := by
  rw [← present_outOfRange_iff s hv facet]
  unfold EndsOutOfRange presentAs
  cases present s facet a.value with
  | ok text => simp
  | error e =>
    cases e with
    | outOfRange e => exact iff_of_true ⟨_, rfl, rfl⟩ ⟨e, rfl⟩
    | breach b => simp

theorem normalize_outOfRange_iff {token : Text} :
    EndsOutOfRange (normalize s today token facet) ↔
      ∃ a, analyze facet.filling today token = .ok a ∧ facet.shows a.value = false := by
  cases ha : analyze facet.filling today token with
  | error f =>
    rw [normalize, ha]
    exact iff_of_false (not_endsOutOfRange_of_analyze ha) (by simp)
  | ok a =>
    rw [normalize_of_analyze ha, presentAs_outOfRange_iff (wellFormed_of_analyze ha)]
    simp

theorem combine_outOfRange_iff {dateToken timeToken : Text} :
    EndsOutOfRange (combine s today dateToken timeToken facet) ↔
      ∃ date time, analyze facet.filling today dateToken = .ok date ∧
        analyze .strip today timeToken = .ok time ∧
        facet.shows (date.value.withTime time.value) = false := by
  cases hd : analyze facet.filling today dateToken with
  | error f =>
    rw [combine, hd]
    exact iff_of_false (not_endsOutOfRange_of_analyze hd) (by simp)
  | ok date =>
    cases ht : analyze .strip today timeToken with
    | error f =>
      rw [combine, hd, ht]
      exact iff_of_false (not_endsOutOfRange_of_analyze ht) (by simp)
    | ok time =>
      have hv := (wellFormed_of_analyze hd).withTime (wellFormed_of_analyze ht)
      rw [combine_of_analyze hd ht, presentAs_outOfRange_iff hv]
      simp

end

/-- What is filled in is no part of a date without the year. A date and a time, in one token or
in two, are then never out of range. A date alone is, exactly if the value has no year. -/
theorem filled_in_range [LocaleLibrary] (s : Settings) (today : Date) (token : Text) :
    (∀ a, analyze .substitute today token = .ok a →
      a.granularity ≠ .monthDay ∧ a.granularity ≠ .monthOnly ∧ a.granularity ≠ .dayOfMonth) ∧
    ¬ EndsOutOfRange (normalize s today token .localizedDateTime) ∧
    (∀ timeToken, ¬ EndsOutOfRange (combine s today token timeToken .localizedDateTime)) ∧
    (EndsOutOfRange (normalize s today token .localizedDate) ↔
      ∃ a, analyze .substitute today token = .ok a ∧ a.value.year = none) := by
  refine ⟨fun a => granularity_of_filled, ?_, ?_, ?_⟩
  · rw [normalize_outOfRange_iff]
    rintro ⟨a, ha, hs⟩
    exact absurd (shows_dateTime_of_filled ha) (Bool.eq_false_iff.mp hs)
  · intro timeToken
    rw [combine_outOfRange_iff]
    rintro ⟨date, time, ha, -, hs⟩
    have hd := Facet.shows_withTime (shows_dateTime_of_filled ha) time.value
    exact absurd hd (Bool.eq_false_iff.mp hs)
  · rw [normalize_outOfRange_iff]
    refine exists_congr fun a => and_congr_right fun ha => ?_
    have hm := (wellFormed_of_analyze ha).month_of_year
    cases hy : a.value.year <;> simp_all [Facet.shows]

theorem march_and_afternoon_in_range :
    analyze .substitute exampleDay "XXXX-03".toList =
        .ok ⟨.yearMonth, ⟨some 2024, some 3, none, none, none, none, none, false⟩⟩ ∧
      Granularity.yearMonth ≠ .monthOnly ∧
      ¬ EndsOutOfRange
        (normalize Settings.default exampleDay "XXXX-03".toList .localizedDateTime) ∧
      ¬ EndsOutOfRange
        (combine Settings.default exampleDay "XXXX-03".toList "T14".toList .localizedDateTime) ∧
      EndsOutOfRange (normalize Settings.default exampleDay "T14".toList .localizedDate) := by
  have ha : analyze .substitute exampleDay "XXXX-03".toList =
      .ok ⟨.yearMonth, ⟨some 2024, some 3, none, none, none, none, none, false⟩⟩ := rfl
  have ht : analyze .substitute exampleDay "T14".toList =
      .ok ⟨.timeOnly, ⟨none, none, none, none, some 14, some 0, none, true⟩⟩ := rfl
  obtain ⟨hg, hn, hc, -⟩ := filled_in_range Settings.default exampleDay "XXXX-03".toList
  obtain ⟨-, -, -, hd⟩ := filled_in_range Settings.default exampleDay "T14".toList
  exact ⟨ha, (hg _ ha).2.1, hn, hc "T14".toList, hd.mpr ⟨_, ht, rfl⟩⟩

end Timex
