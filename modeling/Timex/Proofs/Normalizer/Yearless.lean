import Timex.Proofs.Normalizer.Outcome
import Timex.Proofs.Normalizer.UnknownYear

/-!
# Facets without a year

A date shows the name of its month, its day, its text without the year and its time, whatever
its year is. A token that does not know the year shows the same.
-/

namespace Timex

open Token (Spelling TimeSpelling MonthDay)

/-- Whether the facet shows neither the year nor the weekday, which the year decides. -/
def Facet.isYearless : Facet → Bool
  | .monthName | .zeroPaddedDay | .localizedDateWithoutYear | .localizedTime => true
  | .weekdayName | .localizedDate | .localizedDateTime => false

theorem Facet.filling_of_isYearless {facet : Facet} (h : facet.isYearless = true) :
    facet.filling = .strip := by
  cases facet <;> first | rfl | exact absurd h Bool.false_ne_true

-- ---------------------------------------------------------------------------
-- Values
-- ---------------------------------------------------------------------------

/-- The month and the day of a date, which every leap year has. -/
def Date.monthDay (d : Date) : MonthDay where
  month := d.month
  day := d.day
  month_bounds := d.month_bounds
  day_bounds := ⟨d.day_bounds.1,
    Nat.le_trans d.day_bounds.2 (Gregorian.monthLength_le_of_isLeap (by decide) _ _)⟩

/-- A date is its month and its day in its year. -/
theorem Token.Spelling.value_date (d : Date) (time : Option TimeSpelling) :
    (Spelling.date d time).value = (Spelling.monthDay d.monthDay time).value.withYear d.year := by
  rw [Spelling.value, Spelling.value, Temporal.withYear_withTimePart]
  rfl

section
variable [LocaleLibrary] {s : Settings} {l : Locale} {facet : Facet}

/-- What shows no year is the same in every year. -/
theorem present_withYear (h : facet.isYearless = true) (v : Temporal) (year : Nat) :
    present s facet (v.withYear year) = present s facet v := by
  cases facet with
  | monthName => rfl
  | zeroPaddedDay => rfl
  | localizedDateWithoutYear => rfl
  | localizedTime => rfl
  | weekdayName => exact absurd h Bool.false_ne_true
  | localizedDate => exact absurd h Bool.false_ne_true
  | localizedDateTime => exact absurd h Bool.false_ne_true

/-- What shows no year does not need the format of dates. -/
theorem present_yearless_decided {v : Temporal} (hs : s.RenderTimesIn l) (hv : v.WellFormed)
    (h : facet.isYearless = true) :
    Presentation.DecidedBy (facet.shows v) facet v (present s facet v) := by
  cases facet with
  | monthName => exact Presentation.monthName_decided hs.named hv
  | zeroPaddedDay => exact Presentation.zeroPaddedDay_decided hv
  | localizedDateWithoutYear => exact Presentation.localizedDateWithoutYear_decided hs.named hv
  | localizedTime => exact Presentation.localizedTime_decided hs hv
  | weekdayName => exact absurd h Bool.false_ne_true
  | localizedDate => exact absurd h Bool.false_ne_true
  | localizedDateTime => exact absurd h Bool.false_ne_true

theorem not_renderTimesIn_of_breach {v : Temporal} {b : Breach} (hv : v.WellFormed)
    (h : facet.isYearless = true) (hb : present s facet v = .error (.breach b)) :
    ¬ s.RenderTimesIn l := by
  intro hs
  have hd := present_yearless_decided hs hv h
  unfold Presentation.DecidedBy at hd
  split at hd
  · obtain ⟨t, ht⟩ := hd
    simp [hb] at ht
  · obtain ⟨gap, -, hg⟩ := hd
    simp [hb] at hg

end

-- ---------------------------------------------------------------------------
-- Outcomes
-- ---------------------------------------------------------------------------

/-- Both outcomes are one text. -/
def SameText (outcome outcome' : Except Failure Output) : Prop :=
  ∃ out out', outcome = .ok out ∧ outcome' = .ok out' ∧ out.text = out'.text

/-- Both outcomes are out of range, with the same field and value for the same facet. -/
def SameGap (outcome outcome' : Except Failure Output) : Prop :=
  ∃ e token token', outcome = .error (.fault ((Fault.ofOutOfRange e).attach token)) ∧
    outcome' = .error (.fault ((Fault.ofOutOfRange e).attach token')) ∧
    ((Fault.ofOutOfRange e).attach token).TellsOutOfRange e ∧
    ((Fault.ofOutOfRange e).attach token').TellsOutOfRange e

theorem normalize_text [LocaleLibrary] (s : Settings) (today : Date) {facet : Facet}
    (h : facet.isYearless = true) (spelling : Spelling) :
    normalize s today spelling.text facet =
      presentAs s facet spelling.text ⟨spelling.granularity, spelling.value⟩ := by
  refine normalize_of_analyze ?_
  rw [Facet.filling_of_isYearless h]
  exact analyze_strip_text spelling today

/-- A date in a year and in an unknown year show the same text without the year, or lack the
same field. Only under settings that name no locale, or whose format does not write every time,
may both break off instead, and then for the same reason. -/
theorem normalize_in_unknown_year [LocaleLibrary] (s : Settings) (today d : Date)
    (time : Option TimeSpelling) {facet : Facet} (h : facet.isYearless = true) :
    let inYear := normalize s today (Spelling.date d time).text facet
    let inUnknown := normalize s today (Spelling.monthDay d.monthDay time).text facet
    SameText inYear inUnknown ∨ SameGap inYear inUnknown ∨
      (∀ l, ¬ s.RenderTimesIn l) ∧
        ∃ b, inYear = .error (.breach b) ∧ inUnknown = .error (.breach b) := by
  simp only [normalize_text s today h, presentAs, Spelling.value_date, present_withYear h]
  cases hp : present s facet (Spelling.monthDay d.monthDay time).value with
  | ok text => exact .inl ⟨_, _, rfl, rfl, rfl⟩
  | error e =>
    cases e with
    | outOfRange e =>
      exact .inr (.inl ⟨e, _, _, rfl, rfl, Fault.tellsOutOfRange_attach e _,
        Fault.tellsOutOfRange_attach e _⟩)
    | breach b =>
      have hv := (Spelling.monthDay d.monthDay time).wellFormed_value
      exact .inr (.inr ⟨fun l => not_renderTimesIn_of_breach hv h hp, b, rfl, rfl⟩)

theorem march_in_unknown_year :
    Facet.monthName.isYearless = true ∧
      SameText (normalize Settings.default exampleDay "2023-03-15".toList .monthName)
        (normalize Settings.default exampleDay "XXXX-03-15".toList .monthName) := by
  have hn : normalize Settings.default exampleDay "2023-03-15".toList .monthName =
      .ok ⟨"March".toList, .dateOnly, "2023-03-15".toList, .monthName⟩ := rfl
  have hf : Facet.monthName.isYearless = true := rfl
  refine ⟨hf, ?_⟩
  rcases normalize_in_unknown_year Settings.default exampleDay
      ⟨2023, 3, 15, by decide, by decide, by decide⟩ none hf
    with h | ⟨e, token, token', he, -⟩ | ⟨hs, -⟩
  · exact h
  · exact absurd (hn.symm.trans he) (by simp)
  · exact absurd Settings.default_renderIn.times (hs _)

/-- Under settings that name no locale the month has no name in any year. -/
theorem not_forall_in_unknown_year :
    ¬ ∀ (s : Settings) (today d : Date) (time : Option TimeSpelling) (facet : Facet),
      facet.isYearless = true →
        SameText (normalize s today (Spelling.date d time).text facet)
            (normalize s today (Spelling.monthDay d.monthDay time).text facet) ∨
          SameGap (normalize s today (Spelling.date d time).text facet)
            (normalize s today (Spelling.monthDay d.monthDay time).text facet) := by
  intro h
  have hn : ∃ b, normalize { Settings.default with locale := "xx_YY".toList } exampleDay
      (Spelling.date exampleDay none).text .monthName = .error (.breach b) := ⟨_, rfl⟩
  obtain ⟨b, hn⟩ := hn
  rcases h _ exampleDay exampleDay none .monthName rfl
    with ⟨out, out', ho, -⟩ | ⟨e, token, token', he, -⟩
  · exact absurd (hn.symm.trans ho) (by simp)
  · exact absurd (hn.symm.trans he) (by simp)

end Timex
