import Timex.Proofs.DatePattern
import Timex.Proofs.Normalizer.Values

/-!
# Names told by tables and by patterns

A facet finds a name by the number of its field, and a pattern writes the name that belongs to the
date. The two tell the same of every value with a full date, because its weekday is that of the
date and the tables count as the calendar does.
-/

namespace Timex

-- ---------------------------------------------------------------------------
-- Patterns
-- ---------------------------------------------------------------------------

namespace LocaleLibrary

/-- In every locale four letters of the weekday and four of the month are written as the wide name
that belongs to the date. -/
structure WritesNames [LocaleLibrary] : Prop where
  weekday : ∀ {tag l}, named tag = .ok l → ∀ d,
    format l "EEEE".toList (Subject.ofDate d) = .ok (l.weekdayWide d)
  month : ∀ {tag l}, named tag = .ok l → ∀ d,
    format l "MMMM".toList (Subject.ofDate d) = .ok (l.monthWide d)

theorem builtIn_writesNames : @WritesNames builtIn where
  weekday _ _ := congrArg Except.ok (List.append_nil _)
  month _ _ := congrArg Except.ok (List.append_nil _)

end LocaleLibrary

theorem DatePattern.numerals?_day (d : Date) :
    numerals? (Subject.ofDate d) (pieces "dd".toList) = some (Text.zeroPadded 2 d.day) := by
  have hp : pieces "dd".toList = [.field 'd' 2] := by decide
  rw [hp]
  simp [numerals?, isWholeNumber, number?, Subject.ofDate]

-- ---------------------------------------------------------------------------
-- Tables
-- ---------------------------------------------------------------------------

namespace Presentation

theorem zeroPaddedDay_of_date (d : Date) :
    zeroPaddedDay (some ↑d.day) = .ok (Text.zeroPadded 2 d.day) := by
  have hd := d.day_bounds
  have hl := Gregorian.monthLength_bounds d.year d.month
  rw [zeroPaddedDay, if_pos (by omega), Int.toNat_natCast]

section
variable [LocaleLibrary] {s : Settings} {l : Locale} (hl : LocaleLibrary.named s.locale = .ok l)
include hl

/-- The days of the table count from 0 and those of the week from 1. -/
theorem weekdayName_of_date (d : Date) :
    weekdayName s.locale (some ↑d.isoWeekday) = .ok (l.weekdayWide d) := by
  have hb := Gregorian.isoWeekday_bounds d.year d.month d.day
  have hw : (1 : Int) ≤ d.isoWeekday ∧ (d.isoWeekday : Int) ≤ 7 := by
    rw [Date.isoWeekday]
    omega
  have hi : ((d.isoWeekday : Int) - 1).toNat = d.isoWeekday - 1 := by omega
  rw [weekdayName, dif_pos hw, hl]
  simp [fromLocale, Except.mapError, bind, Except.bind, pure, Except.pure, Locale.weekdayWide, hi]

theorem monthName_of_date (d : Date) :
    monthName s.locale (some ↑d.month) = .ok (l.monthWide d) := by
  have hb := d.month_bounds
  have hm : (1 : Int) ≤ d.month ∧ (d.month : Int) ≤ 12 := by omega
  have hi : ((d.month : Int) - 1).toNat = d.month - 1 := by omega
  rw [monthName, dif_pos hm, hl]
  simp [fromLocale, Except.mapError, bind, Except.bind, pure, Except.pure, Locale.monthWide, hi]

/-- A text that no locale has as the name of a style is a pattern itself. -/
theorem present_date_pattern {pattern : String}
    (hp : ∀ l : Locale, l.datePattern pattern.toList = pattern.toList) {v : Temporal} {d : Date}
    {t : Text} (hd : v.toDate = .ok d)
    (hf : LocaleLibrary.format l pattern.toList (Subject.ofDate d) = .ok t) :
    present { s with dateFormat := pattern.toList } .localizedDate v = .ok t := by
  rw [← hp l] at hf
  exact localizedDate_of_toDate (s := { s with dateFormat := pattern.toList }) hl hd hf

end
end Presentation

-- ---------------------------------------------------------------------------
-- Values
-- ---------------------------------------------------------------------------

/-- The values that reading a text gives, and those that tokens are understood as. -/
inductive Temporal.Understood : Temporal → Prop where
  | read (h : parse t g synthesize = .ok v) : Understood v
  | token (h : analyze filling today token = .ok a) : Understood a.value

theorem Temporal.Understood.wellFormed {v : Temporal} (h : v.Understood) : v.WellFormed := by
  cases h with
  | read h => exact wellFormed_of_parse h
  | token h => exact wellFormed_of_analyze h

/-- A pattern of the date and a facet give one text. -/
def ToldAlike [LocaleLibrary] (s : Settings) (v : Temporal) (pattern : String) (facet : Facet)
    (text : Text) : Prop :=
  present { s with dateFormat := pattern.toList } .localizedDate v = .ok text ∧
    present s facet v = .ok text

/-- Of every full date that is read or understood, the patterns of the weekday, the month and the
day tell what the facets tell: the names that the locale has for the date, and its day in two
digits. -/
theorem names_told_alike [LocaleLibrary] (hn : LocaleLibrary.WritesNames)
    (hw : LocaleLibrary.WritesNumbers) {s : Settings} {l : Locale}
    (hl : LocaleLibrary.named s.locale = .ok l) {v : Temporal} (hv : v.Understood)
    (hfull : v.hasFullDate = true) :
    ∃ date, v.toDate = .ok date ∧
      ToldAlike s v "EEEE" .weekdayName (l.weekdayWide date) ∧
      ToldAlike s v "MMMM" .monthName (l.monthWide date) ∧
      ToldAlike s v "dd" .zeroPaddedDay (Text.zeroPadded 2 date.day) := by
  obtain ⟨date, hdate⟩ := hv.wellFormed.exists_toDate_iff.mpr hfull
  obtain ⟨-, hmonth, hday⟩ := Temporal.toDate_eq_ok_iff.mp hdate
  have hweekday := hv.wellFormed.weekday_of_toDate hdate
  refine ⟨date, hdate, ⟨?_, ?_⟩, ⟨?_, ?_⟩, ?_, ?_⟩
  · exact Presentation.present_date_pattern hl (fun _ => rfl) hdate (hn.weekday hl date)
  · rw [present, hweekday, Presentation.weekdayName_of_date hl]
  · exact Presentation.present_date_pattern hl (fun _ => rfl) hdate (hn.month hl date)
  · rw [present, hmonth, Presentation.monthName_of_date hl]
  · exact Presentation.present_date_pattern hl (fun _ => rfl) hdate
      (hw hl (DatePattern.numerals?_day date))
  · rw [present, hday, Presentation.zeroPaddedDay_of_date]

/-- A Sunday in German. -/
theorem sunday_told_alike :
    let s := { Settings.default with locale := "de_DE".toList }
    ∃ a, analyze .strip exampleDay "2018-10-28".toList = .ok a ∧ a.value.hasFullDate = true ∧
      ToldAlike s a.value "EEEE" .weekdayName "Sonntag".toList ∧
      ToldAlike s a.value "MMMM" .monthName "Oktober".toList ∧
      ToldAlike s a.value "dd" .zeroPaddedDay "28".toList := by
  have hl : LocaleLibrary.named "de_DE".toList = .ok Locale.deDE := rfl
  have ha : analyze .strip exampleDay "2018-10-28".toList =
      .ok ⟨.dateOnly, ⟨some 2018, some 10, some 28, some 7, none, none, none, false⟩⟩ := rfl
  have hdate : Date.ofNumbers 2018 10 28 =
      .ok ⟨2018, 10, 28, by decide, by decide, by decide⟩ := rfl
  obtain ⟨date, hd, hweekday, hmonth, hday⟩ := names_told_alike LocaleLibrary.builtIn_writesNames
    LocaleLibrary.builtIn_writesNumbers (s := { Settings.default with locale := "de_DE".toList }) hl
    (.token ha) rfl
  obtain rfl := Except.ok.inj (hd.symm.trans hdate)
  exact ⟨_, ha, rfl, hweekday, hmonth, hday⟩

end Timex
