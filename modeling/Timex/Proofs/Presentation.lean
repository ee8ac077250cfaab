import Timex.Presentation
import Timex.Proofs.Temporal.WellFormed

/-!
# What a facet shows

Under settings that render, a facet of a well-formed value is a text if the value has the
fields that the facet shows. Else it is out of range, for a field that the value lacks.
-/

namespace Timex

/-- Whether a value has the fields that the facet shows. -/
def Facet.shows (v : Temporal) : Facet → Bool
  | .weekdayName => v.weekday.isSome
  | .monthName => v.month.isSome
  | .zeroPaddedDay => v.day.isSome
  | .localizedDate => v.year.isSome && v.month.isSome
  | .localizedDateTime =>
    v.year.isSome && v.month.isSome || v.weekday.isSome || v.hadExplicitTime
  | .localizedDateWithoutYear => v.month.isSome && v.day.isSome
  | .localizedTime => v.hadExplicitTime

def Temporal.get? (v : Temporal) : Field → Option Int
  | .year => v.year
  | .month => v.month
  | .day => v.day
  | .weekday => v.weekday
  | .hour => v.hour
  | .minute => v.minute
  | .second => v.second

/-- The value lacks the field, or every part of a date. -/
def Gap.AbsentIn (v : Temporal) : Gap → Prop
  | .field f => v.get? f = none
  | .wholeDate => v.year = none ∧ v.month = none ∧ v.day = none

/-- The settings name a locale, and in it their formats write every date and every time. -/
structure Settings.RenderIn [LocaleLibrary] (s : Settings) (l : Locale) : Prop where
  named : LocaleLibrary.named s.locale = .ok l
  date : ∀ d, ∃ t, LocaleLibrary.format l (l.datePattern s.dateFormat) (Subject.ofDate d) = .ok t
  time : ∀ τ, ∃ t, LocaleLibrary.format l (l.timePattern s.timeFormat) (Subject.ofTime τ) = .ok t

/-- The settings name a locale, and in it their format writes every time. -/
structure Settings.RenderTimesIn [LocaleLibrary] (s : Settings) (l : Locale) : Prop where
  named : LocaleLibrary.named s.locale = .ok l
  time : ∀ τ, ∃ t, LocaleLibrary.format l (l.timePattern s.timeFormat) (Subject.ofTime τ) = .ok t

theorem Settings.RenderIn.times [LocaleLibrary] {s : Settings} {l : Locale} (h : s.RenderIn l) :
    s.RenderTimesIn l :=
  ⟨h.named, h.time⟩

theorem Settings.default_renderIn : Settings.default.RenderIn Locale.enUS where
  named := rfl
  date _ := LocaleLibrary.exists_format_eq_ok (by decide) _ rfl
  time _ := ⟨_, rfl⟩

namespace Presentation

/-- A text if the value has the fields, else out of range for a field that it lacks. -/
def DecidedBy (hasFields : Bool) (facet : Facet) (v : Temporal) (p : Presented) : Prop :=
  if hasFields then ∃ t, p = .ok t
  else ∃ gap, gap.AbsentIn v ∧ p = .error (.outOfRange ⟨gap, none, facet⟩)

theorem zeroPaddedDay_decided {v : Temporal} (hv : v.WellFormed) :
    DecidedBy v.day.isSome .zeroPaddedDay v (zeroPaddedDay v.day) := by
  cases hd : v.day with
  | none => exact ⟨.field .day, hd, rfl⟩
  | some d =>
    have hb := hv.day_bounds d hd
    simp [DecidedBy, zeroPaddedDay, hb]

theorem missingDateField_absent {v : Temporal} (h : v.year = none ∨ v.month = none) :
    (missingDateField v).AbsentIn v := by
  unfold missingDateField
  cases hy : v.year with
  | some y =>
    have hm : v.month = none := h.resolve_left (by simp [hy])
    rw [hm]
    exact hm
  | none =>
    cases hm : v.month with
    | some m => exact hy
    | none =>
      cases hd : v.day with
      | some d => exact hy
      | none => exact ⟨hy, hm, hd⟩

section
variable [LocaleLibrary] {s : Settings} {l : Locale} {v : Temporal}

-- ---------------------------------------------------------------------------
-- Names and numbers
-- ---------------------------------------------------------------------------

theorem exists_weekdayName (hl : LocaleLibrary.named s.locale = .ok l) {w : Int}
    (hb : 1 ≤ w ∧ w ≤ 7) : ∃ t, weekdayName s.locale (some w) = .ok t := by
  rw [weekdayName, dif_pos hb, hl]
  exact ⟨_, rfl⟩

theorem exists_monthName (hl : LocaleLibrary.named s.locale = .ok l) {m : Int}
    (hb : 1 ≤ m ∧ m ≤ 12) : ∃ t, monthName s.locale (some m) = .ok t := by
  rw [monthName, dif_pos hb, hl]
  exact ⟨_, rfl⟩

theorem weekdayName_decided (hl : LocaleLibrary.named s.locale = .ok l) (hv : v.WellFormed) :
    DecidedBy v.weekday.isSome .weekdayName v (weekdayName s.locale v.weekday) := by
  cases hw : v.weekday with
  | none => exact ⟨.field .weekday, hw, rfl⟩
  | some w => exact exists_weekdayName hl (hv.weekday_bounds w hw)

theorem monthName_decided (hl : LocaleLibrary.named s.locale = .ok l) (hv : v.WellFormed) :
    DecidedBy v.month.isSome .monthName v (monthName s.locale v.month) := by
  cases hm : v.month with
  | none => exact ⟨.field .month, hm, rfl⟩
  | some m => exact exists_monthName hl (hv.month_bounds m hm)

-- ---------------------------------------------------------------------------
-- Localized texts
-- ---------------------------------------------------------------------------

theorem forText_of_named {tag : Text} (h : LocaleLibrary.named tag = .ok l) :
    LocaleLibrary.forText tag = .ok l := by
  have hne : tag ≠ [] := by
    rintro rfl
    rw [LocaleLibrary.named_nil] at h
    simp at h
  simp [LocaleLibrary.forText, hne, h]

/-- A date is shown as the format writes it. -/
theorem dateText?_of_toDate (hl : LocaleLibrary.named s.locale = .ok l) {d : Date} {t : Text}
    (hd : v.toDate = .ok d)
    (hf : LocaleLibrary.format l (l.datePattern s.dateFormat) (Subject.ofDate d) = .ok t) :
    dateText? s v = some (.ok t) := by
  obtain ⟨hy, hm, hday⟩ := Temporal.toDate_eq_ok_iff.mp hd
  simp [dateText?, hy, hm, hday, hd, fromCalendar, fromLocale, format, forText_of_named hl, hf,
    Except.mapError, bind, Except.bind]

theorem skeleton_of_date (hl : LocaleLibrary.named s.locale = .ok l) {pattern : Locale → String}
    {y m d : Int} {date : Date} {t : Text} (hd : Date.ofNumbers y m d = .ok date)
    (hf : LocaleLibrary.format l (pattern l).toList (Subject.atMidnight date) = .ok t) :
    skeleton s pattern y m d = .ok t := by
  simp [skeleton, hd, fromCalendar, fromLocale, format, forText_of_named hl, hf, Except.mapError,
    bind, Except.bind]

/-- A time of day is shown as the format writes it. -/
theorem timeText?_of_toTime (hl : LocaleLibrary.named s.locale = .ok l) {time : TimeOfDay}
    {t : Text} (ht : v.toTime = .ok time)
    (hf : LocaleLibrary.format l (l.timePattern s.timeFormat) (Subject.ofTime time) = .ok t) :
    timeText? s v = some (.ok t) := by
  unfold timeText?
  split
  · simp [ht, fromCalendar, fromLocale, format, forText_of_named hl, hf, Except.mapError, bind,
      Except.bind]
  · simp_all [Temporal.toTime]

theorem localizedDate_of_toDate (hl : LocaleLibrary.named s.locale = .ok l) {d : Date} {t : Text}
    (hd : v.toDate = .ok d)
    (hf : LocaleLibrary.format l (l.datePattern s.dateFormat) (Subject.ofDate d) = .ok t) :
    localizedDate s v = .ok t := by
  rw [localizedDate, dateText?_of_toDate hl hd hf]

/-- A year and a month that make a date, with the day or with the first, have a text. -/
theorem exists_dateText? (hs : s.RenderIn l) {y m : Int} (hy : v.year = some y)
    (hm : v.month = some m) {date : Date} (h : Date.ofNumbers y m (v.day.getD 1) = .ok date) :
    ∃ t, dateText? s v = some (.ok t) := by
  cases hd : v.day with
  | none =>
    rw [hd] at h
    obtain ⟨t, ht⟩ := LocaleLibrary.format_yearMonth hs.named date
    have hmonth : skeleton s Locale.yearMonth y m 1 = .ok t := skeleton_of_date hs.named h ht
    exact ⟨t, by simp [dateText?, hy, hm, hd, hmonth]⟩
  | some d =>
    have hdate : v.toDate = .ok date := by simpa [Temporal.toDate, hy, hm, hd] using h
    obtain ⟨t, ht⟩ := hs.date date
    exact ⟨t, dateText?_of_toDate hs.named hdate ht⟩

/-- A value with a year and a month has a date text, and one without a year has none. -/
theorem dateText?_cases (hs : s.RenderIn l) (hv : v.WellFormed) :
    (v.year.isSome = true ∧ v.month.isSome = true ∧ ∃ t, dateText? s v = some (.ok t)) ∨
      v.year = none ∧ dateText? s v = none := by
  cases hy : v.year with
  | none =>
    refine .inr ⟨rfl, ?_⟩
    simp [dateText?, hy]
  | some y =>
    obtain ⟨m, hm⟩ := Option.isSome_iff_exists.mp (hv.month_of_year (by simp [hy]))
    have hdate : ∃ date, Date.ofNumbers y m (v.day.getD 1) = .ok date := by
      cases hd : v.day with
      | none => exact hv.exists_firstOfMonth hy hm
      | some d => simpa [Temporal.toDate, hy, hm, hd] using hv.exists_toDate hy hm hd
    obtain ⟨date, h⟩ := hdate
    exact .inl ⟨rfl, by simp [hm], exists_dateText? hs hy hm h⟩

theorem timeText?_cases (hs : s.RenderTimesIn l) (hv : v.WellFormed) :
    (v.hadExplicitTime = true ∧ ∃ t, timeText? s v = some (.ok t)) ∨
      v.hadExplicitTime = false ∧ timeText? s v = none := by
  cases ht : v.hadExplicitTime with
  | false =>
    refine .inr ⟨rfl, ?_⟩
    simp [timeText?, ht]
  | true =>
    obtain ⟨h, time, -, htime⟩ := hv.exists_toTime ht
    obtain ⟨t, hf⟩ := hs.time time
    exact .inl ⟨rfl, t, timeText?_of_toTime hs.named htime hf⟩

theorem localizedDate_decided (hs : s.RenderIn l) (hv : v.WellFormed) :
    DecidedBy (v.year.isSome && v.month.isSome) .localizedDate v (localizedDate s v) := by
  rcases dateText?_cases hs hv with ⟨hy, hm, t, ht⟩ | ⟨hy, ht⟩
  · simp [DecidedBy, localizedDate, hy, hm, ht]
  · simp only [hy, localizedDate, ht]
    exact ⟨_, missingDateField_absent (.inl hy), rfl⟩

theorem localizedDateWithoutYear_decided (hl : LocaleLibrary.named s.locale = .ok l)
    (hv : v.WellFormed) :
    DecidedBy (v.month.isSome && v.day.isSome) .localizedDateWithoutYear v
      (localizedDateWithoutYear s v) := by
  cases hm : v.month with
  | none => exact ⟨.field .month, hm, by simp [localizedDateWithoutYear, hm]⟩
  | some m =>
    cases hd : v.day with
    | none => exact ⟨.field .day, hd, by simp [localizedDateWithoutYear, hm, hd]⟩
    | some d =>
      obtain ⟨date, h⟩ := hv.exists_dateInLeapYear hm hd
      obtain ⟨t, ht⟩ := LocaleLibrary.format_monthDay hl date
      have hday : skeleton s Locale.monthDay leapYear m d = .ok t := skeleton_of_date hl h ht
      exact ⟨t, by simp [localizedDateWithoutYear, hm, hd, hday]⟩

theorem localizedTime_decided (hs : s.RenderTimesIn l) (hv : v.WellFormed) :
    DecidedBy v.hadExplicitTime .localizedTime v (localizedTime s v) := by
  rcases timeText?_cases hs hv with ⟨hh, t, ht⟩ | ⟨hh, ht⟩
  · simp [DecidedBy, localizedTime, hh, ht]
  · have hn := hv.hour_eq_none hh
    simp only [hh, localizedTime, ht, hn]
    exact ⟨.field .hour, hn, rfl⟩

/-- The text of the date, or else that of the weekday; `none` for a value with neither. -/
def dateOrWeekday? (s : Settings) (v : Temporal) : Option Presented :=
  match dateText? s v with
  | some date => some date
  | none => if v.weekday.isSome then some (weekdayName s.locale v.weekday) else none

theorem dateOrWeekday?_of_no_year (hy : v.year = none) :
    dateOrWeekday? s v =
      if v.weekday.isSome then some (weekdayName s.locale v.weekday) else none := by
  simp [dateOrWeekday?, dateText?, hy]

/-- A year comes with its month, and both have a date text. -/
theorem dateOrWeekday?_of_year (hv : v.WellFormed) (hy : v.year.isSome) :
    dateOrWeekday? s v = some (localizedDate s v) := by
  obtain ⟨y, hy'⟩ := Option.isSome_iff_exists.mp hy
  obtain ⟨m, hm⟩ := Option.isSome_iff_exists.mp (hv.month_of_year hy)
  unfold dateOrWeekday? localizedDate dateText?
  cases hd : v.day <;> simp only [hy', hm]

theorem dateOrWeekday?_cases (hs : s.RenderIn l) (hv : v.WellFormed) :
    ((v.year.isSome && v.month.isSome || v.weekday.isSome) = true ∧
        ∃ t, dateOrWeekday? s v = some (.ok t)) ∨
      v.year = none ∧ v.weekday = none ∧ dateOrWeekday? s v = none := by
  by_cases hy : v.year.isSome
  · have hm := hv.month_of_year hy
    have hd := localizedDate_decided hs hv
    rw [hy, hm] at hd
    obtain ⟨t, ht⟩ := hd
    exact .inl ⟨by simp [hy, hm], t, by rw [dateOrWeekday?_of_year hv hy, ht]⟩
  · -- Without a year the weekday stands for the date.
    rw [Option.not_isSome_iff_eq_none] at hy
    have hw := weekdayName_decided hs.named hv
    cases hwd : v.weekday with
    | some w =>
      rw [hwd] at hw
      obtain ⟨t, ht⟩ := hw
      exact .inl ⟨by simp, t, by simp [dateOrWeekday?_of_no_year hy, hwd, ht]⟩
    | none => exact .inr ⟨hy, rfl, by simp [dateOrWeekday?_of_no_year hy, hwd]⟩

/-- One part is shown alone, two are joined, and no part is out of range. -/
theorem localizedDateTime_eq (s : Settings) (v : Temporal) :
    localizedDateTime s v =
      match dateOrWeekday? s v, timeText? s v with
      | none, none => .error (.outOfRange ⟨missingDateField v, none, .localizedDateTime⟩)
      | some date, none => date
      | none, some time => time
      | some date, some time => do
        let date ← date
        let time ← time
        let l ← fromLocale (LocaleLibrary.forText s.locale)
        return joinTexts l.joining.toList date time := by
  unfold localizedDateTime dateOrWeekday?
  cases dateText? s v with
  | some date => cases date <;> rcases timeText? s v with _ | _ | _ <;> rfl
  | none =>
    cases v.weekday with
    | none => rcases timeText? s v with _ | _ | _ <;> rfl
    | some w =>
      cases weekdayName s.locale (some w) <;> rcases timeText? s v with _ | _ | _ <;> rfl

theorem localizedDateTime_decided (hs : s.RenderIn l) (hv : v.WellFormed) :
    DecidedBy (v.year.isSome && v.month.isSome || v.weekday.isSome || v.hadExplicitTime)
      .localizedDateTime v (localizedDateTime s v) := by
  rw [localizedDateTime_eq]
  rcases dateOrWeekday?_cases hs hv with ⟨hf, d, hd⟩ | ⟨hy, hw, hd⟩
  · rcases timeText?_cases hs.times hv with ⟨hh, t, ht⟩ | ⟨hh, ht⟩
    · simp [DecidedBy, hf, hd, ht, forText_of_named hs.named, fromLocale, Except.mapError, bind,
        Except.bind, pure, Except.pure]
    · simp [DecidedBy, hf, hd, ht]
  · rcases timeText?_cases hs.times hv with ⟨hh, t, ht⟩ | ⟨hh, ht⟩
    · simp [DecidedBy, hh, hd, ht]
    · simp only [hy, hw, hh, hd, ht]
      exact ⟨_, missingDateField_absent (.inl hy), rfl⟩

end
end Presentation

/-- A facet of a well-formed value is decided by the fields that it shows. -/
theorem present_decided [LocaleLibrary] {s : Settings} {l : Locale} {v : Temporal}
    (hs : s.RenderIn l) (hv : v.WellFormed) (facet : Facet) :
    Presentation.DecidedBy (facet.shows v) facet v (present s facet v) := by
  cases facet with
  | weekdayName => exact Presentation.weekdayName_decided hs.named hv
  | monthName => exact Presentation.monthName_decided hs.named hv
  | zeroPaddedDay => exact Presentation.zeroPaddedDay_decided hv
  | localizedDate => exact Presentation.localizedDate_decided hs hv
  | localizedDateTime => exact Presentation.localizedDateTime_decided hs hv
  | localizedDateWithoutYear => exact Presentation.localizedDateWithoutYear_decided hs.named hv
  | localizedTime => exact Presentation.localizedTime_decided hs.times hv

end Timex
