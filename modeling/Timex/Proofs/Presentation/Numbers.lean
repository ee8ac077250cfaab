import Timex.Proofs.Presentation

/-!
# Values of any numbers

What is amiss with a value is to be reported for the facet that was asked for: a field that is
absent, or one whose number is out of bounds. Names and two-digit days are checked first. Dates
and times are put together as they are, the weekday that stands for a date is reported under its
own facet, and an hour without an explicit time is reported even if it is in its bounds.
`Facet.Suits` tells the values for which none of this matters; all others escape.
-/

namespace Timex

/-- The least and the greatest number of a field. -/
def Field.bounds : Field → Int × Int
  | .year => (1, 9999)
  | .month => (1, 12)
  | .day => (1, 31)
  | .weekday => (1, 7)
  | .hour => (0, 23)
  | .minute | .second => (0, 59)

def Field.InBounds (f : Field) (n : Int) : Prop := f.bounds.1 ≤ n ∧ n ≤ f.bounds.2

-- ---------------------------------------------------------------------------
-- Numbers of dates and times
-- ---------------------------------------------------------------------------

structure Date.AreNumbers (year month day : Int) : Prop where
  year_inBounds : Field.year.InBounds year
  month_inBounds : Field.month.InBounds month
  day_pos : 1 ≤ day
  day_le : day ≤ Gregorian.monthLength year.toNat month.toNat

structure TimeOfDay.AreNumbers (hour minute second : Int) : Prop where
  hour_inBounds : Field.hour.InBounds hour
  minute_inBounds : Field.minute.InBounds minute
  second_inBounds : Field.second.InBounds second

theorem Date.exists_ofNumbers_iff {y m d : Int} :
    (∃ date, ofNumbers y m d = .ok date) ↔ AreNumbers y m d := by
  constructor
  · rintro ⟨date, h⟩
    obtain ⟨rfl, rfl, rfl⟩ := ofNumbers_eq_ok_iff.mp h
    obtain ⟨hy, hy'⟩ := date.year_bounds
    obtain ⟨hm, hm'⟩ := date.month_bounds
    obtain ⟨hd, hd'⟩ := date.day_bounds
    exact ⟨⟨Int.ofNat_le.mpr hy, Int.ofNat_le.mpr hy'⟩, ⟨Int.ofNat_le.mpr hm, Int.ofNat_le.mpr hm'⟩,
      Int.ofNat_le.mpr hd, Int.ofNat_le.mpr hd'⟩
  · intro h
    exact ofNumbers_of_bounds h.year_inBounds h.month_inBounds ⟨h.day_pos, h.day_le⟩

theorem TimeOfDay.exists_ofNumbers_iff {h m s : Int} :
    (∃ time, ofNumbers h m s = .ok time) ↔ AreNumbers h m s := by
  constructor
  · rintro ⟨time, ht⟩
    obtain ⟨rfl, rfl, rfl⟩ := ofNumbers_eq_ok_iff.mp ht
    exact ⟨⟨Int.natCast_nonneg _, Int.ofNat_le.mpr (Nat.le_of_lt_succ time.hour_lt)⟩,
      ⟨Int.natCast_nonneg _, Int.ofNat_le.mpr (Nat.le_of_lt_succ time.minute_lt)⟩,
      Int.natCast_nonneg _, Int.ofNat_le.mpr (Nat.le_of_lt_succ time.second_lt)⟩
  · intro ht
    exact ofNumbers_of_bounds ht.hour_inBounds ht.minute_inBounds ht.second_inBounds

theorem Date.not_areNumbers {y m d : Int} {e : CalendarError} (h : ofNumbers y m d = .error e) :
    ¬ AreNumbers y m d := by
  intro hn
  obtain ⟨date, hd⟩ := exists_ofNumbers_iff.mpr hn
  rw [h] at hd
  cases hd

theorem TimeOfDay.not_areNumbers {h m s : Int} {e : CalendarError}
    (ht : ofNumbers h m s = .error e) : ¬ AreNumbers h m s := by
  intro hn
  obtain ⟨time, hd⟩ := exists_ofNumbers_iff.mpr hn
  rw [ht] at hd
  cases hd

-- ---------------------------------------------------------------------------
-- Reports
-- ---------------------------------------------------------------------------

/-- Something is amiss with a value: a gap, or a number out of bounds. -/
inductive Gap.Amiss (v : Temporal) : Gap → Option Int → Prop where
  | absent (h : gap.AbsentIn v) : Amiss v gap none
  | outOfBounds (h : v.get? f = some n) (hn : ¬ f.InBounds n) : Amiss v (.field f) (some n)

namespace Temporal

/-- With a year and a month there is a date. An absent day is the first of the month. -/
def SoundDate (v : Temporal) : Prop :=
  ∀ y m, v.year = some y → v.month = some m → Date.AreNumbers y m (v.day.getD 1)

/-- The weekday that stands for a date is one. -/
def SoundWeekday (v : Temporal) : Prop :=
  v.year = none ∨ v.month = none → ∀ w, v.weekday = some w → Field.weekday.InBounds w

/-- With an explicit hour there is a time of day. -/
def SoundTime (v : Temporal) : Prop :=
  v.hadExplicitTime = true → ∀ h, v.hour = some h →
    TimeOfDay.AreNumbers h (v.minute.getD 0) (v.second.getD 0)

variable {v : Temporal}

theorem soundDate_iff {y m : Int} (hy : v.year = some y) (hm : v.month = some m) :
    v.SoundDate ↔ Date.AreNumbers y m (v.day.getD 1) := by
  simp [SoundDate, hy, hm]

theorem soundTime_iff {h : Int} (ht : v.hadExplicitTime = true) (hh : v.hour = some h) :
    v.SoundTime ↔ TimeOfDay.AreNumbers h (v.minute.getD 0) (v.second.getD 0) := by
  simp [SoundTime, ht, hh]

theorem soundDate_of_no_month (h : v.year = none ∨ v.month = none) : v.SoundDate := by
  rcases h with h | h <;> simp [SoundDate, h]

theorem soundTime_of_no_hour (h : v.hadExplicitTime = false ∨ v.hour = none) : v.SoundTime := by
  rcases h with h | h <;> simp [SoundTime, h]

end Temporal

/-- What the facet puts together or takes in place of another is sound in the value. -/
def Facet.Suits (v : Temporal) : Facet → Prop
  | .weekdayName | .monthName | .zeroPaddedDay => True
  | .localizedDate => v.SoundDate
  | .localizedDateTime => v.SoundDate ∧ v.SoundWeekday ∧ v.SoundTime
  | .localizedDateWithoutYear =>
    ∀ m d, v.month = some m → v.day = some d → Date.AreNumbers Presentation.leapYear m d
  | .localizedTime =>
    v.SoundTime ∧
      (v.hadExplicitTime = false → ∀ h, v.hour = some h → ¬ Field.hour.InBounds h)

namespace Presentation

/-- A text, or out of range for the facet that was asked for and for what is amiss. -/
def Reported (facet : Facet) (v : Temporal) (p : Presented) : Prop :=
  (∃ t, p = .ok t) ∨
    ∃ gap value, gap.Amiss v value ∧ p = .error (.outOfRange ⟨gap, value, facet⟩)

/-- What a facet of a value ends in where nothing is reported: numbers that make no date or no
time, a weekday out of bounds under the facet of weekdays, and an hour that nothing is amiss
with. -/
inductive Escapes (v : Temporal) : Facet → PresentationError → Prop where
  | date (hf : facet = .localizedDate ∨ facet = .localizedDateTime) (hy : v.year = some y)
      (hm : v.month = some m) (he : Date.ofNumbers y m (v.day.getD 1) = .error e) :
      Escapes v facet (.breach (.calendar e))
  | monthDay (hm : v.month = some m) (hd : v.day = some d)
      (he : Date.ofNumbers leapYear m d = .error e) :
      Escapes v .localizedDateWithoutYear (.breach (.calendar e))
  | time (hf : facet = .localizedTime ∨ facet = .localizedDateTime)
      (ht : v.hadExplicitTime = true) (hh : v.hour = some h)
      (he : TimeOfDay.ofNumbers h (v.minute.getD 0) (v.second.getD 0) = .error e) :
      Escapes v facet (.breach (.calendar e))
  | weekday (hn : v.year = none ∨ v.month = none) (hw : v.weekday = some w)
      (hb : ¬ Field.weekday.InBounds w) :
      Escapes v .localizedDateTime (.outOfRange ⟨.field .weekday, some w, .weekdayName⟩)
  | hour (ht : v.hadExplicitTime = false) (hh : v.hour = some h) (hb : Field.hour.InBounds h) :
      Escapes v .localizedTime (.outOfRange ⟨.field .hour, some h, .localizedTime⟩)

/-- The facet suits the value and reports on it, or the value escapes. -/
def Decides (facet : Facet) (v : Temporal) (p : Presented) : Prop :=
  facet.Suits v ∧ Reported facet v p ∨ ∃ e, Escapes v facet e ∧ p = .error e

variable {v : Temporal} {facet : Facet} {e : PresentationError}

theorem Escapes.not_suits (h : Escapes v facet e) : ¬ facet.Suits v := by
  intro hs
  cases h with
  | date hf hy hm he =>
    rcases hf with rfl | rfl
    · exact Date.not_areNumbers he (hs _ _ hy hm)
    · exact Date.not_areNumbers he (hs.1 _ _ hy hm)
  | monthDay hm hd he => exact Date.not_areNumbers he (hs _ _ hm hd)
  | time hf ht hh he =>
    rcases hf with rfl | rfl
    · exact TimeOfDay.not_areNumbers he (hs.1 ht _ hh)
    · exact TimeOfDay.not_areNumbers he (hs.2.2 ht _ hh)
  | weekday hn hw hb => exact hb (hs.2.1 hn _ hw)
  | hour ht hh hb => exact hs.2 ht _ hh hb

theorem Escapes.not_reported (h : Escapes v facet e) : ¬ Reported facet v (.error e) := by
  rintro (⟨t, ht⟩ | ⟨gap, value, ha, he⟩)
  · cases ht
  · cases h with
    | date | monthDay | time | weekday => cases he
    | hour _ hh hb =>
      cases he
      cases ha with
      | outOfBounds _ hn => exact hn hb

-- ---------------------------------------------------------------------------
-- Names and numbers
-- ---------------------------------------------------------------------------

/-- A facet that looks at one field and checks it reports on it. -/
theorem reported_of_check (f : Field) (show? : Option Int → Presented)
    (habsent : show? none = .error (.outOfRange ⟨.field f, none, facet⟩))
    (hout : ∀ n, ¬ f.InBounds n → show? (some n) = .error (.outOfRange ⟨.field f, some n, facet⟩))
    (hin : ∀ n, f.InBounds n → ∃ t, show? (some n) = .ok t) :
    Reported facet v (show? (v.get? f)) := by
  cases hn : v.get? f with
  | none => exact .inr ⟨.field f, none, .absent hn, habsent⟩
  | some n =>
    by_cases hb : f.InBounds n
    · exact .inl (hin n hb)
    · exact .inr ⟨.field f, some n, .outOfBounds hn hb, hout n hb⟩

theorem zeroPaddedDay_decides (v : Temporal) :
    Decides .zeroPaddedDay v (zeroPaddedDay v.day) := by
  refine .inl ⟨trivial, reported_of_check .day zeroPaddedDay rfl ?_ ?_⟩
  · intro d hb
    exact if_neg hb
  · intro d hb
    exact ⟨_, if_pos hb⟩

section
variable [LocaleLibrary] {s : Settings} {l : Locale}

theorem weekdayName_of_not_inBounds {w : Int} (hb : ¬ Field.weekday.InBounds w) (tag : Text) :
    weekdayName tag (some w) = .error (.outOfRange ⟨.field .weekday, some w, .weekdayName⟩) :=
  dif_neg hb

theorem weekdayName_decides (hl : LocaleLibrary.named s.locale = .ok l) (v : Temporal) :
    Decides .weekdayName v (weekdayName s.locale v.weekday) := by
  refine .inl ⟨trivial, reported_of_check .weekday (weekdayName s.locale) rfl ?_ ?_⟩
  · intro w hb
    exact weekdayName_of_not_inBounds hb s.locale
  · intro w hb
    exact exists_weekdayName hl hb

theorem monthName_decides (hl : LocaleLibrary.named s.locale = .ok l) (v : Temporal) :
    Decides .monthName v (monthName s.locale v.month) := by
  refine .inl ⟨trivial, reported_of_check .month (monthName s.locale) rfl ?_ ?_⟩
  · intro m hb
    exact dif_neg hb
  · intro m hb
    exact exists_monthName hl hb

-- ---------------------------------------------------------------------------
-- Dates and times
-- ---------------------------------------------------------------------------

theorem skeleton_of_no_date {pattern : Locale → String} {y m d : Int} {e : CalendarError}
    (he : Date.ofNumbers y m d = .error e) :
    skeleton s pattern y m d = .error (.breach (.calendar e)) := by
  simp [skeleton, he, fromCalendar, Except.mapError, bind, Except.bind]

theorem dateText?_of_no_date {y m : Int} {e : CalendarError} (hy : v.year = some y)
    (hm : v.month = some m) (he : Date.ofNumbers y m (v.day.getD 1) = .error e) :
    dateText? s v = some (.error (.breach (.calendar e))) := by
  cases hd : v.day with
  | none =>
    rw [hd] at he
    have hmonth : skeleton s Locale.yearMonth y m 1 = .error (.breach (.calendar e)) :=
      skeleton_of_no_date he
    simp [dateText?, hy, hm, hd, hmonth]
  | some d =>
    have hdate : v.toDate = .error e := by simpa [Temporal.toDate, hy, hm, hd] using he
    simp [dateText?, hy, hm, hd, hdate, fromCalendar, Except.mapError, bind, Except.bind]

/-- A value without a year or a month has no text of a date. Another one has it, or its numbers
make no date. -/
theorem dateText?_outcome (hs : s.RenderIn l) (v : Temporal) :
    (v.year = none ∨ v.month = none) ∧ dateText? s v = none ∨
      ¬ (v.year = none ∨ v.month = none) ∧ v.SoundDate ∧ (∃ t, dateText? s v = some (.ok t)) ∨
      ∃ y m e, v.year = some y ∧ v.month = some m ∧
        Date.ofNumbers y m (v.day.getD 1) = .error e ∧
        dateText? s v = some (.error (.breach (.calendar e))) := by
  cases hy : v.year with
  | none => exact .inl ⟨.inl rfl, by simp [dateText?, hy]⟩
  | some y =>
    cases hm : v.month with
    | none => exact .inl ⟨.inr rfl, by simp [dateText?, hy, hm]⟩
    | some m =>
      cases hn : Date.ofNumbers y m (v.day.getD 1) with
      | error e => exact .inr (.inr ⟨y, m, e, rfl, rfl, hn, dateText?_of_no_date hy hm hn⟩)
      | ok date =>
        have hsound := (Temporal.soundDate_iff hy hm).mpr (Date.exists_ofNumbers_iff.mp ⟨date, hn⟩)
        exact .inr (.inl ⟨by simp, hsound, exists_dateText? hs hy hm hn⟩)

theorem timeText?_of_no_time {h : Int} {e : CalendarError} (ht : v.hadExplicitTime = true)
    (hh : v.hour = some h) (he : v.toTime = .error e) :
    timeText? s v = some (.error (.breach (.calendar e))) := by
  simp [timeText?, ht, hh, he, fromCalendar, Except.mapError, bind, Except.bind]

theorem timeText?_outcome (hs : s.RenderTimesIn l) (v : Temporal) :
    (v.hadExplicitTime = false ∨ v.hour = none) ∧ timeText? s v = none ∨
      v.hadExplicitTime = true ∧ v.SoundTime ∧ (∃ t, timeText? s v = some (.ok t)) ∨
      ∃ h e, v.hadExplicitTime = true ∧ v.hour = some h ∧
        TimeOfDay.ofNumbers h (v.minute.getD 0) (v.second.getD 0) = .error e ∧
        timeText? s v = some (.error (.breach (.calendar e))) := by
  cases ht : v.hadExplicitTime with
  | false => exact .inl ⟨.inl rfl, by simp [timeText?, ht]⟩
  | true =>
    cases hh : v.hour with
    | none => exact .inl ⟨.inr rfl, by simp [timeText?, ht, hh]⟩
    | some h =>
      have htime : v.toTime = TimeOfDay.ofNumbers h (v.minute.getD 0) (v.second.getD 0) := by
        simp [Temporal.toTime, ht, hh]
      cases hn : TimeOfDay.ofNumbers h (v.minute.getD 0) (v.second.getD 0) with
      | error e =>
        exact .inr (.inr ⟨h, e, rfl, rfl, hn, timeText?_of_no_time ht hh (htime.trans hn)⟩)
      | ok time =>
        have hsound := (Temporal.soundTime_iff ht hh).mpr
          (TimeOfDay.exists_ofNumbers_iff.mp ⟨time, hn⟩)
        obtain ⟨t, hf⟩ := hs.time time
        exact .inr (.inl ⟨rfl, hsound, t, timeText?_of_toTime hs.named (htime.trans hn) hf⟩)

theorem localizedDate_decides (hs : s.RenderIn l) (v : Temporal) :
    Decides .localizedDate v (localizedDate s v) := by
  unfold localizedDate
  rcases dateText?_outcome hs v with ⟨hn, hd⟩ | ⟨-, hsound, t, hd⟩ | ⟨y, m, e, hy, hm, he, hd⟩
  · rw [hd]
    refine .inl ⟨Temporal.soundDate_of_no_month hn, .inr ⟨_, _, .absent ?_, rfl⟩⟩
    exact missingDateField_absent hn
  · rw [hd]
    exact .inl ⟨hsound, .inl ⟨t, rfl⟩⟩
  · rw [hd]
    exact .inr ⟨_, .date (.inl rfl) hy hm he, rfl⟩

theorem localizedDateWithoutYear_decides (hl : LocaleLibrary.named s.locale = .ok l)
    (v : Temporal) : Decides .localizedDateWithoutYear v (localizedDateWithoutYear s v) := by
  unfold localizedDateWithoutYear
  cases hm : v.month with
  | none => exact .inl ⟨by simp [Facet.Suits, hm], .inr ⟨.field .month, none, .absent hm, rfl⟩⟩
  | some m =>
    cases hd : v.day with
    | none => exact .inl ⟨by simp [Facet.Suits, hd], .inr ⟨.field .day, none, .absent hd, rfl⟩⟩
    | some d =>
      cases hn : Date.ofNumbers leapYear m d with
      | error e => exact .inr ⟨_, .monthDay hm hd hn, skeleton_of_no_date hn⟩
      | ok date =>
        have hnumbers := Date.exists_ofNumbers_iff.mp ⟨date, hn⟩
        obtain ⟨t, ht⟩ := LocaleLibrary.format_monthDay hl date
        refine .inl ⟨?_, .inl ⟨t, skeleton_of_date hl hn ht⟩⟩
        simpa [Facet.Suits, hm, hd] using hnumbers

theorem localizedTime_decides (hs : s.RenderTimesIn l) (v : Temporal) :
    Decides .localizedTime v (localizedTime s v) := by
  unfold localizedTime
  rcases timeText?_outcome hs v with ⟨hn, ht⟩ | ⟨hx, hsound, t, ht⟩ | ⟨h, e, hx, hh, he, ht⟩
  · have hsound := Temporal.soundTime_of_no_hour hn
    rw [ht]
    cases hh : v.hour with
    | none =>
      refine .inl ⟨⟨hsound, ?_⟩, .inr ⟨.field .hour, none, .absent hh, rfl⟩⟩
      simp [hh]
    | some h =>
      -- Without an explicit time the hour is reported, be it in its bounds or not.
      have hx : v.hadExplicitTime = false := hn.resolve_right (by simp [hh])
      by_cases hb : Field.hour.InBounds h
      · exact .inr ⟨_, .hour hx hh hb, rfl⟩
      · refine .inl ⟨⟨hsound, ?_⟩, .inr ⟨.field .hour, some h, .outOfBounds hh hb, rfl⟩⟩
        simpa [hh] using fun _ => hb
  · rw [ht]
    exact .inl ⟨⟨hsound, by simp [hx]⟩, .inl ⟨t, rfl⟩⟩
  · rw [ht]
    exact .inr ⟨_, .time (.inl rfl) hx hh he, rfl⟩

/-- The date, or else the weekday, is absent, or it is shown, or it escapes. -/
theorem dateOrWeekday?_outcome (hs : s.RenderIn l) (v : Temporal) :
    (v.year = none ∨ v.month = none) ∧ v.weekday = none ∧ dateOrWeekday? s v = none ∨
      v.SoundDate ∧ v.SoundWeekday ∧ (∃ t, dateOrWeekday? s v = some (.ok t)) ∨
      ∃ e, Escapes v .localizedDateTime e ∧ dateOrWeekday? s v = some (.error e) := by
  unfold dateOrWeekday?
  rcases dateText?_outcome hs v with ⟨hn, hd⟩ | ⟨hn, hsound, t, hd⟩ | ⟨y, m, e, hy, hm, he, hd⟩
  · rw [hd]
    cases hw : v.weekday with
    | none => exact .inl ⟨hn, rfl, rfl⟩
    | some w =>
      by_cases hb : Field.weekday.InBounds w
      · obtain ⟨t, ht⟩ := exists_weekdayName hs.named hb
        refine .inr (.inl ⟨Temporal.soundDate_of_no_month hn, ?_, t, by simp [ht]⟩)
        simpa [Temporal.SoundWeekday, hw] using fun _ => hb
      · refine .inr (.inr ⟨_, .weekday hn hw hb, ?_⟩)
        simp [weekdayName_of_not_inBounds hb]
  · rw [hd]
    exact .inr (.inl ⟨hsound, fun hn' => absurd hn' hn, t, rfl⟩)
  · rw [hd]
    exact .inr (.inr ⟨_, .date (.inr rfl) hy hm he, rfl⟩)

theorem localizedDateTime_decides (hs : s.RenderIn l) (v : Temporal) :
    Decides .localizedDateTime v (localizedDateTime s v) := by
  rw [localizedDateTime_eq]
  rcases dateOrWeekday?_outcome hs v with ⟨hn, hw, hd⟩ | ⟨hdate, hweek, d, hd⟩ | ⟨e, he, hd⟩
  · have hdate := Temporal.soundDate_of_no_month hn
    have hweek : v.SoundWeekday := by simp [Temporal.SoundWeekday, hw]
    rw [hd]
    rcases timeText?_outcome hs.times v with
      ⟨hx, ht⟩ | ⟨-, htime, t, ht⟩ | ⟨h, e, hx, hh, he, ht⟩
    · rw [ht]
      refine .inl ⟨⟨hdate, hweek, Temporal.soundTime_of_no_hour hx⟩, .inr ⟨_, _, .absent ?_, rfl⟩⟩
      exact missingDateField_absent hn
    · rw [ht]
      exact .inl ⟨⟨hdate, hweek, htime⟩, .inl ⟨t, rfl⟩⟩
    · rw [ht]
      exact .inr ⟨_, .time (.inr rfl) hx hh he, rfl⟩
  · rw [hd]
    rcases timeText?_outcome hs.times v with
      ⟨hx, ht⟩ | ⟨-, htime, t, ht⟩ | ⟨h, e, hx, hh, he, ht⟩
    · rw [ht]
      exact .inl ⟨⟨hdate, hweek, Temporal.soundTime_of_no_hour hx⟩, .inl ⟨d, rfl⟩⟩
    · rw [ht, forText_of_named hs.named]
      exact .inl ⟨⟨hdate, hweek, htime⟩, .inl ⟨_, rfl⟩⟩
    · rw [ht]
      exact .inr ⟨_, .time (.inr rfl) hx hh he, rfl⟩
  · -- What breaks off the date breaks off the whole, whatever the time.
    refine .inr ⟨e, he, ?_⟩
    rw [hd]
    cases timeText? s v <;> rfl

end
end Presentation

open Presentation in
theorem present_decides [LocaleLibrary] {s : Settings} {l : Locale} (hs : s.RenderIn l)
    (facet : Facet) (v : Temporal) : Decides facet v (present s facet v) := by
  cases facet with
  | weekdayName => exact weekdayName_decides hs.named v
  | monthName => exact monthName_decides hs.named v
  | zeroPaddedDay => exact zeroPaddedDay_decides v
  | localizedDate => exact localizedDate_decides hs v
  | localizedDateTime => exact localizedDateTime_decides hs v
  | localizedDateWithoutYear => exact localizedDateWithoutYear_decides hs.named v
  | localizedTime => exact localizedTime_decides hs.times v

/-- A facet gives a text, or reports what is amiss, exactly if it suits the value. Of any other
value it ends in what the value escapes by. -/
theorem present_reported_iff [LocaleLibrary] {s : Settings} {l : Locale} (hs : s.RenderIn l)
    (facet : Facet) (v : Temporal) :
    (Presentation.Reported facet v (present s facet v) ↔ facet.Suits v) ∧
      (¬ facet.Suits v → ∃ e, Presentation.Escapes v facet e ∧ present s facet v = .error e) := by
  rcases present_decides hs facet v with ⟨hsuits, hr⟩ | ⟨e, he, hp⟩
  · exact ⟨iff_of_true hr hsuits, fun hn => absurd hsuits hn⟩
  · refine ⟨iff_of_false ?_ he.not_suits, fun _ => ⟨e, he, hp⟩⟩
    rw [hp]
    exact he.not_reported

/-- The month is looked up by its name, and put together to a date. -/
theorem thirteenth_month_reported_by_name :
    let v : Temporal := { Temporal.empty with year := some 2024, month := some 13, day := some 1 }
    Settings.default.RenderIn Locale.enUS ∧ Facet.monthName.Suits v ∧
      Presentation.Reported .monthName v (present Settings.default .monthName v) ∧
      ¬ Facet.localizedDate.Suits v ∧
      ∃ e, Presentation.Escapes v .localizedDate e ∧
        present Settings.default .localizedDate v = .error e := by
  intro v
  have hs := Settings.default_renderIn
  have hdate : ¬ Facet.localizedDate.Suits v := fun h =>
    absurd (h 2024 13 rfl rfl).month_inBounds (by simp [Field.InBounds, Field.bounds])
  exact ⟨hs, trivial, (present_reported_iff hs .monthName v).1.mpr trivial, hdate,
    (present_reported_iff hs .localizedDate v).2 hdate⟩

/-- There is no month after December, and the date does not say so. -/
theorem not_forall_reported :
    ¬ ∀ (s : Settings) (l : Locale) (facet : Facet) (v : Temporal), s.RenderIn l →
      Presentation.Reported facet v (present s facet v) := by
  intro h
  exact (Presentation.Escapes.date (.inl rfl) rfl rfl rfl).not_reported
    (h _ _ .localizedDate
      { Temporal.empty with year := some 2024, month := some 13, day := some 1 }
      Settings.default_renderIn)

end Timex
