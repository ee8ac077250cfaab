import Timex.Proofs.Token.DatePart

/-!
# Well-formed values

The values of spellings are well formed, and so is all that is read. A well-formed value has
the date and the time of day that its fields promise.
-/

namespace Timex

open Token (Spelling TimeSpelling MonthDay withTimePart)

-- ---------------------------------------------------------------------------
-- Spelled values
-- ---------------------------------------------------------------------------

/-- A bound on a field need be checked only on the number that the field holds. -/
theorem forall_of_eq_some {P : α → Prop} {a : α} (h : P a) : ∀ b, some a = some b → P b :=
  fun _ he => Option.some.inj he ▸ h

namespace Temporal

theorem wellFormed_empty : empty.WellFormed := by
  constructor <;> simp [empty, hasFullDate]

theorem WellFormed.setOn {v : Temporal} (hv : v.WellFormed) (τ : TimeSpelling) :
    (τ.setOn v).WellFormed := by
  cases τ <;>
    exact
      { hv with
        hour_iff := by simp [TimeSpelling.setOn]
        hour_bounds := forall_of_eq_some (by omega)
        minute_bounds := forall_of_eq_some (by omega)
        second_bounds := fun n hn => by simp [TimeSpelling.setOn] at hn <;> omega
        minute_of_second := by simp [TimeSpelling.setOn] }

theorem WellFormed.setAs {v : Temporal} (hv : v.WellFormed) (synthesize : Bool)
    (τ : TimeSpelling) : (τ.setAs synthesize v).WellFormed := by
  unfold TimeSpelling.setAs
  split
  · exact hv.setOn τ
  · rename_i h
    cases τ with
    | hour padded h' =>
      -- No second goes without the minute that is taken back.
      exact { hv.setOn (.hour padded h') with minute_bounds := nofun, minute_of_second := nofun }
    | minute => simp [TimeSpelling.hasMinute] at h
    | second => simp [TimeSpelling.hasMinute] at h

theorem WellFormed.withTime {v w : Temporal} (hv : v.WellFormed) (hw : w.WellFormed) :
    (v.withTime w).WellFormed := by
  unfold Temporal.withTime
  split
  · rename_i ht
    exact
      { hv with
        hour_iff := by simp [hw.hour_iff, ht]
        hour_bounds := hw.hour_bounds
        minute_bounds := hw.minute_bounds
        second_bounds := hw.second_bounds
        minute_of_second := hw.minute_of_second }
  · exact hv

theorem WellFormed.withTimePart {v : Temporal} (hv : v.WellFormed) (time : Option TimeSpelling) :
    (withTimePart v time).WellFormed := by
  cases time with
  | none => exact hv
  | some τ => exact hv.setOn τ

theorem WellFormed.withTimePartAs {v : Temporal} (hv : v.WellFormed) (synthesize : Bool)
    (time : Option TimeSpelling) : (Token.withTimePartAs synthesize v time).WellFormed := by
  cases time with
  | none => exact hv
  | some τ => exact hv.setAs synthesize τ

end Temporal

namespace DatePart

theorem wellFormed_date (d : Date) : (date d).value.WellFormed := by
  have hy := d.year_bounds
  have hm := d.month_bounds
  have hd := d.day_bounds
  have hl := Gregorian.monthLength_bounds d.year d.month
  have hw := Gregorian.isoWeekday_bounds d.year d.month d.day
  exact
    { Temporal.wellFormed_empty with
      year_bounds := forall_of_eq_some (by omega)
      month_bounds := forall_of_eq_some (by omega)
      month_of_year := fun _ => rfl
      day_bounds := forall_of_eq_some (by omega)
      day_le_monthLength := fun m n hm hn => by
        obtain rfl := Option.some.inj hm
        obtain rfl := Option.some.inj hn
        exact Int.ofNat_le.mpr hd.2
      weekday_of_date := fun y m n hy hm hn => by
        obtain rfl := Option.some.inj hy
        obtain rfl := Option.some.inj hm
        obtain rfl := Option.some.inj hn
        rfl
      weekday_alone := fun h => absurd rfl h
      weekday_bounds := forall_of_eq_some (by rw [Date.isoWeekday]; omega) }

theorem wellFormed_monthDay (md : MonthDay) : (monthDay md).value.WellFormed := by
  have hm := md.month_bounds
  have hd := md.day_bounds
  have hl := Gregorian.monthLength_bounds 2000 md.month
  exact
    { Temporal.wellFormed_empty with
      month_bounds := forall_of_eq_some (by omega)
      month_of_year := fun _ => rfl
      day_bounds := forall_of_eq_some (by omega)
      day_le_monthLength := fun m n hm hn => by
        obtain rfl := Option.some.inj hm
        obtain rfl := Option.some.inj hn
        exact Int.ofNat_le.mpr hd.2
      weekday_of_date := nofun
      weekday_alone := nofun }

theorem wellFormed_value (p : DatePart) : p.value.WellFormed := by
  cases p with
  | date d => exact wellFormed_date d
  | monthDay md => exact wellFormed_monthDay md
  | yearMonth ym =>
    have hy := ym.year_bounds
    have hm := ym.month_bounds
    exact
      { Temporal.wellFormed_empty with
        year_bounds := forall_of_eq_some (by omega)
        month_bounds := forall_of_eq_some (by omega)
        month_of_year := fun _ => rfl
        day_le_monthLength := nofun
        weekday_of_date := nofun
        weekday_alone := nofun }
  | month m =>
    exact
      { Temporal.wellFormed_empty with
        month_bounds := forall_of_eq_some (by omega)
        month_of_year := fun _ => rfl
        day_le_monthLength := nofun
        weekday_of_date := nofun
        weekday_alone := nofun }
  | dayOfMonth padded d =>
    exact
      { Temporal.wellFormed_empty with
        day_bounds := forall_of_eq_some (by omega)
        day_le_monthLength := nofun
        weekday_of_date := nofun
        weekday_alone := nofun }
  | weekday e =>
    exact
      { Temporal.wellFormed_empty with
        weekday_of_date := nofun
        weekday_alone := fun _ _ => ⟨rfl, rfl, rfl⟩
        weekday_bounds := forall_of_eq_some (by omega) }

end DatePart

theorem Token.Spelling.wellFormed_value (s : Spelling) : s.value.WellFormed := by
  cases s with
  | date d time => exact (DatePart.date d).wellFormed_value.withTimePart time
  | yearMonth ym => exact (DatePart.yearMonth ym).wellFormed_value
  | monthDay md time => exact (DatePart.monthDay md).wellFormed_value.withTimePart time
  | month m => exact (DatePart.month m).wellFormed_value
  | dayOfMonth padded d => exact (DatePart.dayOfMonth padded d).wellFormed_value
  | weekday e time => exact (DatePart.weekday e).wellFormed_value.withTimePart time
  | timeAlone τ => exact Temporal.wellFormed_empty.setOn τ
  | bareTime τ => exact Temporal.wellFormed_empty.setOn τ

/-- Whatever is read is well formed, in every granularity and with or without synthesis. -/
theorem Temporal.wellFormed_of_read {t : Text} {g : Granularity} {synthesize : Bool}
    {v : Temporal} (h : read t g synthesize = .ok v) : v.WellFormed := by
  by_cases hg : g = .timeOnly
  · subst hg
    obtain ⟨τ, -, rfl⟩ := readAs_timeOnly_eq_ok_iff.mp h
    exact wellFormed_empty.setAs synthesize τ
  · obtain ⟨d, time, c, w, -, -, -, hc, hw, rfl⟩ := (readAs_eq_ok_iff hg).mp h
    obtain ⟨p, -, -, rfl⟩ := DatePart.exists_captures_iff.mp ⟨c, hc, hw⟩
    exact p.wellFormed_value.withTimePartAs synthesize time

-- ---------------------------------------------------------------------------
-- Dates and times of day
-- ---------------------------------------------------------------------------

/-- A date has the numbers that it is made of. -/
theorem Date.ofNumbers_eq_ok_iff {y m d : Int} {date : Date} :
    ofNumbers y m d = .ok date ↔ y = date.year ∧ m = date.month ∧ d = date.day := by
  constructor
  · intro h
    simp only [ofNumbers, bind, Except.bind] at h
    split at h
    · cases h
    · split_ifs at h with hy hm hd
      obtain rfl := Except.ok.inj h
      simp only
      omega
  · rintro ⟨rfl, rfl, rfl⟩
    exact ofNumbers_self date

/-- A time of day has the numbers that it is made of. -/
theorem TimeOfDay.ofNumbers_eq_ok_iff {h m s : Int} {time : TimeOfDay} :
    ofNumbers h m s = .ok time ↔ h = time.hour ∧ m = time.minute ∧ s = time.second := by
  constructor
  · intro ht
    simp only [ofNumbers, bind, Except.bind] at ht
    split at ht
    · cases ht
    · split_ifs at ht with hh hm hs
      obtain rfl := Except.ok.inj ht
      simp only
      omega
  · rintro ⟨rfl, rfl, rfl⟩
    exact ofNumbers_self time

theorem Date.ofNumbers_of_bounds {y m d : Int} (hy : 1 ≤ y ∧ y ≤ 9999) (hm : 1 ≤ m ∧ m ≤ 12)
    (hd : 1 ≤ d ∧ d ≤ Gregorian.monthLength y.toNat m.toNat) :
    ∃ date, Date.ofNumbers y m d = .ok date := by
  have h := ofNumbers_self ⟨y.toNat, m.toNat, d.toNat, by omega, by omega, by omega⟩
  simp only [Int.toNat_of_nonneg (show 0 ≤ y by omega), Int.toNat_of_nonneg (show 0 ≤ m by omega),
    Int.toNat_of_nonneg (show 0 ≤ d by omega)] at h
  exact ⟨_, h⟩

theorem TimeOfDay.ofNumbers_of_bounds {h m s : Int} (hh : 0 ≤ h ∧ h ≤ 23) (hm : 0 ≤ m ∧ m ≤ 59)
    (hs : 0 ≤ s ∧ s ≤ 59) : ∃ time, TimeOfDay.ofNumbers h m s = .ok time := by
  have ht := ofNumbers_self ⟨h.toNat, m.toNat, s.toNat, by omega, by omega, by omega⟩
  simp only [Int.toNat_of_nonneg hh.1, Int.toNat_of_nonneg hm.1, Int.toNat_of_nonneg hs.1] at ht
  exact ⟨_, ht⟩

theorem Temporal.toDate_eq_ok_iff {v : Temporal} {date : Date} :
    v.toDate = .ok date ↔
      v.year = some ↑date.year ∧ v.month = some ↑date.month ∧ v.day = some ↑date.day := by
  unfold toDate
  split
  · rename_i hy hm hd
    rw [Date.ofNumbers_eq_ok_iff, hy, hm, hd]
    simp
  · rename_i hn
    exact iff_of_false nofun fun ⟨hy, hm, hd⟩ => hn _ _ _ hy hm hd

namespace Temporal.WellFormed

variable {v : Temporal} (hv : v.WellFormed)
include hv

theorem exists_toDate {y m d : Int} (hy : v.year = some y) (hm : v.month = some m)
    (hd : v.day = some d) : ∃ date, v.toDate = .ok date := by
  have hl := hv.day_le_monthLength m d hm hd
  rw [referenceYear, hy, Option.getD_some] at hl
  obtain ⟨date, h⟩ := Date.ofNumbers_of_bounds (hv.year_bounds y hy) (hv.month_bounds m hm)
    ⟨(hv.day_bounds d hd).1, hl⟩
  exact ⟨date, by simpa [toDate, hy, hm, hd] using h⟩

theorem exists_firstOfMonth {y m : Int} (hy : v.year = some y) (hm : v.month = some m) :
    ∃ date, Date.ofNumbers y m 1 = .ok date := by
  have hl := Gregorian.monthLength_bounds y.toNat m.toNat
  exact Date.ofNumbers_of_bounds (hv.year_bounds y hy) (hv.month_bounds m hm) (by omega)

/-- A leap year has every month and day of a value, whatever its year. -/
theorem exists_dateInLeapYear {m d : Int} (hm : v.month = some m) (hd : v.day = some d) :
    ∃ date, Date.ofNumbers 2000 m d = .ok date := by
  have hl := hv.day_le_monthLength m d hm hd
  have hle : Gregorian.monthLength v.referenceYear.toNat m.toNat ≤
      Gregorian.monthLength 2000 m.toNat := Gregorian.monthLength_le_of_isLeap (by decide) _ _
  refine Date.ofNumbers_of_bounds (by decide) (hv.month_bounds m hm)
    ⟨(hv.day_bounds d hd).1, Int.le_trans hl ?_⟩
  exact Int.ofNat_le.mpr hle

theorem exists_toTime (ht : v.hadExplicitTime = true) :
    ∃ h time, v.hour = some h ∧ v.toTime = .ok time := by
  obtain ⟨h, hh⟩ := Option.isSome_iff_exists.mp (hv.hour_iff.mpr ht)
  have hbounds : ∀ {o : Option Int}, (∀ n, o = some n → 0 ≤ n ∧ n ≤ 59) →
      0 ≤ o.getD 0 ∧ o.getD 0 ≤ 59 := by
    intro o ho
    cases o with
    | none => simp
    | some n => exact ho n rfl
  obtain ⟨time, h'⟩ := TimeOfDay.ofNumbers_of_bounds (hv.hour_bounds h hh)
    (hbounds hv.minute_bounds) (hbounds hv.second_bounds)
  exact ⟨h, time, hh, by simpa [toTime, ht, hh] using h'⟩

/-- A full date is all that a date takes. -/
theorem exists_toDate_iff : (∃ date, v.toDate = .ok date) ↔ v.hasFullDate = true := by
  constructor
  · rintro ⟨date, h⟩
    unfold toDate at h
    split at h
    · rename_i hy hm hd
      simp [hasFullDate, hy, hm, hd]
    · simp at h
  · intro h
    simp only [hasFullDate, Bool.and_eq_true, Option.isSome_iff_exists] at h
    obtain ⟨⟨⟨y, hy⟩, m, hm⟩, d, hd⟩ := h
    exact hv.exists_toDate hy hm hd

/-- An explicit time is all that a time of day takes. -/
theorem exists_toTime_iff : (∃ time, v.toTime = .ok time) ↔ v.hadExplicitTime = true := by
  constructor
  · rintro ⟨time, h⟩
    unfold toTime at h
    split at h
    · rename_i ht _
      exact ht
    · simp at h
  · intro ht
    obtain ⟨_, time, -, h⟩ := hv.exists_toTime ht
    exact ⟨time, h⟩

/-- The weekday of a value with a date is that of the date. -/
theorem weekday_of_toDate {date : Date} (h : v.toDate = .ok date) :
    v.weekday = some ↑date.isoWeekday := by
  obtain ⟨hy, hm, hd⟩ := toDate_eq_ok_iff.mp h
  rw [hv.weekday_of_date _ _ _ hy hm hd]
  simp only [Int.toNat_natCast, Date.isoWeekday]
  rfl

theorem hour_eq_none (ht : v.hadExplicitTime = false) : v.hour = none := by
  cases hh : v.hour with
  | none => rfl
  | some h =>
    have := hv.hour_iff.mp (by simp [hh])
    simp [ht] at this

end Temporal.WellFormed
end Timex
