import Timex.Calendar.Zone

/-!
# The calendar from day to day

Days are counted without a gap over the ends of months, years and centuries, so weekdays
follow each other from the first day of the calendar, a Monday, to the last. The date in a zone
is the day of the second to which the zone shifts the present.
-/

namespace Timex

namespace Gregorian

def yearLength (year : Nat) : Nat := if isLeap year then 366 else 365

theorem isLeap_iff {year : Nat} :
    isLeap year = true ↔ 4 ∣ year ∧ (¬ 100 ∣ year ∨ 400 ∣ year) := by
  simp [isLeap, Nat.dvd_iff_mod_eq_zero]

theorem daysBeforeYear_succ {year : Nat} (h : 1 ≤ year) :
    daysBeforeYear (year + 1) = daysBeforeYear year + yearLength year := by
  cases year with
  | zero => omega
  | succ past =>
    have h100 : 100 ∣ past + 1 → 4 ∣ past + 1 := Nat.dvd_trans (by decide)
    have h400 : 400 ∣ past + 1 → 100 ∣ past + 1 := Nat.dvd_trans (by decide)
    have hle := Nat.div_le_self past 100
    simp only [daysBeforeYear, yearLength, isLeap_iff, Nat.add_sub_cancel, Nat.succ_div]
    -- Every fourth year is a leap year, but not every hundredth, but every four hundredth.
    by_cases hy400 : 400 ∣ past + 1
    · simp only [hy400, h400 hy400, h100 (h400 hy400), not_true, or_true, and_self, if_true]
      omega
    · by_cases hy100 : 100 ∣ past + 1
      · simp only [hy400, hy100, h100 hy100, not_true, or_self, and_false, if_true, if_false]
        omega
      · by_cases hy4 : 4 ∣ past + 1
        · simp only [hy400, hy100, hy4, not_false_iff, or_false, and_self, if_true, if_false]
          omega
        · simp only [hy400, hy100, hy4, false_and, if_false]
          omega

theorem daysBeforeMonth_succ {month : Nat} (h : 1 ≤ month) (year : Nat) :
    daysBeforeMonth year (month + 1) = daysBeforeMonth year month + monthLength year month := by
  cases month with
  | zero => omega
  | succ month => rfl

/-- The months of a year have the days of the year. -/
theorem daysBeforeMonth_end (year : Nat) : daysBeforeMonth year 13 = yearLength year := by
  cases h : isLeap year <;> simp [daysBeforeMonth, monthLength, yearLength, h]

end Gregorian

namespace Date

open Gregorian

/-- Every day but the last one of the calendar is followed by the day of the next number. -/
theorem dayNumber_next {d : Date} (h : d.next ≠ d) : d.next.dayNumber = d.dayNumber + 1 := by
  have hyear := d.year_bounds.1
  have hmonth := d.month_bounds
  have hday := d.day_bounds
  unfold next at h ⊢
  split
  · rfl
  · rename_i hlast
    have hd : d.day = monthLength d.year d.month := by omega
    split
    · have hm := daysBeforeMonth_succ hmonth.1 d.year
      simp only [dayNumber, Gregorian.dayNumber, Gregorian.dayOfYear, hd, hm]
      omega
    · rename_i hlastMonth
      have hdecember : d.month = 12 := by omega
      have hend := daysBeforeMonth_end d.year
      rw [daysBeforeMonth_succ (by decide)] at hend
      rw [hdecember] at hd
      split
      · have hy := daysBeforeYear_succ hyear
        have hjanuary : daysBeforeMonth (d.year + 1) 1 = 0 := rfl
        simp only [dayNumber, Gregorian.dayNumber, Gregorian.dayOfYear, hd, hdecember, hjanuary, hy]
        omega
      · rename_i hlastYear
        exact absurd (by rw [dif_neg hlast, dif_neg hlastMonth, dif_neg hlastYear]) h

/-- Every day but the first one of the calendar follows the day of the number before. -/
theorem dayNumber_previous {d : Date} (h : d.previous ≠ d) :
    d.previous.dayNumber + 1 = d.dayNumber := by
  have hday := d.day_bounds
  have hmonth := d.month_bounds
  unfold previous at h ⊢
  split
  · simp only [dayNumber, Gregorian.dayNumber, Gregorian.dayOfYear]
    omega
  · rename_i hfirst
    have hd : d.day = 1 := by omega
    split
    · rename_i hm
      have hs := daysBeforeMonth_succ hm d.year
      rw [Nat.sub_add_cancel hmonth.1] at hs
      simp only [dayNumber, Gregorian.dayNumber, Gregorian.dayOfYear, hd, hs]
      omega
    · rename_i hfirstMonth
      have hjanuary : d.month = 1 := by omega
      split
      · rename_i hy
        have hs := daysBeforeYear_succ hy
        rw [Nat.sub_add_cancel d.year_bounds.1, ← daysBeforeMonth_end,
          daysBeforeMonth_succ (by decide)] at hs
        have hlength : monthLength (d.year - 1) 12 = 31 := rfl
        have hbefore : daysBeforeMonth d.year 1 = 0 := rfl
        simp only [dayNumber, Gregorian.dayNumber, Gregorian.dayOfYear, hd, hjanuary, hs, hlength,
          hbefore]
      · rename_i hfirstYear
        exact absurd (by rw [dif_neg hfirst, dif_neg hfirstMonth, dif_neg hfirstYear]) h

theorem isoWeekday_next {d : Date} (h : d.next ≠ d) :
    d.next.isoWeekday = d.isoWeekday % 7 + 1 := by
  have hn := dayNumber_next h
  simp only [dayNumber] at hn
  simp only [isoWeekday, Gregorian.isoWeekday, hn]
  omega

end Date

theorem TimeOfDay.secondOfDay_lt (t : TimeOfDay) : t.secondOfDay < 86400 := by
  have hh := t.hour_lt
  have hm := t.minute_lt
  have hs := t.second_lt
  unfold secondOfDay
  omega

theorem Zone.natAbs_offset_lt [ZoneLibrary] (zone : Zone) (now : Instant) :
    (zone.offset now).natAbs < 86400 := by
  cases zone with
  | utc => exact (by decide : (0 : Int).natAbs < 86400)
  | keyed key => exact ZoneLibrary.natAbs_offset_lt key now

/-- The date in a zone is the day in which the present falls when the offset is added. The first
and the last day of the calendar have no neighbour to fall in. -/
theorem Zone.dayNumber_dateAt [ZoneLibrary] (zone : Zone) {now : Instant}
    (hp : now.date.previous ≠ now.date) (hn : now.date.next ≠ now.date) :
    ((zone.dateAt now).dayNumber : Int) =
      (86400 * now.date.dayNumber + now.time.secondOfDay + zone.offset now) / 86400 := by
  have hday := now.time.secondOfDay_lt
  have hoffset := zone.natAbs_offset_lt now
  have hprevious := Date.dayNumber_previous hp
  have hnext := Date.dayNumber_next hn
  simp only [dateAt]
  split
  · omega
  · split
    · omega
    · omega

end Timex
