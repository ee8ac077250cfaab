import Timex.Calendar.Error
import Timex.Calendar.Gregorian

/-!
# Calendar dates

A date of the years 1 to 9999. `Date.ofNumbers` accepts exactly the numbers of such
a date and names the first part that is out of range.
-/

namespace Timex

structure Date where
  year : Nat
  month : Nat
  day : Nat
  year_bounds : 1 ≤ year ∧ year ≤ 9999
  month_bounds : 1 ≤ month ∧ month ≤ 12
  day_bounds : 1 ≤ day ∧ day ≤ Gregorian.monthLength year month
  deriving DecidableEq

namespace Date

/-- The date with these numbers. All three have to fit in 32 bits before any is
compared with its range. -/
def ofNumbers (year month day : Int) : Except CalendarError Date := do
  checkWords [year, month, day]
  if hy : 1 ≤ year ∧ year ≤ 9999 then
    if hm : 1 ≤ month ∧ month ≤ 12 then
      if hd : 1 ≤ day ∧ day ≤ Gregorian.monthLength year.toNat month.toNat then
        return ⟨year.toNat, month.toNat, day.toNat, by omega, by omega, by omega⟩
      else throw .day
    else throw .month
  else throw (.year year)

theorem ofNumbers_self (d : Date) : ofNumbers d.year d.month d.day = .ok d := by
  have hy := d.year_bounds
  have hm := d.month_bounds
  have hd := d.day_bounds
  have hl := Gregorian.monthLength_bounds d.year d.month
  have hw : checkWords [(d.year : Int), (d.month : Int), (d.day : Int)] = .ok () := by
    apply checkWords_eq_ok
    simp only [List.mem_cons, List.not_mem_nil, or_false]
    rintro n (rfl | rfl | rfl) <;> omega
  unfold ofNumbers
  rw [hw]
  simp only [bind, Except.bind, Int.toNat_natCast]
  rw [dif_pos (by omega), dif_pos (by omega), dif_pos (by omega)]
  rfl

/-- Monday is 1 and Sunday is 7. -/
def isoWeekday (d : Date) : Nat := Gregorian.isoWeekday d.year d.month d.day

def dayOfYear (d : Date) : Nat := Gregorian.dayOfYear d.year d.month d.day

def dayNumber (d : Date) : Nat := Gregorian.dayNumber d.year d.month d.day

def quarter (d : Date) : Nat := (d.month - 1) / 3 + 1

/-- Which occurrence of its weekday the date is in its month. -/
def weekdayOrdinal (d : Date) : Nat := (d.day - 1) / 7 + 1

/-- The next day. The last date of the calendar has none and stays. -/
def next (d : Date) : Date :=
  if h : d.day + 1 ≤ Gregorian.monthLength d.year d.month then
    { d with day := d.day + 1, day_bounds := ⟨by omega, h⟩ }
  else if h : d.month + 1 ≤ 12 then
    { d with
      month := d.month + 1, day := 1, month_bounds := ⟨by omega, h⟩
      day_bounds := by have := Gregorian.monthLength_bounds d.year (d.month + 1); omega }
  else if h : d.year + 1 ≤ 9999 then
    { year := d.year + 1, month := 1, day := 1, year_bounds := ⟨by omega, h⟩
      month_bounds := by omega
      day_bounds := by have := Gregorian.monthLength_bounds (d.year + 1) 1; omega }
  else d

/-- The day before. The first date of the calendar has none and stays. -/
def previous (d : Date) : Date :=
  if h : 1 ≤ d.day - 1 then
    { d with day := d.day - 1, day_bounds := by have := d.day_bounds; omega }
  else if h : 1 ≤ d.month - 1 then
    { d with
      month := d.month - 1, day := Gregorian.monthLength d.year (d.month - 1)
      month_bounds := by have := d.month_bounds; omega
      day_bounds := by have := Gregorian.monthLength_bounds d.year (d.month - 1); omega }
  else if h : 1 ≤ d.year - 1 then
    { year := d.year - 1, month := 12, day := 31
      year_bounds := by have := d.year_bounds; omega
      month_bounds := by omega
      day_bounds := by simp [Gregorian.monthLength] }
  else d

/-- Four digits of the year, two of the month, two of the day. -/
def iso (d : Date) : Text :=
  Text.zeroPadded 4 d.year ++ '-' :: Text.zeroPadded 2 d.month ++ '-' :: Text.zeroPadded 2 d.day

end Date
end Timex
