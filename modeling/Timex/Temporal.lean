import Timex.Calendar.Date
import Timex.Calendar.TimeOfDay

/-!
# Temporal values

What a token says: any of seven numbers, each present or absent, and whether the
token had a time part. The type admits every integer; `WellFormed` holds of the
values that stand for something in the calendar.
-/

namespace Timex

structure Temporal where
  year : Option Int
  month : Option Int
  day : Option Int
  /-- Monday is 1 and Sunday is 7. -/
  weekday : Option Int
  hour : Option Int
  minute : Option Int
  second : Option Int
  hadExplicitTime : Bool
  deriving DecidableEq, Repr

namespace Temporal

def empty : Temporal := ⟨none, none, none, none, none, none, none, false⟩

def hasFullDate (v : Temporal) : Bool :=
  v.year.isSome && v.month.isSome && v.day.isSome

def toDate (v : Temporal) : Except CalendarError Date :=
  match v.year, v.month, v.day with
  | some y, some m, some d => Date.ofNumbers y m d
  | _, _, _ => .error .incompleteDate

/-- The time of day. An absent minute or second is zero. -/
def toTime (v : Temporal) : Except CalendarError TimeOfDay :=
  match v.hadExplicitTime, v.hour with
  | true, some h => TimeOfDay.ofNumbers h (v.minute.getD 0) (v.second.getD 0)
  | _, _ => .error .noExplicitTime

/-- The value with the time of another, if that one has a time. -/
def withTime (v other : Temporal) : Temporal :=
  if other.hadExplicitTime then
    { v with
      hour := other.hour, minute := other.minute, second := other.second
      hadExplicitTime := true }
  else v

@[simp] theorem withTime_of_timeless {v other : Temporal} (h : other.hadExplicitTime = false) :
    v.withTime other = v := by
  simp [withTime, h]

/-! ## Well-formed values -/

/-- The year whose month lengths count: the value's own, or else a leap year. -/
def referenceYear (v : Temporal) : Int := v.year.getD 2000

/-- Calendar bounds on every number, and the numbers that go together: a year with a
month, a second with a minute, an hour with an explicit time. A full date determines
the weekday; beside a part of a date there is none. -/
structure WellFormed (v : Temporal) : Prop where
  year_bounds : ∀ y, v.year = some y → 1 ≤ y ∧ y ≤ 9999
  month_bounds : ∀ m, v.month = some m → 1 ≤ m ∧ m ≤ 12
  month_of_year : v.year.isSome → v.month.isSome
  day_bounds : ∀ d, v.day = some d → 1 ≤ d ∧ d ≤ 31
  day_le_monthLength : ∀ m d, v.month = some m → v.day = some d →
    d ≤ Gregorian.monthLength v.referenceYear.toNat m.toNat
  weekday_of_date : ∀ y m d, v.year = some y → v.month = some m → v.day = some d →
    v.weekday = some (Gregorian.isoWeekday y.toNat m.toNat d.toNat)
  weekday_alone : ¬ v.hasFullDate → v.weekday.isSome →
    v.year = none ∧ v.month = none ∧ v.day = none
  weekday_bounds : ∀ w, v.weekday = some w → 1 ≤ w ∧ w ≤ 7
  hour_iff : v.hour.isSome ↔ v.hadExplicitTime
  hour_bounds : ∀ h, v.hour = some h → 0 ≤ h ∧ h ≤ 23
  minute_bounds : ∀ m, v.minute = some m → 0 ≤ m ∧ m ≤ 59
  second_bounds : ∀ s, v.second = some s → 0 ≤ s ∧ s ≤ 59
  minute_of_second : v.second.isSome → v.minute.isSome

end Temporal
end Timex
