/-!
# The proleptic Gregorian calendar

Leap years, month lengths and the count of days from 1 January of the year 1,
which is day 1 and a Monday.
-/

namespace Timex.Gregorian

def isLeap (year : Nat) : Bool :=
  year % 4 == 0 && (year % 100 != 0 || year % 400 == 0)

def monthLength (year month : Nat) : Nat :=
  match month with
  | 2 => if isLeap year then 29 else 28
  | 4 | 6 | 9 | 11 => 30
  | _ => 31

/-- The days of the years before a year. -/
def daysBeforeYear (year : Nat) : Nat :=
  let past := year - 1
  past * 365 + past / 4 - past / 100 + past / 400

/-- The days of the months before a month of a year. -/
def daysBeforeMonth (year : Nat) : Nat → Nat
  | 0 | 1 => 0
  | month + 2 => daysBeforeMonth year (month + 1) + monthLength year (month + 1)

def dayOfYear (year month day : Nat) : Nat := daysBeforeMonth year month + day

/-- The days up to and including a date. -/
def dayNumber (year month day : Nat) : Nat := daysBeforeYear year + dayOfYear year month day

/-- Monday is 1 and Sunday is 7. -/
def isoWeekday (year month day : Nat) : Nat := (dayNumber year month day + 6) % 7 + 1

theorem monthLength_bounds (year month : Nat) :
    28 ≤ monthLength year month ∧ monthLength year month ≤ 31 := by
  unfold monthLength
  split <;> (try split) <;> omega

/-- A leap year has the longest form of every month. -/
theorem monthLength_le_of_isLeap {leap : Nat} (h : isLeap leap = true) (year month : Nat) :
    monthLength year month ≤ monthLength leap month := by
  unfold monthLength
  split <;> (try simp only [h]) <;> (try split) <;> simp

theorem isoWeekday_bounds (year month day : Nat) :
    1 ≤ isoWeekday year month day ∧ isoWeekday year month day ≤ 7 := by
  unfold isoWeekday
  omega

end Timex.Gregorian
