import Timex.Granularity
import Timex.Resolution
import Timex.Temporal

/-!
# Spellings of calendar values

How a value is written as a token. A `Spelling` is a calendar value with the choices
that its form leaves open: a zero in front of an hour or a day, a mark for a day that is
unknown, a designator in front of a time. `text` writes it, `granularity` and `value` are
what a reader should find in it.
-/

namespace Timex.Token

/-- A number below 100 in two digits, or without the zero in front. -/
def shortNumber (padded : Bool) (n : Nat) : Text :=
  if padded then Text.zeroPadded 2 n else Text.decimal n

/-! ## Times -/

/-- An hour, perhaps with a minute, perhaps with a second after it. -/
inductive TimeSpelling where
  | hour (padded : Bool) (h : Fin 24)
  | minute (padded : Bool) (h : Fin 24) (m : Fin 60)
  | second (padded : Bool) (h : Fin 24) (m s : Fin 60)
  deriving DecidableEq, Repr

namespace TimeSpelling

def text : TimeSpelling → Text
  | .hour padded h => shortNumber padded h
  | .minute padded h m => shortNumber padded h ++ ':' :: Text.zeroPadded 2 m
  | .second padded h m s =>
    shortNumber padded h ++ ':' :: Text.zeroPadded 2 m ++ ':' :: Text.zeroPadded 2 s

def hasMinute : TimeSpelling → Bool
  | .hour .. => false
  | _ => true

/-- Sets the time of a value. An hour alone is a full hour. -/
def setOn (v : Temporal) : TimeSpelling → Temporal
  | .hour _ h =>
    { v with hour := some (h : Nat), minute := some 0, second := none, hadExplicitTime := true }
  | .minute _ h m =>
    { v with
      hour := some (h : Nat), minute := some (m : Nat), second := none, hadExplicitTime := true }
  | .second _ h m s =>
    { v with
      hour := some (h : Nat), minute := some (m : Nat), second := some (s : Nat)
      hadExplicitTime := true }

end TimeSpelling

/-- The time part of a token: nothing, or the designator and a time. -/
def timePart : Option TimeSpelling → Text
  | none => []
  | some t => 'T' :: t.text

def withTimePart (v : Temporal) : Option TimeSpelling → Temporal
  | none => v
  | some t => t.setOn v

/-! ## Parts of dates -/

structure YearMonth where
  year : Nat
  month : Nat
  year_bounds : 1 ≤ year ∧ year ≤ 9999
  month_bounds : 1 ≤ month ∧ month ≤ 12

/-- A month and a day that a leap year has. -/
structure MonthDay where
  month : Nat
  day : Nat
  month_bounds : 1 ≤ month ∧ month ≤ 12
  day_bounds : 1 ≤ day ∧ day ≤ Gregorian.monthLength 2000 month

/-! ## Tokens -/

inductive Spelling where
  | date (d : Date) (time : Option TimeSpelling)
  | yearMonth (ym : YearMonth) (dayMarked : Bool)
  | monthDay (md : MonthDay) (time : Option TimeSpelling)
  /-- January is 0. -/
  | month (m : Fin 12) (dayMarked : Bool)
  /-- The first day is 0. -/
  | dayOfMonth (padded : Bool) (d : Fin 31)
  /-- Monday is 0. -/
  | weekday (e : Fin 7) (time : Option TimeSpelling)
  | timeAlone (t : TimeSpelling)
  /-- Without the designator, which only a time with minutes can do without. -/
  | bareTime (t : TimeSpelling) (h : t.hasMinute = true)

namespace Spelling

def dayMarkIf (marked : Bool) : Text := if marked then Resolution.dayMark else []

def text : Spelling → Text
  | .date d time => d.iso ++ timePart time
  | .yearMonth ym marked =>
    Text.zeroPadded 4 ym.year ++ '-' :: Text.zeroPadded 2 ym.month ++ dayMarkIf marked
  | .monthDay md time =>
    Resolution.yearMark ++ Text.zeroPadded 2 md.month ++ '-' :: Text.zeroPadded 2 md.day ++
      timePart time
  | .month m marked => Resolution.yearMark ++ Text.zeroPadded 2 (m + 1) ++ dayMarkIf marked
  | .dayOfMonth padded d => Resolution.yearMonthMark ++ shortNumber padded (d + 1)
  | .weekday e time => Resolution.weekMark ++ Text.decimal (e + 1) ++ timePart time
  | .timeAlone t => timePart (some t)
  | .bareTime t _ => t.text

def granularity : Spelling → Granularity
  | .date _ none => .dateOnly
  | .date _ (some _) | .monthDay _ (some _) => .fullDateTime
  | .yearMonth .. => .yearMonth
  | .monthDay _ none => .monthDay
  | .month .. => .monthOnly
  | .dayOfMonth .. => .dayOfMonth
  | .weekday .. => .weekdayOnly
  | .timeAlone _ | .bareTime .. => .timeOnly

/-- The value of a full date, whose weekday is known. -/
def ofDate (d : Date) : Temporal :=
  { Temporal.empty with
    year := some (d.year : Int), month := some (d.month : Int), day := some (d.day : Int)
    weekday := some (d.isoWeekday : Int) }

def value : Spelling → Temporal
  | .date d time => withTimePart (ofDate d) time
  | .yearMonth ym _ =>
    { Temporal.empty with year := some (ym.year : Int), month := some (ym.month : Int) }
  | .monthDay md time =>
    withTimePart
      { Temporal.empty with month := some (md.month : Int), day := some (md.day : Int) } time
  | .month m _ => { Temporal.empty with month := some ((m : Nat) + 1 : Int) }
  | .dayOfMonth _ d => { Temporal.empty with day := some ((d : Nat) + 1 : Int) }
  | .weekday e time =>
    withTimePart { Temporal.empty with weekday := some ((e : Nat) + 1 : Int) } time
  | .timeAlone t | .bareTime t _ => t.setOn Temporal.empty

end Spelling
end Timex.Token
