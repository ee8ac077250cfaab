import Timex.Calendar.Date
import Timex.Calendar.TimeOfDay
import Timex.DatePattern.Basic
import Timex.Locale.Basic
import Timex.Text.Quoted

/-!
# Formatting by a date pattern

The lengths of all fields are checked first. Then the fields are written from left to
right, and the first one that asks for a part which the subject lacks fails.
-/

namespace Timex

/-- What a field may ask of a subject. -/
inductive SubjectPart where
  | year
  | month
  | day
  | weekday
  | dayOfYear
  | hour
  | minute
  | second
  | microsecond
  deriving DecidableEq, Repr

namespace SubjectPart

def name : SubjectPart → String
  | .year => "year"
  | .month => "month"
  | .day => "day"
  | .weekday => "weekday"
  | .dayOfYear => "month"
  | .hour => "hour"
  | .minute => "minute"
  | .second => "second"
  | .microsecond => "microsecond"

/-- Whether the part belongs to a date. -/
def ofDate : SubjectPart → Bool
  | .year | .month | .day | .weekday | .dayOfYear => true
  | _ => false

end SubjectPart

inductive PatternError where
  | badLength (letter : Char) (count : Nat)
  /-- A date has no time, or a time no date. -/
  | lacks (part : SubjectPart)
  /-- A field that the library does not write. -/
  | unsupported (letter : Char) (count : Nat)
  deriving DecidableEq, Repr

namespace PatternError

def message : PatternError → Text
  | .badLength letter count =>
    "Invalid length for field: ".toList ++ Text.quoted (List.replicate count letter)
  | .lacks .dayOfYear => "'month' is an invalid keyword argument for replace()".toList
  | .lacks part =>
    (if part.ofDate then "'datetime.time'" else "'datetime.date'").toList ++
      " object has no attribute ".toList ++ Text.quoted part.name.toList
  | .unsupported letter count =>
    "Unsupported date/time field ".toList ++ Text.quoted (List.replicate count letter)

end PatternError

/-- A date, a time, or both. -/
structure Subject where
  date : Option Date
  time : Option TimeOfDay
  deriving DecidableEq

namespace Subject

def ofDate (d : Date) : Subject := ⟨some d, none⟩

def ofTime (t : TimeOfDay) : Subject := ⟨none, some t⟩

/-- A date at midnight. -/
def atMidnight (d : Date) : Subject := ⟨some d, some TimeOfDay.midnight⟩

def dateFor (s : Subject) (part : SubjectPart) : Except PatternError Date :=
  match s.date with
  | some d => .ok d
  | none => .error (.lacks part)

def timeFor (s : Subject) (part : SubjectPart) : Except PatternError TimeOfDay :=
  match s.time with
  | some t => .ok t
  | none => .error (.lacks part)

end Subject

namespace Locale

def weekdayAbbreviated (l : Locale) (d : Date) : Text :=
  have : d.isoWeekday - 1 < 7 := by
    have := Gregorian.isoWeekday_bounds d.year d.month d.day
    unfold Date.isoWeekday
    omega
  l.daysAbbreviated[d.isoWeekday - 1].toList

def weekdayWide (l : Locale) (d : Date) : Text :=
  have : d.isoWeekday - 1 < 7 := by
    have := Gregorian.isoWeekday_bounds d.year d.month d.day
    unfold Date.isoWeekday
    omega
  l.daysWide[d.isoWeekday - 1].toList

def monthAbbreviated (l : Locale) (d : Date) : Text :=
  have : d.month - 1 < 12 := by
    have := d.month_bounds
    omega
  l.monthsAbbreviated[d.month - 1].toList

def monthWide (l : Locale) (d : Date) : Text :=
  have : d.month - 1 < 12 := by
    have := d.month_bounds
    omega
  l.monthsWide[d.month - 1].toList

/-- The half of the day. -/
def dayPeriod (l : Locale) (t : TimeOfDay) : Text :=
  if 12 ≤ t.hour then l.pm.toList else l.am.toList

end Locale

namespace DatePattern

/-- The last two characters. -/
def lastTwo (t : Text) : Text := t.drop (t.length - 2)

def formatYear (count year : Nat) : Text :=
  let digits := Text.zeroPadded count year
  if count = 2 then lastTwo digits else digits

/-- Hours 1 to 12. -/
def hour12 (hour : Nat) : Nat := if hour % 12 = 0 then 12 else hour % 12

/-- Hours 1 to 24. -/
def hour24 (hour : Nat) : Nat := if hour = 0 then 24 else hour

def formatField (l : Locale) (s : Subject) (letter : Char) (count : Nat) :
    Except PatternError Text :=
  match letter with
  | 'y' => do return formatYear count (← s.dateFor .year).year
  | 'M' => do
    let d ← s.dateFor .month
    if count ≤ 2 then return Text.zeroPadded count d.month
    else if count = 3 then return l.monthAbbreviated d
    else if count = 4 then return l.monthWide d
    else throw (.unsupported letter count)
  | 'd' => do return Text.zeroPadded count (← s.dateFor .day).day
  | 'D' => do return Text.zeroPadded count (← s.dateFor .dayOfYear).dayOfYear
  | 'F' => do return Text.decimal (← s.dateFor .day).weekdayOrdinal
  | 'E' => do
    let d ← s.dateFor .weekday
    if count ≤ 3 then return l.weekdayAbbreviated d
    else if count = 4 then return l.weekdayWide d
    else throw (.unsupported letter count)
  | 'Q' => do
    let d ← s.dateFor .month
    if count ≤ 2 then return Text.zeroPadded count d.quarter
    else throw (.unsupported letter count)
  | 'H' => do return Text.zeroPadded count (← s.timeFor .hour).hour
  | 'h' => do return Text.zeroPadded count (hour12 (← s.timeFor .hour).hour)
  | 'K' => do return Text.zeroPadded count ((← s.timeFor .hour).hour % 12)
  | 'k' => do return Text.zeroPadded count (hour24 (← s.timeFor .hour).hour)
  | 'm' => do return Text.zeroPadded count (← s.timeFor .minute).minute
  | 's' => do return Text.zeroPadded count (← s.timeFor .second).second
  | 'S' => do
    let _ ← s.timeFor .microsecond
    return List.replicate count '0'
  | 'a' => do
    let t ← s.timeFor .hour
    if count ≤ 4 then return l.dayPeriod t else throw (.unsupported letter count)
  -- Times are at UTC.
  | 'z' =>
    match s.time with
    | some _ => return (if count ≤ 3 then "UTC" else l.utc).toList
    | none => throw (.unsupported letter count)
  | _ => .error (.unsupported letter count)

/-- Refuses the first field of a length that its letter does not have. -/
def checkLengths : List Piece → Except PatternError Unit
  | [] => .ok ()
  | .literal _ :: rest => checkLengths rest
  | .field letter count :: rest =>
    match fieldLengths letter with
    | some lengths => if lengths.allows count then checkLengths rest else .error (.badLength letter count)
    | none => checkLengths rest

def formatPieces (l : Locale) (s : Subject) : List Piece → Except PatternError Text
  | [] => .ok []
  | .literal c :: rest => do return c :: (← formatPieces l s rest)
  | .field letter count :: rest => do
    let t ← formatField l s letter count
    return t ++ (← formatPieces l s rest)

/-- The subject as the pattern writes it. -/
def format (l : Locale) (pattern : Text) (s : Subject) : Except PatternError Text := do
  let ps := pieces pattern
  checkLengths ps
  formatPieces l s ps

end DatePattern
end Timex
