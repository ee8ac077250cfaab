import Timex.Facet
import Timex.Locale.Library
import Timex.Pattern
import Timex.Settings.Basic
import Timex.Temporal

/-!
# Presentation

One facet of a value as text, in the locale and the formats of the settings, by a library
of locales. A value without an explicit time never shows a time of day. A value that lacks
what its facet needs is out of range; numbers that make no date, and settings that name no
locale or no pattern, break off otherwise.
-/

namespace Timex

/-- A field, or the date as a whole. -/
inductive Gap where
  | field (f : Field)
  | wholeDate
  deriving DecidableEq, Repr

def Gap.name : Gap → String
  | .field f => f.name
  | .wholeDate => "date"

/-- The facet asked for, the field that fails it, and the value of that field. -/
structure OutOfRange where
  gap : Gap
  value : Option Int
  facet : Facet
  deriving DecidableEq, Repr

/-- What breaks off a presentation for other reasons than the value's fields. -/
inductive Breach where
  | calendar (e : CalendarError)
  | locale (e : LocaleError)
  | pattern (e : PatternError)
  deriving DecidableEq, Repr

def Breach.message : Breach → Text
  | .calendar e => e.message
  | .locale e => e.message
  | .pattern e => e.message

inductive PresentationError where
  | outOfRange (e : OutOfRange)
  | breach (b : Breach)
  deriving DecidableEq, Repr

abbrev Presented := Except PresentationError Text

namespace Presentation

def fromCalendar : Except CalendarError α → Except PresentationError α :=
  Except.mapError fun e => .breach (.calendar e)

def fromLocale : Except LocaleError α → Except PresentationError α :=
  Except.mapError fun e => .breach (.locale e)

def format [LocaleLibrary] (l : Locale) (pattern : Text) (s : Subject) : Presented :=
  (LocaleLibrary.format l pattern s).mapError fun e => .breach (.pattern e)

/-! ## Names and numbers -/

theorem weekday_place_lt {w : Int} (h : 1 ≤ w ∧ w ≤ 7) : (w - 1).toNat < 7 := by omega

theorem month_place_lt {m : Int} (h : 1 ≤ m ∧ m ≤ 12) : (m - 1).toNat < 12 := by omega

/-- The wide name of an ISO weekday. -/
def weekdayName [LocaleLibrary] (tag : Text) (weekday : Option Int) : Presented :=
  match weekday with
  | some w =>
    if h : 1 ≤ w ∧ w ≤ 7 then do
      let l ← fromLocale (LocaleLibrary.named tag)
      have := weekday_place_lt h
      return l.daysWide[(w - 1).toNat].toList
    else .error (.outOfRange ⟨.field .weekday, some w, .weekdayName⟩)
  | none => .error (.outOfRange ⟨.field .weekday, none, .weekdayName⟩)

/-- The wide name of a month. -/
def monthName [LocaleLibrary] (tag : Text) (month : Option Int) : Presented :=
  match month with
  | some m =>
    if h : 1 ≤ m ∧ m ≤ 12 then do
      let l ← fromLocale (LocaleLibrary.named tag)
      have := month_place_lt h
      return l.monthsWide[(m - 1).toNat].toList
    else .error (.outOfRange ⟨.field .month, some m, .monthName⟩)
  | none => .error (.outOfRange ⟨.field .month, none, .monthName⟩)

/-- The day in two digits. -/
def zeroPaddedDay (day : Option Int) : Presented :=
  match day with
  | some d =>
    if 1 ≤ d ∧ d ≤ 31 then .ok (Text.zeroPadded 2 d.toNat)
    else .error (.outOfRange ⟨.field .day, some d, .zeroPaddedDay⟩)
  | none => .error (.outOfRange ⟨.field .day, none, .zeroPaddedDay⟩)

/-! ## Localized texts -/

/-- The first of a month or a day, at midnight. -/
def skeleton [LocaleLibrary] (s : Settings) (pattern : Locale → String) (year month day : Int) :
    Presented := do
  let date ← fromCalendar (Date.ofNumbers year month day)
  let l ← fromLocale (LocaleLibrary.forText s.locale)
  format l (pattern l).toList (Subject.atMidnight date)

/-- The text of a full date, or of a year and a month; `none` for other values. -/
def dateText? [LocaleLibrary] (s : Settings) (v : Temporal) : Option Presented :=
  match v.year, v.month, v.day with
  | some _, some _, some _ => some do
    let date ← fromCalendar v.toDate
    let l ← fromLocale (LocaleLibrary.forText s.locale)
    format l (l.datePattern s.dateFormat) (Subject.ofDate date)
  | some y, some m, none => some (skeleton s Locale.yearMonth y m 1)
  | _, _, _ => none

/-- The text of the time; `none` for a value without an explicit time. -/
def timeText? [LocaleLibrary] (s : Settings) (v : Temporal) : Option Presented :=
  match v.hadExplicitTime, v.hour with
  | true, some _ => some do
    let time ← fromCalendar v.toTime
    let l ← fromLocale (LocaleLibrary.forText s.locale)
    format l (l.timePattern s.timeFormat) (Subject.ofTime time)
  | _, _ => none

/-- What keeps a value from being a date that can be shown. -/
def missingDateField (v : Temporal) : Gap :=
  match v.year, v.month, v.day with
  | none, none, none => .wholeDate
  | none, _, _ => .field .year
  | some _, none, _ => .field .month
  | some _, some _, none => .field .day
  | some _, some _, some _ => .wholeDate

def localizedDate [LocaleLibrary] (s : Settings) (v : Temporal) : Presented :=
  match dateText? s v with
  | some text => text
  | none => .error (.outOfRange ⟨missingDateField v, none, .localizedDate⟩)

/-- The year in which a month and a day without a year are shown. -/
def leapYear : Int := 2000

def localizedDateWithoutYear [LocaleLibrary] (s : Settings) (v : Temporal) : Presented :=
  match v.month, v.day with
  | none, _ => .error (.outOfRange ⟨.field .month, none, .localizedDateWithoutYear⟩)
  | some _, none => .error (.outOfRange ⟨.field .day, none, .localizedDateWithoutYear⟩)
  | some m, some d => skeleton s Locale.monthDay leapYear m d

def timePlace : Text := ['\x7b', '0', '\x7d']

def datePlace : Text := ['\x7b', '1', '\x7d']

/-- Puts the time, then the date, into the places of a joining pattern. Apostrophes
of the pattern are dropped. -/
def joinTexts (pattern date time : Text) : Text :=
  let places := pattern.filter (· ≠ '\x27')
  Text.replaceAll datePlace date (Text.replaceAll timePlace time places)

def localizedDateTime [LocaleLibrary] (s : Settings) (v : Temporal) : Presented := do
  let date ← match dateText? s v with
    | some text => some <$> text
    | none =>
      if v.weekday.isSome then some <$> weekdayName s.locale v.weekday else pure none
  let time ← match timeText? s v with
    | some text => some <$> text
    | none => pure none
  match date, time with
  | none, none => throw (.outOfRange ⟨missingDateField v, none, .localizedDateTime⟩)
  | some date, none => return date
  | none, some time => return time
  | some date, some time =>
    let l ← fromLocale (LocaleLibrary.forText s.locale)
    return joinTexts l.joining.toList date time

def localizedTime [LocaleLibrary] (s : Settings) (v : Temporal) : Presented :=
  match timeText? s v with
  | some text => text
  | none => .error (.outOfRange ⟨.field .hour, v.hour, .localizedTime⟩)

end Presentation

open Presentation in
/-- A facet of a value as text. -/
def present [LocaleLibrary] (s : Settings) (facet : Facet) (v : Temporal) : Presented :=
  match facet with
  | .weekdayName => weekdayName s.locale v.weekday
  | .monthName => monthName s.locale v.month
  | .zeroPaddedDay => zeroPaddedDay v.day
  | .localizedDate => localizedDate s v
  | .localizedDateTime => localizedDateTime s v
  | .localizedDateWithoutYear => localizedDateWithoutYear s v
  | .localizedTime => localizedTime s v

end Timex
