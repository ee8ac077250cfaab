import Timex.Text.Basic

/-!
# Locales

The names and patterns by which a locale writes dates and times.
-/

namespace Timex

/-- The patterns of the four named styles. -/
structure Styles where
  short : String
  medium : String
  long : String
  full : String
  deriving DecidableEq, Repr

/-- The pattern of a named style; other text is a pattern itself. -/
def Styles.pattern (s : Styles) (format : Text) : Text :=
  if format = "short".toList then s.short.toList
  else if format = "medium".toList then s.medium.toList
  else if format = "long".toList then s.long.toList
  else if format = "full".toList then s.full.toList
  else format

structure Locale where
  identifier : String
  /-- Days of the week start on Monday. -/
  daysWide : Vector String 7
  daysAbbreviated : Vector String 7
  monthsWide : Vector String 12
  monthsAbbreviated : Vector String 12
  date : Styles
  time : Styles
  /-- For a year and a month. -/
  yearMonth : String
  /-- For a month and a day. -/
  monthDay : String
  /-- For a time in place 0 and a date in place 1. -/
  joining : String
  am : String
  pm : String
  /-- The name of universal time. -/
  utc : String
  deriving DecidableEq, Repr

namespace Locale

def datePattern (l : Locale) (format : Text) : Text := l.date.pattern format

def timePattern (l : Locale) (format : Text) : Text := l.time.pattern format

end Locale
end Timex
