/-!
# Facets

The calendar facts that a value can be asked to show.
-/

namespace Timex

inductive Facet where
  | weekdayName
  | monthName
  | zeroPaddedDay
  | localizedDate
  | localizedDateTime
  | localizedDateWithoutYear
  | localizedTime
  deriving DecidableEq, Repr

namespace Facet

def name : Facet → String
  | .weekdayName => "weekday_name"
  | .monthName => "month_name"
  | .zeroPaddedDay => "zero_padded_day"
  | .localizedDate => "localized_date"
  | .localizedDateTime => "localized_date_time"
  | .localizedDateWithoutYear => "localized_date_without_year"
  | .localizedTime => "localized_time"

def all : List Facet :=
  [.weekdayName, .monthName, .zeroPaddedDay, .localizedDate, .localizedDateTime,
   .localizedDateWithoutYear, .localizedTime]

/-- Whether an unknown year is filled from the clock: the facet shows a year. -/
def needsFullDate : Facet → Bool
  | .localizedDate | .localizedDateTime => true
  | _ => false

end Facet
end Timex
