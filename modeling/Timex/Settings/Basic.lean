import Timex.Text.Blank
import Timex.Value.Display

/-!
# Settings

How values are shown, and the zone of the clock. The environment gives a setting only
if it is not blank, and without the blanks around it. A mapping gives the text of
whatever value stands under the name.
-/

namespace Timex

structure Settings where
  locale : Text
  dateFormat : Text
  timeFormat : Text
  timezone : Text
  deriving DecidableEq, Repr

namespace Settings

def default : Settings where
  locale := "en_US".toList
  dateFormat := "short".toList
  timeFormat := "HH:mm".toList
  timezone := "UTC".toList

/-- Variables and their values. -/
abbrev Environment := List (Text × Text)

/-- A variable without the blanks around it, or what stands in for a blank one. -/
def variableOr (env : Environment) (name : String) (standIn : Text) : Text :=
  let value := Text.trim ((env.lookup name.toList).getD standIn)
  if value.isEmpty then standIn else value

def ofEnvironment (env : Environment) : Settings where
  locale := variableOr env "TIMEXNORM_LOCALE" default.locale
  dateFormat := variableOr env "TIMEXNORM_DATE_FORMAT" default.dateFormat
  timeFormat := variableOr env "TIMEXNORM_TIME_FORMAT" default.timeFormat
  timezone := variableOr env "TIMEXNORM_TIMEZONE" default.timezone

/-- The names of the settings in a mapping. -/
def names : List String := ["locale", "date_format", "time_format", "timezone"]

/-- The text of the value under a name, or what stands in for an absent one. -/
def entryOr (entries : List (Value × Value)) (name : String) (standIn : Text) : Text :=
  match Value.get? entries name.toList with
  | some value => value.display
  | none => standIn

def ofMapping (entries : List (Value × Value)) : Settings where
  locale := entryOr entries "locale" default.locale
  dateFormat := entryOr entries "date_format" default.dateFormat
  timeFormat := entryOr entries "time_format" default.timeFormat
  timezone := entryOr entries "timezone" default.timezone

end Settings
end Timex
