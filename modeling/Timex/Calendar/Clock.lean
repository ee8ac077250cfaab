import Timex.Calendar.Zone

/-!
# Clocks

A clock tells today's date. A fixed clock always tells the same one; a system clock
tells the date in its zone at the present instant, which its reader supplies.
-/

namespace Timex

inductive Clock where
  | fixed (date : Date)
  | system (zone : Zone)
  deriving DecidableEq

namespace Clock

/-- The system clock of a named zone, or of UTC if no zone has the name. -/
def ofZoneName [ZoneLibrary] (name : Text) : Except ZoneError Clock := do
  return .system (← ZoneChoice.ofName (some name)).zone

def today [ZoneLibrary] : Clock → Instant → Date
  | .fixed date, _ => date
  | .system zone, now => zone.dateAt now

def describe : Clock → Text
  | .fixed date => "FixedClock(".toList ++ date.iso ++ ")".toList
  | .system zone => "SystemClock(tz=".toList ++ zone.name ++ ")".toList

end Clock
end Timex
