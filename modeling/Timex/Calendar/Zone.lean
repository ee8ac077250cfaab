import Timex.Calendar.Date
import Timex.Calendar.TimeOfDay
import Timex.Text.Quoted

/-!
# Time zones

An instant is a date and a time of day at UTC. Which zones there are, and how far each is
ahead of UTC at an instant, is told by a library of zones. It finds a zone by its key, or finds
that there is none, or its search breaks off.
-/

namespace Timex

structure Instant where
  date : Date
  time : TimeOfDay
  deriving DecidableEq

/-- UTC itself, or a zone of the library. -/
inductive Zone where
  | utc
  | keyed (key : Text)
  deriving DecidableEq, Repr

/-- What breaks off the search for a zone. -/
inductive ZoneError where
  /-- The key leads through a module, which is not a package of zones. -/
  | notPackage (module : Text)
  /-- The system does not open the file that the key leads to. -/
  | file (number : Nat) (reason : String) (path : Text)
  deriving DecidableEq, Repr

def ZoneError.message : ZoneError → Text
  | .notPackage module => Text.quoted module ++ " is not a package".toList
  | .file number reason path =>
    "[Errno ".toList ++ Text.decimal number ++ "] ".toList ++ reason.toList ++ ": ".toList ++
      Text.quoted path

class ZoneLibrary where
  /-- Whether there is a zone with the key. -/
  knows : Text → Except ZoneError Bool
  /-- Seconds ahead of UTC. -/
  offset : Text → Instant → Int
  natAbs_offset_lt : ∀ key now, (offset key now).natAbs < 86400

namespace Zone

def name : Zone → Text
  | .utc => "UTC".toList
  | .keyed key => key

/-- Seconds ahead of UTC. -/
def offset [ZoneLibrary] : Zone → Instant → Int
  | .utc, _ => 0
  | .keyed key, now => ZoneLibrary.offset key now

/-- The date in the zone. -/
def dateAt [ZoneLibrary] (zone : Zone) (now : Instant) : Date :=
  let seconds := (now.time.secondOfDay : Int) + zone.offset now
  if seconds < 0 then now.date.previous
  else if 86400 ≤ seconds then now.date.next
  else now.date

end Zone

/-- A zone as settings name it. -/
structure ZoneChoice where
  zone : Zone
  /-- A name was given and no zone has it. -/
  unknown : Bool
  deriving DecidableEq, Repr

/-- UTC stands in where no zone, or an unknown one, is named. -/
def ZoneChoice.ofName [ZoneLibrary] : Option Text → Except ZoneError ZoneChoice
  | none => return ⟨.utc, false⟩
  | some name => do
    if ← ZoneLibrary.knows name then return ⟨.keyed name, false⟩ else return ⟨.utc, true⟩

end Timex
