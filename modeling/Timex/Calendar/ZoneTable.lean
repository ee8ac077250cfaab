import Timex.Calendar.Zone

/-!
# Zone data

The library of zones built in: a few zones, kept as files in folders by their keys. A folder is
a package, and the file `__init__` in it, which makes it one, can be taken for a folder that is
not. A folder is not opened as a file, nor a file with too long a name.
-/

namespace Timex

/-- `summer` is one hour ahead of the standard offset from 7:00 UTC on the second
Sunday of March to 6:00 UTC on the first Sunday of November. Offsets are in minutes. -/
inductive OffsetRule where
  | constant (offset : Int)
  | summer (standard : Int)
  deriving DecidableEq, Repr

namespace OffsetRule

/-- The day of the month on which the n-th Sunday falls. -/
def nthSunday (year month n : Nat) : Nat :=
  8 - Gregorian.isoWeekday year month 1 + 7 * (n - 1)

def isSummer (now : Instant) : Bool :=
  let seconds := fun month day hour =>
    Gregorian.dayOfYear now.date.year month day * 86400 + hour * 3600
  let current := now.date.dayOfYear * 86400 + now.time.secondOfDay
  seconds 3 (nthSunday now.date.year 3 2) 7 ≤ current &&
    current < seconds 11 (nthSunday now.date.year 11 1) 6

/-- Minutes ahead of UTC. -/
def offset : OffsetRule → Instant → Int
  | .constant n, _ => n
  | .summer standard, now => if isSummer now then standard + 60 else standard

/-- The rule stays within a day of UTC. -/
def WithinDay : OffsetRule → Prop
  | .constant n => n.natAbs < 1440
  | .summer standard => standard.natAbs < 1440 ∧ (standard + 60).natAbs < 1440

instance : DecidablePred WithinDay
  | .constant n => inferInstanceAs (Decidable (n.natAbs < 1440))
  | .summer standard =>
    inferInstanceAs (Decidable (standard.natAbs < 1440 ∧ (standard + 60).natAbs < 1440))

theorem WithinDay.natAbs_offset_lt {rule : OffsetRule} (h : rule.WithinDay) (now : Instant) :
    (rule.offset now).natAbs < 1440 := by
  cases rule with
  | constant n => exact h
  | summer standard =>
    simp only [offset]
    split
    · exact h.2
    · exact h.1

end OffsetRule

namespace ZoneLibrary

def table : List (String × OffsetRule) :=
  [("UTC", .constant 0),
   ("GMT", .constant 0),
   ("Europe/Istanbul", .constant 180),
   ("Asia/Kolkata", .constant 330),
   ("Asia/Kathmandu", .constant 345),
   ("Pacific/Kiritimati", .constant 840),
   ("Etc/GMT-14", .constant 840),
   ("Etc/GMT+12", .constant (-720)),
   ("America/New_York", .summer (-300))]

/-- Keys are compared as they stand. -/
def rule? (key : Text) : Option OffsetRule :=
  (table.find? (·.1.toList = key)).map (·.2)

/-- The parts of a key in front of the last, for every key of the table. -/
def folders : List (List Text) := table.map fun entry => (Text.split '/' entry.1.toList).dropLast

/-- The parts of a key that stays below the folder of all zones. -/
def isProper (parts : List Text) : Bool :=
  parts.all fun part => !part.isEmpty && part != ['.'] && part != ['.', '.']

/-- The file that makes a folder a package. -/
def packageFile : Text := "__init__".toList

/-- The search for a key that is not in the table. -/
def breakOff? (key : Text) : Option ZoneError :=
  let parts := Text.split '/' key
  let folder := parts.dropLast
  let path := "tzdata/zoneinfo/".toList ++ key
  if !isProper parts then none
  else if folder.getLast? = some packageFile ∧ folders.contains folder.dropLast then
    some (.notPackage ("tzdata.zoneinfo.".toList ++ Text.join '.' folder))
  else if !folders.contains folder then none
  else if folders.contains parts then some (.file 21 "Is a directory" path)
  else if 255 < (String.ofList (parts.getLastD [])).utf8ByteSize then
    some (.file 36 "File name too long" path)
  else none

theorem withinDay_of_rule? {key : Text} {rule : OffsetRule} (h : rule? key = some rule) :
    rule.WithinDay := by
  have hall : ∀ entry ∈ table, entry.2.WithinDay := by decide
  obtain ⟨entry, hfind, rfl⟩ := Option.map_eq_some_iff.mp h
  exact hall entry (List.mem_of_find?_eq_some hfind)

instance builtIn : ZoneLibrary where
  knows key :=
    match rule? key, breakOff? key with
    | some _, _ => .ok true
    | none, some e => .error e
    | none, none => .ok false
  offset key now :=
    match rule? key with
    | some rule => 60 * rule.offset now
    | none => 0
  natAbs_offset_lt key now := by
    split
    · rename_i rule h
      have := (withinDay_of_rule? h).natAbs_offset_lt now
      omega
    · decide

end ZoneLibrary
end Timex
