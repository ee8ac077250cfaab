import Timex.Number.Shortest
import Timex.Text.Quoted
import Timex.Value.Basic

/-!
# Values as text

`Value.quoted` is the text of a value inside another one, with quotes around text;
`Value.display` is the text of a value by itself.
-/

namespace Timex

/-- Texts with a comma and a space between them. -/
def commaSeparated : List Text → Text
  | [] => []
  | [t] => t
  | t :: ts => t ++ ',' :: ' ' :: commaSeparated ts

namespace Moment

def fractionText (microsecond : Nat) : Text :=
  if microsecond = 0 then [] else '.' :: Text.zeroPadded 6 microsecond

/-- A sign, two digits of hours, a colon, two digits of minutes. -/
def offsetText (minutes : Int) : Text :=
  (if minutes < 0 then '-' else '+') :: Text.zeroPadded 2 (minutes.natAbs / 60) ++
    ':' :: Text.zeroPadded 2 (minutes.natAbs % 60)

def display (m : Moment) : Text :=
  m.date.iso ++ ' ' :: m.time.iso ++ fractionText m.microsecond ++
    match m.offset with
    | some minutes => offsetText minutes
    | none => []

/-- The days and the seconds of a span of minutes, the seconds never negative. -/
def spanText (minutes : Int) : Text :=
  let days := minutes.fdiv 1440
  let seconds := minutes.fmod 1440 * 60
  let parts :=
    (if days = 0 then [] else ["days=".toList ++ Text.integer days]) ++
      (if seconds = 0 then [] else ["seconds=".toList ++ Text.integer seconds])
  "datetime.timedelta(".toList ++
    (if parts.isEmpty then ['0'] else commaSeparated parts) ++ [')']

def zoneText (minutes : Int) : Text :=
  if minutes = 0 then "datetime.timezone.utc".toList
  else "datetime.timezone(".toList ++ spanText minutes ++ [')']

/-- The numbers of the time, without seconds and smaller parts that are zero. -/
def timeParts (m : Moment) : List Nat :=
  [m.time.hour, m.time.minute] ++
    if m.microsecond ≠ 0 then [m.time.second, m.microsecond]
    else if m.time.second ≠ 0 then [m.time.second]
    else []

def quoted (m : Moment) : Text :=
  let numbers := [m.date.year, m.date.month, m.date.day] ++ m.timeParts
  "datetime.datetime(".toList ++ commaSeparated (numbers.map Text.decimal ++
    match m.offset with
    | some minutes => ["tzinfo=".toList ++ zoneText minutes]
    | none => []) ++ [')']

end Moment

namespace Value

mutual

def quoted : Value → Text
  | .null => "None".toList
  | .bool true => "True".toList
  | .bool false => "False".toList
  | .integer n => Text.integer n
  | .float x => x.toText
  | .text t => Text.quoted t
  | .wideText t => t.quoted
  | .octets os => Text.quotedOctets os
  | .date d =>
    "datetime.date(".toList ++ commaSeparated [Text.decimal d.year, Text.decimal d.month,
      Text.decimal d.day] ++ [')']
  | .moment m => m.quoted
  | .list items => '[' :: commaSeparated (quotedItems items) ++ [']']
  | .pair a b => '(' :: commaSeparated [quoted a, quoted b] ++ [')']
  | .map entries => '\x7b' :: commaSeparated (quotedEntries entries) ++ ['\x7d']
  | .set [] => "set()".toList
  | .set members => '\x7b' :: commaSeparated (quotedItems members) ++ ['\x7d']
  | .outerList => "[...]".toList
  | .outerMap => ['\x7b', '.', '.', '.', '\x7d']

def quotedItems : List Value → List Text
  | [] => []
  | v :: vs => quoted v :: quotedItems vs

def quotedEntries : List (Value × Value) → List Text
  | [] => []
  | (k, v) :: es => (quoted k ++ ':' :: ' ' :: quoted v) :: quotedEntries es

end

/-- The text of a value by itself. A surrogate has the replacement character in its place. -/
def display : Value → Text
  | .text t => t
  | .wideText t => t.replaced
  | .date d => d.iso
  | .moment m => m.display
  | v => v.quoted

/-! ## Integers without a text -/

/-- More decimal digits than this are not written, and not read either. -/
def digitLimit : Nat := 4300

mutual

/-- Whether every integer in a value is within the limit of digits. -/
def isWritable : Value → Bool
  | .integer n => n.natAbs < Nat.pow 10 digitLimit
  | .list items | .set items => areWritable items
  | .pair a b => a.isWritable && b.isWritable
  | .map entries => entriesAreWritable entries
  | _ => true

def areWritable : List Value → Bool
  | [] => true
  | v :: vs => v.isWritable && areWritable vs

def entriesAreWritable : List (Value × Value) → Bool
  | [] => true
  | (k, v) :: es => k.isWritable && v.isWritable && entriesAreWritable es

end

end Value
end Timex
