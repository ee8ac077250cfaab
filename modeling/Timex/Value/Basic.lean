import Timex.Calendar.Date
import Timex.Calendar.TimeOfDay
import Timex.Number.Binary64
import Timex.Text.Wide

/-!
# Values

The data that settings files, payloads and error records are made of.
-/

namespace Timex

/-- A date and time to the microsecond, with an offset from UTC in minutes or without. -/
structure Moment where
  date : Date
  time : TimeOfDay
  microsecond : Nat
  offset : Option Int
  deriving DecidableEq

namespace Moment

/-- The minute in universal time, counted in days of the calendar. -/
def universalMinute? (m : Moment) : Option Int :=
  m.offset.map fun offset =>
    1440 * m.date.dayNumber + 60 * m.time.hour + m.time.minute - offset

/-- Whether two moments are one. Without offsets they have to be alike. -/
def same (m n : Moment) : Bool :=
  match m.universalMinute?, n.universalMinute? with
  | some a, some b =>
    a == b && m.time.second == n.time.second && m.microsecond == n.microsecond
  | none, none => m == n
  | _, _ => false

end Moment

inductive Value where
  | null
  | bool (b : Bool)
  | integer (n : Int)
  | float (x : Binary64)
  | text (t : Text)
  /-- Text with a surrogate in it. -/
  | wideText (t : WideText)
  | octets (os : List Nat)
  | date (d : Date)
  | moment (m : Moment)
  | list (items : List Value)
  | pair (first second : Value)
  | map (entries : List (Value × Value))
  | set (members : List Value)
  /-- A list inside itself, where it comes again. -/
  | outerList
  /-- A map inside itself, where it comes again. -/
  | outerMap
  deriving Inhabited

namespace Value

def ofString (s : String) : Value := .text s.toList

def ofWideText (t : WideText) : Value :=
  match t.toText? with
  | some t => .text t
  | none => .wideText t

/-- The integer that a number equals, if it equals one. Booleans count as 0 and 1. -/
def integer? : Value → Option Int
  | .bool b => some (if b then 1 else 0)
  | .integer n => some n
  | .float (.finite s m q) =>
    let (n, d) := Binary64.fraction s m q
    if n % d = 0 then some (n / d) else none
  | _ => none

/-- Whether two values are one key: equal as numbers, or else alike. -/
def sameKey (a b : Value) : Bool :=
  match a.integer?, b.integer? with
  | some m, some n => m == n
  | none, none =>
    match a, b with
    | .null, .null => true
    | .float .nan, .float .nan => false
    | .float x, .float y => x == y
    | .text s, .text t => s == t
    | .wideText s, .wideText t => s == t
    | .octets os, .octets ps => os == ps
    | .date d, .date e => d == e
    | .moment m, .moment n => m.same n
    | _, _ => false
  | _, _ => false

/-- The value of a text key. -/
def get? (entries : List (Value × Value)) (key : Text) : Option Value :=
  (entries.find? fun e => e.1.sameKey (.text key)).map Prod.snd

end Value
end Timex
