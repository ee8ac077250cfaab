import Timex.Value.Basic
import Timex.Yaml.Cursor
import Timex.Yaml.Error

/-!
# Timestamps

A date, or a date and a time with perhaps a fraction of the second and an offset. The
numbers are read first and only then have to be those of a calendar date.
-/

namespace Timex.Yaml

structure Timestamp where
  year : Nat
  month : Nat
  day : Nat
  /-- The hour, the minute and the second. -/
  time : Option (Nat × Nat × Nat)
  /-- The digits after the point. -/
  fraction : Text
  /-- In minutes. -/
  offset : Option Int
  deriving DecidableEq, Repr

namespace Timestamp

/-- A number that begins the text, of so many digits. -/
def number? (least greatest : Nat) (t : Text) : Option (Nat × Text) :=
  let digits := (t.take greatest).takeWhile Char.isDigit
  if digits.length < least then none else some (Text.toNumber digits, t.drop digits.length)

/-- Two digits with a sign in front of them. -/
def twoAfter? (sign : Char) (t : Text) : Option (Nat × Text) :=
  match t with
  | c :: t => if c = sign then number? 2 2 t else none
  | [] => none

/-- A letter, or a sign with an hour and perhaps a minute. -/
def offset? (t : Text) : Option Int :=
  match t with
  | ['Z'] => some 0
  | c :: t => do
    let (hours, t) ← number? 1 2 t
    let minutes ← if t.isEmpty then some 0 else do
      let (minutes, t) ← twoAfter? ':' t
      if t.isEmpty then some minutes else none
    let total : Int := 60 * hours + minutes
    if c = '+' then some total else if c = '-' then some (-total) else none
  | [] => none

/-- Adds what follows a date. -/
def withTime? (d : Timestamp) (t : Text) : Option Timestamp := do
  let (hour, t) ← number? 1 2 t
  let (minute, t) ← twoAfter? ':' t
  let (second, t) ← twoAfter? ':' t
  let (fraction, t) := match t with
    | '.' :: t => t.span Char.isDigit
    | t => ([], t)
  let offset ← if t.isEmpty then some none else (offset? (t.dropWhile isSpaceOrTab)).map some
  return { d with time := some (hour, minute, second), fraction := fraction, offset := offset }

def read? (t : Text) : Option Timestamp := do
  let (year, t) ← number? 4 4 t
  let t ← if t.head? = some '-' then some t.tail else none
  let (month, t) ← number? 1 2 t
  let t ← if t.head? = some '-' then some t.tail else none
  let (day, t) ← number? 1 2 t
  let d : Timestamp := ⟨year, month, day, none, [], none⟩
  match t with
  | [] => return d
  | c :: rest =>
    if c = 'T' ∨ c = 't' then d.withTime? rest
    else if isSpaceOrTab c then d.withTime? (rest.dropWhile isSpaceOrTab)
    else none

/-- The form of a timestamp without a tag: a date alone has two digits each of the month
and the day. -/
def isPlain (t : Text) : Bool := (read? t).any fun d => d.time.isSome || t.length == 10

/-- Six digits after the point count. -/
def microsecond (fraction : Text) : Nat := Text.toNumber ((fraction.take 6).rightpad 6 '0')

def toValue (d : Timestamp) : Except ConversionError Value := do
  let date := (Date.ofNumbers d.year d.month d.day).mapError .calendar
  match d.time with
  | none => return .date (← date)
  | some (hour, minute, second) =>
    if let some minutes := d.offset then
      if 1440 ≤ minutes.natAbs then throw (.offset minutes)
    let date ← date
    let time ← (TimeOfDay.ofNumbers hour minute second).mapError .calendar
    return .moment ⟨date, time, microsecond d.fraction, d.offset⟩

end Timestamp
end Timex.Yaml
