import Timex.Pattern
import Timex.Temporal

/-!
# Reading a resolved token

A resolved token of a known granularity is cut into its date part and its time part.
Each part goes to the patterns of its table, and the numbers read have to be a date
that exists. A failure keeps the names of all patterns tried.
-/

namespace Timex

inductive ReadingFailure.Reason where
  /-- A time part stands where the granularity takes none. -/
  | unexpectedTime
  | missingTime
  /-- A part is read by none of its patterns. -/
  | unmatched
  | noSuchDay (year : Option Nat) (month day : Nat)
  deriving DecidableEq, Repr

structure ReadingFailure where
  reason : ReadingFailure.Reason
  tried : List String
  deriving DecidableEq, Repr

/-- Text of an hour alone gets the minutes `:00`. -/
def addMissingMinutes (t : Text) : Text :=
  if !t.isEmpty && !t.contains ':' then t ++ [':', '0', '0'] else t

namespace Temporal

structure Parts where
  date : Option Text
  time : Option Text
  deriving DecidableEq, Repr

/-- Cuts a text at its first `T`. A time alone may go without the `T`. -/
def Parts.ofText (g : Granularity) (t : Text) : Parts :=
  match g with
  | .timeOnly =>
    match t with
    | 'T' :: rest => ⟨none, some rest⟩
    | _ => ⟨none, some t⟩
  | _ =>
    let (date, time) := Text.cut 'T' t
    ⟨some date, time⟩

/-- The year against which a day without a year is checked: any leap year. -/
def leapReference : Nat := 2000

/-- The value with these numbers, unless its month has no such day. A full date
determines its weekday. -/
def ofCaptures (c : Captures) (timed : Bool) : Except ReadingFailure.Reason Temporal :=
  let year := c.number? .year
  let month := c.number? .month
  let day := c.number? .day
  let value := fun weekday : Option Nat =>
    ({ year := year.map Int.ofNat, month := month.map Int.ofNat, day := day.map Int.ofNat
       weekday := weekday.map Int.ofNat
       hour := (c.number? .hour).map Int.ofNat
       minute := (c.number? .minute).map Int.ofNat
       second := (c.number? .second).map Int.ofNat
       hadExplicitTime := timed } : Temporal)
  match day, month with
  | some d, some m =>
    if Gregorian.monthLength (year.getD leapReference) m < d then .error (.noSuchDay year m d)
    else match year with
      | some y => .ok (value (some (Gregorian.isoWeekday y m d)))
      | none => .ok (value (c.number? .weekday))
  | _, _ => .ok (value (c.number? .weekday))

/-- Matches one part, if there is one, against its table. -/
def matchPart (patterns : List Pattern) (mark : String) :
    Option Text → Except (List String) (List String × Captures)
  | none => .ok ([], [])
  | some t =>
    let attempt := Pattern.firstMatch patterns t
    let tried := attempt.tried.map (mark ++ ·)
    match attempt.captures with
    | some c => .ok (tried, c)
    | none => .error tried

/-- Reads with given tables of time and date patterns. `synthesize` gives an hour
alone its minutes before the patterns see it. -/
def readWith (times : List Pattern) (dates : Granularity → List Pattern) (t : Text)
    (g : Granularity) (synthesize : Bool) : Except ReadingFailure Temporal :=
  let parts := Parts.ofText g t
  if parts.time.isSome && !g.hasTimePart then .error ⟨.unexpectedTime, []⟩
  else if g = .fullDateTime ∧ parts.time = none then .error ⟨.missingTime, []⟩
  else
    let time := if synthesize then parts.time.map addMissingMinutes else parts.time
    match matchPart (dates g) "" parts.date with
    | .error tried => .error ⟨.unmatched, tried⟩
    | .ok (triedDates, date) =>
      match matchPart times "T" time with
      | .error tried => .error ⟨.unmatched, triedDates ++ tried⟩
      | .ok (triedTimes, time) =>
        match ofCaptures (date ++ time) parts.time.isSome with
        | .error reason => .error ⟨reason, triedDates ++ triedTimes⟩
        | .ok v => .ok v

/-- Reads a resolved text of a granularity. -/
def read (t : Text) (g : Granularity) (synthesize : Bool) : Except ReadingFailure Temporal :=
  readWith Pattern.times Pattern.dates t g synthesize

end Temporal
end Timex
