import Timex.Marker
import Timex.Text.Decimal

/-!
# Granularities

The precision class of a resolved token. It is read off the token's shape and the
markers taken out of it; the size of a number has no part in it.
-/

namespace Timex

inductive Granularity where
  | fullDateTime
  | dateOnly
  | yearMonth
  | monthDay
  | monthOnly
  | dayOfMonth
  | weekdayOnly
  | timeOnly
  deriving DecidableEq, Repr

namespace Granularity

def name : Granularity → String
  | .fullDateTime => "full_date_time"
  | .dateOnly => "date_only"
  | .yearMonth => "year_month"
  | .monthDay => "month_day"
  | .monthOnly => "month_only"
  | .dayOfMonth => "day_of_month"
  | .weekdayOnly => "weekday_only"
  | .timeOnly => "time_only"

def all : List Granularity :=
  [.fullDateTime, .dateOnly, .yearMonth, .monthDay, .monthOnly, .dayOfMonth, .weekdayOnly,
   .timeOnly]

theorem mem_all (g : Granularity) : g ∈ all := by cases g <;> simp [all]

/-- Whether a token of the class may carry a time part. -/
def hasTimePart : Granularity → Bool
  | .fullDateTime | .weekdayOnly | .timeOnly => true
  | _ => false

/-! ## Shapes -/

/-- A wildcard is left in the text. -/
def hasWildcard (t : Text) : Bool := t.contains 'X' || t.contains 'x'

def hasTimeSign (t : Text) : Bool := t.contains 'T' || t.contains ':'

/-- The groups of the part before the first `T`. -/
def dateGroups (t : Text) : List Text := Text.split '-' (Text.cut 'T' t).1

/-- An optional `T`, a digit, then digits and colons. -/
def isTimeShape (t : Text) : Bool :=
  let body := match t with
    | 'T' :: rest => rest
    | _ => t
  match body with
  | [] => false
  | c :: cs => c.isDigit && cs.all fun c => c.isDigit || c == ':'

/-- The class of text with hyphens. -/
def ofGroups? (markers : Markers) (timed : Bool) (groups : List Text) : Option Granularity :=
  if !groups.all Text.isDigits then none
  else if timed then some .fullDateTime
  else match groups with
    | [_, _, _] => some .dateOnly
    | [first, _] =>
      if markers.unspecifiedYear && first.length != 4 then some .monthDay else some .yearMonth
    | _ => none

/-- The class of text without hyphens. -/
def ofSingle? (markers : Markers) (t : Text) : Option Granularity :=
  if Text.isDigits t && markers.unspecifiedYear && !markers.unspecifiedMonth && t.length == 2 then
    some .monthOnly
  else if Text.isDigits t && markers.unspecifiedYear && markers.unspecifiedMonth then
    some .dayOfMonth
  else if markers.weekReference then some .weekdayOnly
  else if hasTimeSign t && isTimeShape t then some .timeOnly
  else none

/-- The class of a resolved text, if its shape has one. -/
def classify? (t : Text) (markers : Markers) : Option Granularity :=
  if t.isEmpty || hasWildcard t then none
  else if t.contains '-' then ofGroups? markers (hasTimeSign t) (dateGroups t)
  else ofSingle? markers t

end Granularity
end Timex
