/-!
# Wildcard markers

What a token declares unknown about itself.
-/

namespace Timex

inductive Marker where
  | unspecifiedYear
  | unspecifiedMonth
  | unspecifiedDay
  | weekReference
  deriving DecidableEq, Repr

namespace Marker

def name : Marker → String
  | .unspecifiedYear => "unspecified_year"
  | .unspecifiedMonth => "unspecified_month"
  | .unspecifiedDay => "unspecified_day"
  | .weekReference => "week_reference"

/-- In the order of their names. -/
def all : List Marker := [.unspecifiedDay, .unspecifiedMonth, .unspecifiedYear, .weekReference]

theorem mem_all (m : Marker) : m ∈ all := by cases m <;> simp [all]

end Marker

/-- A set of markers. -/
structure Markers where
  unspecifiedYear : Bool
  unspecifiedMonth : Bool
  unspecifiedDay : Bool
  weekReference : Bool
  deriving DecidableEq, Repr

namespace Markers

def none : Markers := ⟨false, false, false, false⟩

def contains (s : Markers) : Marker → Bool
  | .unspecifiedYear => s.unspecifiedYear
  | .unspecifiedMonth => s.unspecifiedMonth
  | .unspecifiedDay => s.unspecifiedDay
  | .weekReference => s.weekReference

def insert (s : Markers) : Marker → Markers
  | .unspecifiedYear => { s with unspecifiedYear := true }
  | .unspecifiedMonth => { s with unspecifiedMonth := true }
  | .unspecifiedDay => { s with unspecifiedDay := true }
  | .weekReference => { s with weekReference := true }

def ofList (ms : List Marker) : Markers := ms.foldl insert none

def toList (s : Markers) : List Marker := Marker.all.filter s.contains

@[simp] theorem mem_toList {s : Markers} {m : Marker} : m ∈ s.toList ↔ s.contains m = true := by
  simp [toList, Marker.mem_all]

end Markers
end Timex
