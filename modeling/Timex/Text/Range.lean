import Timex.Text.Basic

/-!
# Ranges of code points

A class of characters as a table of ranges, in order and without overlaps, searched by
halving.
-/

namespace Timex.Text

/-- The index of the first range that ends at or after a code point, between two indexes. -/
def rangeIndex (ranges : Array (Nat × Nat)) (n : Nat) : Nat → Nat → Nat → Nat
  | 0, low, _ => low
  | fuel + 1, low, high =>
    if low < high then
      let middle := (low + high) / 2
      match ranges[middle]? with
      | some (_, last) =>
        if last < n then rangeIndex ranges n fuel (middle + 1) high
        else rangeIndex ranges n fuel low middle
      | none => low
    else low

/-- Whether a code point lies in one of the ranges. -/
def inRanges (ranges : Array (Nat × Nat)) (n : Nat) : Bool :=
  match ranges[rangeIndex ranges n ranges.size 0 ranges.size]? with
  | some (first, last) => first ≤ n && n ≤ last
  | none => false

end Timex.Text
