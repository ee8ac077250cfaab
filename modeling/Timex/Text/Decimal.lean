import Timex.Text.Basic

/-!
# Decimal numerals

Numbers are written and read with the ASCII digits alone.
-/

namespace Timex.Text

/-- A nonempty run of ASCII digits. -/
def isDigits (t : Text) : Bool := !t.isEmpty && t.all Char.isDigit

/-- The number that a run of digits spells. -/
def toNumber (t : Text) : Nat := t.foldl (fun n c => 10 * n + (c.toNat - '0'.toNat)) 0

/-- The digits of a number, with no leading zero. -/
def decimal (n : Nat) : Text := Nat.toDigits 10 n

/-- The digits of a number, filled up with zeros to a width. -/
def zeroPadded (width n : Nat) : Text := (decimal n).leftpad width '0'

def integer : Int → Text
  | .ofNat n => decimal n
  | .negSucc n => '-' :: decimal (n + 1)

@[simp] theorem toNumber_nil : toNumber [] = 0 := rfl

theorem toNumber_append_singleton (t : Text) (c : Char) :
    toNumber (t ++ [c]) = 10 * toNumber t + (c.toNat - '0'.toNat) := by
  simp [toNumber]

theorem length_zeroPadded (width n : Nat) :
    (zeroPadded width n).length = max width (decimal n).length := by
  simp [zeroPadded, List.leftpad]
  omega

end Timex.Text
