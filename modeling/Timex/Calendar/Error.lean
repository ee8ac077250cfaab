import Timex.Text.Decimal

/-!
# Why numbers make no date or time
-/

namespace Timex

/-- `overflow` is a number that no machine word of 32 bits holds. The last two are
for values that lack a part of the date, or a time. -/
inductive CalendarError where
  | overflow (n : Int)
  | year (n : Int)
  | month
  | day
  | hour
  | minute
  | second
  | incompleteDate
  | noExplicitTime
  deriving DecidableEq, Repr

/-- Two to the power 31: no signed word of 32 bits holds it. -/
def wordBound : Int := 2147483648

/-- Two to the power 63: no signed word of 64 bits holds it. -/
def longWordBound : Int := 9223372036854775808

namespace CalendarError

def message : CalendarError → Text
  | .overflow n =>
    if n < -longWordBound ∨ longWordBound ≤ n then "Python int too large to convert to C long".toList
    else if 0 ≤ n then "signed integer is greater than maximum".toList
    else "signed integer is less than minimum".toList
  | .year n => "year ".toList ++ Text.integer n ++ " is out of range".toList
  | .month => "month must be in 1..12".toList
  | .day => "day is out of range for month".toList
  | .hour => "hour must be in 0..23".toList
  | .minute => "minute must be in 0..59".toList
  | .second => "second must be in 0..59".toList
  | .incompleteDate => "year, month and day are required".toList
  | .noExplicitTime => "no explicit time".toList

end CalendarError

/-- Refuses the first of the numbers that does not fit in 32 bits. -/
def checkWords : List Int → Except CalendarError Unit
  | [] => .ok ()
  | n :: ns =>
    if n < -wordBound ∨ wordBound ≤ n then .error (.overflow n) else checkWords ns

theorem checkWords_eq_ok {ns : List Int} (h : ∀ n ∈ ns, -2147483648 ≤ n ∧ n < 2147483648) :
    checkWords ns = .ok () := by
  induction ns with
  | nil => rfl
  | cons n ns ih =>
    have hn := h n (by simp)
    rw [checkWords, wordBound, if_neg (by omega)]
    exact ih fun m hm => h m (List.mem_cons_of_mem _ hm)

end Timex
