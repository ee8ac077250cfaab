import Timex.Calendar.Error

/-!
# Times of day
-/

namespace Timex

structure TimeOfDay where
  hour : Nat
  minute : Nat
  second : Nat
  hour_lt : hour < 24
  minute_lt : minute < 60
  second_lt : second < 60
  deriving DecidableEq

namespace TimeOfDay

def midnight : TimeOfDay := ⟨0, 0, 0, by omega, by omega, by omega⟩

/-- The time with these numbers. All three have to fit in 32 bits before any is
compared with its range. -/
def ofNumbers (hour minute second : Int) : Except CalendarError TimeOfDay := do
  checkWords [hour, minute, second]
  if hh : 0 ≤ hour ∧ hour < 24 then
    if hm : 0 ≤ minute ∧ minute < 60 then
      if hs : 0 ≤ second ∧ second < 60 then
        return ⟨hour.toNat, minute.toNat, second.toNat, by omega, by omega, by omega⟩
      else throw .second
    else throw .minute
  else throw .hour

theorem ofNumbers_self (t : TimeOfDay) : ofNumbers t.hour t.minute t.second = .ok t := by
  have hh := t.hour_lt
  have hm := t.minute_lt
  have hs := t.second_lt
  have hw : checkWords [(t.hour : Int), (t.minute : Int), (t.second : Int)] = .ok () := by
    apply checkWords_eq_ok
    simp only [List.mem_cons, List.not_mem_nil, or_false]
    rintro n (rfl | rfl | rfl) <;> omega
  unfold ofNumbers
  rw [hw]
  simp only [bind, Except.bind, Int.toNat_natCast]
  rw [dif_pos (by omega), dif_pos (by omega), dif_pos (by omega)]
  rfl

def secondOfDay (t : TimeOfDay) : Nat := t.hour * 3600 + t.minute * 60 + t.second

/-- Two digits each of the hour, the minute and the second. -/
def iso (t : TimeOfDay) : Text :=
  Text.zeroPadded 2 t.hour ++ ':' :: Text.zeroPadded 2 t.minute ++ ':' ::
    Text.zeroPadded 2 t.second

end TimeOfDay
end Timex
