import Timex.Proofs.Normalizer.Analysis
import Timex.Proofs.Resolution.Filling
import Timex.Proofs.Token.Groups

/-!
# Filling in today's date

A day without a month is understood by itself. Filled in, it is pasted behind the year and
the month as it was written, so that it makes a date only if it was written in two digits.
-/

namespace Timex

open Token (Spelling shortNumber timePart)

-- ---------------------------------------------------------------------------
-- Days of a month
-- ---------------------------------------------------------------------------

theorem exists_eq_dayOfMonth {s : Spelling} (h : s.granularity = .dayOfMonth) :
    ∃ padded d, s = .dayOfMonth padded d := by
  cases s with
  | dayOfMonth padded d => exact ⟨padded, d, rfl⟩
  | date d time => cases time <;> simp [Spelling.granularity] at h
  | monthDay md time => cases time <;> simp [Spelling.granularity] at h
  | _ => simp [Spelling.granularity] at h

/-- A token that is a day of a month has the mark of a year and a month. -/
theorem takeMark?_of_dayOfMonth {today : Date} {token : Text} {v : Temporal}
    (h : analyze .strip today token = .ok ⟨.dayOfMonth, v⟩) :
    ∃ rest padded, ∃ d : Fin 31,
      Resolution.takeMark? (Token.canonical token) = some (.yearMonth, rest) ∧
      (Resolution.dropDayMark ⟨rest, Resolution.Mark.yearMonth.markers⟩).text =
        shortNumber padded (d + 1) ∧
      v = { Temporal.empty with day := some ((d : Nat) + 1 : Int) } := by
  obtain ⟨s, ht, hf, hg, hv⟩ := exists_spelling_of_analyze h
  obtain ⟨padded, d, rfl⟩ := exists_eq_dayOfMonth hg
  cases hk : Resolution.takeMark? (Token.canonical token) with
  | none =>
    rw [Resolution.resolve_of_unmarked hk, Spelling.fits_dropDayMark] at hf
    exact absurd hf Bool.false_ne_true
  | some k =>
    obtain ⟨mark, rest⟩ := k
    rw [Resolution.resolve_strip_of_mark hk] at ht hf
    rw [Spelling.fits_dropDayMark] at hf
    cases mark with
    | week => exact absurd hf Bool.false_ne_true
    | year => exact absurd hf Bool.false_ne_true
    | yearMonth => exact ⟨rest, padded, d, rfl, ht.symm, hv.symm⟩

/-- Filled in, the day stands behind today's year and month as it was written. -/
theorem resolve_substitute_of_dayOfMonth (today : Date) {token rest : Text} {padded : Bool}
    {d : Nat} (hk : Resolution.takeMark? (Token.canonical token) = some (.yearMonth, rest))
    (ht : (Resolution.dropDayMark ⟨rest, Resolution.Mark.yearMonth.markers⟩).text =
      shortNumber padded d) :
    ∃ m, resolve .substitute today token =
      ⟨Resolution.yearDigits today ++ '-' :: Resolution.monthDigits today ++ '-' ::
        shortNumber padded d, m⟩ := by
  -- What is left of the token starts with a digit.
  have hX : ∀ more, rest ≠ 'X' :: more := by
    rintro more rfl
    have hm := Resolution.mem_text_dropDayMark (c := 'X') (by decide) more
      Resolution.Mark.yearMonth.markers
    rw [ht] at hm
    exact Text.not_mem_of_isDigits (Token.isDigits_shortNumber padded d) rfl hm
  have hd : Resolution.Mark.yearMonth.isDropped rest = false := by
    cases hd : Resolution.Mark.yearMonth.isDropped rest with
    | false => rfl
    | true =>
      obtain ⟨more, he⟩ := List.isPrefixOf_iff_prefix.mp hd
      exact absurd he.symm (hX _)
  refine ⟨(resolve .strip today token).markers, ?_⟩
  rw [Resolution.resolve_substitute_of_mark hk hd (hX _), Resolution.resolve_strip_of_mark hk, ht]
  simp [Resolution.Mark.filled]

/-- Behind today's year and month a day makes a date if it has two digits and the month has
the day. Else no pattern reads it. -/
theorem interpret_day_behind_month (today : Date) (padded : Bool) {day : Nat} (hpos : 1 ≤ day)
    (m : Markers) {r : Resolution}
    (hr : r = ⟨Resolution.yearDigits today ++ '-' :: Resolution.monthDigits today ++ '-' ::
      shortNumber padded day, m⟩) :
    if (shortNumber padded day).length = 2 ∧
        day ≤ Gregorian.monthLength today.year today.month then
      ∃ date : Date, date.year = today.year ∧ date.month = today.month ∧ date.day = day ∧
        interpret r = .ok ⟨.dateOnly, Spelling.ofDate date⟩
    else
      ∃ f, interpret r = .error f ∧ f.kind = .ambiguousOrInvalidFormat := by
  have hday := Token.isDigits_shortNumber padded day
  have hz := Text.isDigits_zeroPadded
  split
  · rename_i hc
    have hpad := Text.eq_zeroPadded hday
    rw [hc.1, Token.toNumber_shortNumber] at hpad
    obtain ⟨date, hy, hm, hd⟩ : ∃ date : Date,
        date.year = today.year ∧ date.month = today.month ∧ date.day = day :=
      ⟨⟨today.year, today.month, day, today.year_bounds, today.month_bounds, hpos, hc.2⟩,
        rfl, rfl, rfl⟩
    refine ⟨date, hy, hm, hd, ?_⟩
    rw [hr, interpret_eq_ok_iff]
    refine ⟨.date date none, ?_, rfl, rfl, rfl⟩
    rw [Spelling.unmarked, timePart, List.append_nil, Date.iso, hy, hm, hd, hpad]
    rfl
  · rename_i hc
    have hg := Granularity.classify?_triple (hz 4 today.year) (hz 2 today.month) hday none m
    rw [timePart, List.append_nil] at hg
    rw [hr]
    refine interpret_of_not_spelled hg ?_
    intro s hs
    -- The text would be that of a date, which has the day in two digits.
    obtain ⟨date, time, -, hy, hm, hu⟩ := Spelling.eq_date_of_month_in_front
      (s := s) (y := today.year) (m := today.month) (u := shortNumber padded day) (by
        rw [hs]
        simp [Resolution.yearDigits, Resolution.monthDigits])
    have hd := Token.eq_of_append_timePart hday (hz _ _) (s := none) (by simpa [timePart] using hu)
    have hd' := congrArg Text.toNumber hd
    rw [Token.toNumber_shortNumber, Text.toNumber_zeroPadded] at hd'
    have hb := date.day_bounds.2
    have hl := Gregorian.monthLength_bounds date.year date.month
    refine hc ⟨?_, ?_⟩
    · rw [hd]
      exact Text.length_zeroPadded_of_lt (by decide) (by omega)
    · rw [hd', ← hy, ← hm]
      exact hb

/-- A token that is a day of a month by itself is the day of today's month if it has two
digits and the month has the day. Else no pattern reads it. -/
theorem analyze_substitute_of_dayOfMonth {today : Date} {token : Text} {v : Temporal}
    (h : analyze .strip today token = .ok ⟨.dayOfMonth, v⟩) :
    ∃ day : Nat, v = { Temporal.empty with day := some (day : Int) } ∧
      if (resolve .strip today token).text.length = 2 ∧
          day ≤ Gregorian.monthLength today.year today.month then
        ∃ date : Date, date.year = today.year ∧ date.month = today.month ∧ date.day = day ∧
          analyze .substitute today token = .ok ⟨.dateOnly, Spelling.ofDate date⟩
      else
        ∃ f, analyze .substitute today token = .error f ∧ f.kind = .ambiguousOrInvalidFormat := by
  obtain ⟨rest, padded, d, hk, ht, rfl⟩ := takeMark?_of_dayOfMonth h
  obtain ⟨m, hr⟩ := resolve_substitute_of_dayOfMonth today hk ht
  have htext : (resolve .strip today token).text = shortNumber padded (d + 1) := by
    rw [Resolution.resolve_eq, Resolution.unfinished, hk]
    exact ht
  have hi := interpret_day_behind_month today padded (Nat.succ_le_succ d.val.zero_le) m hr
  refine ⟨d + 1, by simp, ?_⟩
  rw [htext]
  split
  · rename_i hc
    rw [if_pos hc] at hi
    obtain ⟨date, hy, hm, hd, hi⟩ := hi
    exact ⟨date, hy, hm, hd, analyze_eq_ok_iff.mpr hi⟩
  · rename_i hc
    rw [if_neg hc] at hi
    obtain ⟨f, hi, hkind⟩ := hi
    refine ⟨f.attach token, ?_, hkind⟩
    rw [analyze, hi]
    rfl

theorem fifteenth_filled_in :
    analyze .strip ⟨2024, 5, 20, by decide, by decide, by decide⟩ "XXXX-XX-15".toList =
        .ok ⟨.dayOfMonth, { Temporal.empty with day := some 15 }⟩ ∧
      ∃ date : Date, date.year = 2024 ∧ date.month = 5 ∧ date.day = 15 ∧
        analyze .substitute ⟨2024, 5, 20, by decide, by decide, by decide⟩ "XXXX-XX-15".toList =
          .ok ⟨.dateOnly, Spelling.ofDate date⟩ := by
  have hs : analyze .strip ⟨2024, 5, 20, by decide, by decide, by decide⟩ "XXXX-XX-15".toList =
      .ok ⟨.dayOfMonth, { Temporal.empty with day := some 15 }⟩ := rfl
  refine ⟨hs, ?_⟩
  obtain ⟨day, hv, h⟩ := analyze_substitute_of_dayOfMonth hs
  have hd : (15 : Int) = day := Option.some.inj (congrArg Temporal.day hv)
  obtain rfl : day = 15 := by omega
  rw [if_pos (by decide)] at h
  exact h

/-- The fifth is a day of every month, but in one digit it is not filled in. -/
theorem not_forall_filled_in :
    ¬ ∀ (today : Date) (token : Text) (day : Nat),
      analyze .strip today token =
          .ok ⟨.dayOfMonth, { Temporal.empty with day := some (day : Int) }⟩ →
        ∀ date : Date, date.year = today.year → date.month = today.month → date.day = day →
          analyze .substitute today token = .ok ⟨.dateOnly, Spelling.ofDate date⟩ := by
  intro h
  have hf := h ⟨2024, 5, 20, by decide, by decide, by decide⟩ "XXXX-XX-5".toList 5 rfl
    ⟨2024, 5, 5, by decide, by decide, by decide⟩ rfl rfl rfl
  have hnone : (analyze .substitute ⟨2024, 5, 20, by decide, by decide, by decide⟩
      "XXXX-XX-5".toList).toOption = none := rfl
  rw [hf] at hnone
  simp [Except.toOption] at hnone

end Timex
