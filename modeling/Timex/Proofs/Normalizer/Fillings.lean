import Timex.Proofs.Normalizer.Analysis
import Timex.Proofs.Resolution.Filling
import Timex.Proofs.Token.Groups

/-!
# One token under both fillings

A token that is understood with today's date filled in is understood by itself, and says
the same except for what was filled in. The exception is a day with a time behind an
unknown month: filled in it is a full date and time, by itself it has no class. In the
other direction a month of an unknown year is understood in today's year, unless it is the
29th of February and the year has none.
-/

namespace Timex

open Token (Spelling TimeSpelling MonthDay timePart withTimePart)

-- ---------------------------------------------------------------------------
-- Values with less of a date
-- ---------------------------------------------------------------------------

/-- A value that says the same as another, except that the year or the month may be unknown
to it. -/
structure Temporal.IsStripOf (w v : Temporal) : Prop where
  year : w.year = v.year ∨ w.year = none
  month : w.month = v.month ∨ w.month = none
  day : w.day = v.day
  hour : w.hour = v.hour
  minute : w.minute = v.minute
  second : w.second = v.second
  hadExplicitTime : w.hadExplicitTime = v.hadExplicitTime

namespace Temporal.IsStripOf

theorem refl (v : Temporal) : v.IsStripOf v :=
  ⟨.inl rfl, .inl rfl, rfl, rfl, rfl, rfl, rfl⟩

theorem withTimePart {w v : Temporal} (h : w.IsStripOf v) (time : Option TimeSpelling) :
    (withTimePart w time).IsStripOf (withTimePart v time) := by
  rcases time with _ | _ | _ | _
  · exact h
  all_goals exact ⟨h.year, h.month, h.day, rfl, rfl, rfl, rfl⟩

end Temporal.IsStripOf

-- ---------------------------------------------------------------------------
-- Taking the year or the month away
-- ---------------------------------------------------------------------------

theorem Granularity.isTimeShape_digits_designator {t : Text} (h : Text.isDigits t = true)
    (u : Text) : isTimeShape (t ++ 'T' :: u) = false := by
  obtain ⟨hne, hd⟩ := Text.isDigits_iff.mp h
  obtain ⟨c, cs, rfl⟩ := List.exists_cons_of_ne_nil hne
  have hc : c.isDigit = true := hd c (by simp)
  rw [List.cons_append, isTimeShape.eq_def]
  split
  · rename_i he
    rw [(List.cons.inj he).1] at hc
    simp at hc
  · simp

namespace Token.Spelling

variable {s : Spelling} {y : Nat} {u : Text}

/-- Without the year in front of it, a spelling is that of a month or of a month and a day. -/
theorem exists_without_year (h : s.unmarked = Text.zeroPadded 4 y ++ '-' :: u) :
    ∃ s' : Spelling, s'.unmarked = u ∧ s'.fits Resolution.Mark.year.markers = true ∧
      s'.value.IsStripOf s.value := by
  rcases cases_of_year_in_front h with ⟨d, time, rfl, -, rfl⟩ | ⟨ym, marked, rfl, -, rfl⟩
  · have hle : Gregorian.monthLength d.year d.month ≤ Gregorian.monthLength 2000 d.month :=
      Gregorian.monthLength_le_of_isLeap rfl d.year d.month
    have hs : Temporal.IsStripOf
        { Temporal.empty with month := some (d.month : Int), day := some (d.day : Int) }
        (ofDate d) := ⟨.inr rfl, .inl rfl, rfl, rfl, rfl, rfl, rfl⟩
    refine ⟨.monthDay ⟨d.month, d.day, d.month_bounds, d.day_bounds.1,
      Nat.le_trans d.day_bounds.2 hle⟩ time, ?_, ?_, hs.withTimePart time⟩
    · simp [unmarked]
    · cases time <;> rfl
  · have hm := ym.month_bounds
    refine ⟨.month ⟨ym.month - 1, by omega⟩ false, ?_, rfl, .inr rfl, .inl ?_, rfl, rfl, rfl,
      rfl, rfl⟩
    · simp [unmarked, Nat.sub_add_cancel hm.1]
    · simp only [value, Option.some.injEq]
      omega

/-- Without the year and the month in front of it, a date is that of a day, unless it has a
time. A day with a time has no class. -/
theorem exists_without_month {m : Nat}
    (h : s.unmarked = Text.zeroPadded 4 y ++ '-' :: (Text.zeroPadded 2 m ++ '-' :: u)) :
    if s.value.hadExplicitTime then
      ∀ ms : Markers, ms.weekReference = false → Granularity.classify? u ms = none
    else
      ∃ s' : Spelling, s'.unmarked = u ∧ s'.fits Resolution.Mark.yearMonth.markers = true ∧
        s'.value.IsStripOf s.value := by
  obtain ⟨d, time, rfl, -, -, rfl⟩ := eq_date_of_month_in_front h
  have hd := Text.isDigits_zeroPadded 2 d.day
  cases time with
  | some τ =>
    rw [if_pos (by simp [value])]
    intro ms hw
    have hh : '-' ∉ Text.zeroPadded 2 d.day ++ timePart (some τ) := by
      simp [Text.not_mem_of_isDigits hd, hyphen_not_mem_timePart]
    have hshape := Granularity.isTimeShape_digits_designator hd τ.text
    rw [classify?_timed ((Text.IsPlain.of_isDigits hd).append (.timePart _)) hh (c := 'T')
      (by simp [timePart]) rfl]
    simp [timePart, hw, hshape]
  | none =>
    rw [if_neg (by simp [value, ofDate, Temporal.empty])]
    have hday := d.day_bounds
    have hl := Gregorian.monthLength_bounds d.year d.month
    refine ⟨.dayOfMonth true ⟨d.day - 1, by omega⟩, ?_, rfl, .inr rfl, .inr rfl, ?_, rfl, rfl,
      rfl, rfl⟩
    · simp [unmarked, timePart, shortNumber, Nat.sub_add_cancel hday.1]
    · simp only [value, withTimePart, ofDate, Option.some.injEq]
      omega

end Token.Spelling

-- ---------------------------------------------------------------------------
-- From substituting to stripping
-- ---------------------------------------------------------------------------

section
variable {filling : Filling} {today : Date} {token : Text} {a : Analysis}

/-- A token that starts with `XXXX-XX-` is understood only if that is its mark, and the mark
is filled in. -/
theorem takeMark?_of_yearMonthMark (hp : Resolution.yearMonthMark <+: Token.canonical token)
    (h : analyze filling today token = .ok a) :
    ∃ rest, Resolution.takeMark? (Token.canonical token) = some (.yearMonth, rest) ∧
      Resolution.Mark.yearMonth.isDropped rest = false := by
  have hX := wildcard_not_mem_of_interpret (analyze_eq_ok_iff.mp h)
  obtain ⟨rest, hr⟩ := hp
  cases hw : Text.eraseFirst? Resolution.weekMark (Token.canonical token) with
  | some more =>
    -- A week mark further on leaves the first wildcard in its place.
    have hk := Resolution.takeMark?_eq_week_iff.mpr hw
    rw [Resolution.resolve_of_dropped hk rfl, Resolution.dropDayMark_week] at hX
    obtain ⟨before, after, hc, rfl⟩ := Text.exists_of_eraseFirst? hw
    rw [← hr] at hc
    cases before with
    | nil => simp [Resolution.yearMonthMark, Resolution.weekMark] at hc
    | cons c cs =>
      have hcX : c = 'X' := by
        simp only [Resolution.yearMonthMark, List.cons_append, List.cons.injEq] at hc
        exact hc.1.symm
      exact absurd (by simp [hcX]) hX
  | none =>
    have hk := Resolution.takeMark?_eq_yearMonth_iff.mpr ⟨hw, hr⟩
    refine ⟨rest, hk, ?_⟩
    cases hd : Resolution.Mark.yearMonth.isDropped rest with
    | false => rfl
    | true =>
      obtain ⟨more, rfl⟩ := List.isPrefixOf_iff_prefix.mp hd
      rw [Resolution.resolve_of_dropped hk hd] at hX
      exact absurd (Resolution.mem_text_dropDayMark (by decide) _ _) hX

/-- What is left of a token without its mark decides what the token says by itself. -/
theorem analyze_strip_of_mark {mark : Resolution.Mark} {rest : Text}
    (hk : Resolution.takeMark? (Token.canonical token) = some (mark, rest)) {s : Spelling}
    (ht : s.unmarked = (resolve .strip today token).text) (hf : s.fits mark.markers = true) :
    analyze .strip today token = .ok ⟨s.granularity, s.value⟩ := by
  rw [analyze_eq_ok_iff, interpret_eq_ok_iff]
  refine ⟨s, ht, ?_, rfl, rfl⟩
  rw [Resolution.resolve_strip_of_mark hk, Spelling.fits_dropDayMark]
  exact hf

theorem analyze_strip_of_yearMonthMark
    (hp : Resolution.yearMonthMark <+: Token.canonical token)
    (h : analyze .substitute today token = .ok a) :
    if a.value.hadExplicitTime then
      ∃ f, analyze .strip today token = .error f ∧ f.kind = .unrecognizedGranularity
    else
      ∃ b, analyze .strip today token = .ok b ∧ b.value.IsStripOf a.value := by
  obtain ⟨rest, hk, hd⟩ := takeMark?_of_yearMonthMark hp h
  have hne : rest ≠ ['X', 'X'] := by
    rintro rfl
    simp [Resolution.Mark.isDropped] at hd
  obtain ⟨s, ht, -, -, hv⟩ := exists_spelling_of_analyze h
  rw [Resolution.resolve_substitute_of_mark hk hd hne] at ht
  have hs := Spelling.exists_without_month (s := s) (y := today.year) (m := today.month)
    (u := (resolve .strip today token).text) (by
      rw [ht]
      simp [Resolution.Mark.filled, Resolution.yearDigits, Resolution.monthDigits])
  rw [hv] at hs
  split
  · rename_i htime
    rw [if_pos htime] at hs
    have hw : (resolve .strip today token).markers.weekReference = false := by
      rw [Resolution.resolve_strip_of_mark hk, Resolution.weekReference_dropDayMark]
      rfl
    exact analyze_eq_error_of_interpret (interpret_of_no_class (hs _ hw))
  · rename_i htime
    rw [if_neg htime] at hs
    obtain ⟨s', ht', hf', hv'⟩ := hs
    exact ⟨_, analyze_strip_of_mark hk ht' hf', hv'⟩

/-- Filled in, `XXXX-XX` is a year alone, which has no class. -/
theorem analyze_substitute_of_no_month (today : Date)
    (hk : Resolution.takeMark? (Token.canonical token) = some (.year, ['X', 'X'])) :
    ∃ f, analyze .substitute today token = .error f ∧ f.kind = .unrecognizedGranularity := by
  have hl : (Text.zeroPadded 4 today.year).length = 4 :=
    Text.length_zeroPadded_year today.year_bounds
  have hc : Granularity.classify? (Resolution.yearDigits today)
      (Resolution.Mark.year.markers.insert .unspecifiedDay) = none := by
    rw [Resolution.yearDigits, Spelling.classify?_digits (Text.isDigits_zeroPadded _ _), hl]
    rfl
  refine analyze_eq_error_of_interpret ?_
  rw [Resolution.resolve_substitute_of_no_month hk]
  exact interpret_of_no_class hc

theorem analyze_strip_of_not_yearMonthMark
    (hp : ¬ Resolution.yearMonthMark <+: Token.canonical token)
    (h : analyze .substitute today token = .ok a) :
    ∃ b, analyze .strip today token = .ok b ∧ b.value.IsStripOf a.value := by
  have hi := analyze_eq_ok_iff.mp h
  rcases Resolution.resolve_substitute_cases today token with he | ⟨mark, rest, hk, hd, he⟩ | hk
  · rw [he] at hi
    exact ⟨a, analyze_eq_ok_iff.mpr hi, .refl _⟩
  · cases mark with
    | week => simp [Resolution.Mark.isDropped] at hd
    | yearMonth => exact absurd ⟨rest, (Resolution.takeMark?_eq_yearMonth_iff.mp hk).2⟩ hp
    | year =>
      obtain ⟨s, ht, -, -, hv⟩ := interpret_eq_ok_iff.mp hi
      rw [he] at ht
      obtain ⟨s', ht', hf', hv'⟩ := Spelling.exists_without_year (s := s) (y := today.year)
        (u := (resolve .strip today token).text) (by
          rw [ht]
          simp [Resolution.Mark.filled, Resolution.yearDigits])
      rw [hv] at hv'
      exact ⟨_, analyze_strip_of_mark hk ht' hf', hv'⟩
  · obtain ⟨f, hf, -⟩ := analyze_substitute_of_no_month today hk
    exact absurd (h.symm.trans hf) (by simp)

end

/-- What is understood with today's date filled in is understood by itself, except for the
year and the month, unless it is a day with a time behind an unknown month. -/
theorem analyze_strip_of_substitute {today : Date} {token : Text} {a : Analysis}
    (h : analyze .substitute today token = .ok a) :
    if Resolution.yearMonthMark <+: Token.canonical token ∧ a.value.hadExplicitTime then
      ∃ f, analyze .strip today token = .error f ∧ f.kind = .unrecognizedGranularity
    else
      ∃ b, analyze .strip today token = .ok b ∧ b.value.IsStripOf a.value := by
  by_cases hp : Resolution.yearMonthMark <+: Token.canonical token
  · have hs := analyze_strip_of_yearMonthMark hp h
    simpa only [hp, true_and] using hs
  · rw [if_neg fun hc => hp hc.1]
    exact analyze_strip_of_not_yearMonthMark hp h

theorem march_evening_stripped :
    analyze .substitute exampleDay "XXXX-03-15T17:30".toList =
      .ok ⟨.fullDateTime, ⟨some 2024, some 3, some 15, some 5, some 17, some 30, none, true⟩⟩ ∧
    ∃ b, analyze .strip exampleDay "XXXX-03-15T17:30".toList = .ok b ∧
      b.value.IsStripOf ⟨some 2024, some 3, some 15, some 5, some 17, some 30, none, true⟩ := by
  have hs : analyze .substitute exampleDay "XXXX-03-15T17:30".toList =
        .ok ⟨.fullDateTime, ⟨some 2024, some 3, some 15, some 5, some 17, some 30, none, true⟩⟩ :=
    rfl
  refine ⟨hs, ?_⟩
  have h := analyze_strip_of_substitute hs
  rwa [if_neg (by decide)] at h

/-- The afternoon of the 15th is understood in today's month, but not by itself. -/
theorem not_forall_stripped :
    ¬ ∀ (today : Date) (token : Text) (a : Analysis),
      analyze .substitute today token = .ok a →
        ∃ b, analyze .strip today token = .ok b ∧ b.value.IsStripOf a.value := by
  intro h
  obtain ⟨b, hb, -⟩ := h exampleDay "XXXX-XX-15T14".toList
    ⟨.fullDateTime, ⟨some 2024, some 5, some 15, some 3, some 14, some 0, none, true⟩⟩ rfl
  have hnone : (analyze .strip exampleDay "XXXX-XX-15T14".toList).toOption = none := rfl
  rw [hb] at hnone
  simp [Except.toOption] at hnone

end Timex
