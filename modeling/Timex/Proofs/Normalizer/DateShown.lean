import Timex.Proofs.Normalizer.Fillings
import Timex.Proofs.Normalizer.Outcome
import Timex.Proofs.Presentation.DateTime

/-!
# Dates that are shown

Filled in, an unknown year is known. What is left without a year and a weekday is a time, or
a month and a day with a time that stand in no year at all. The text of a date and a time
holds the date or the weekday of every value that has one of them. The month and the day in
no year are dropped from it.
-/

namespace Timex

open Token (Spelling TimeSpelling)

-- ---------------------------------------------------------------------------
-- Years filled in
-- ---------------------------------------------------------------------------

section
variable {today : Date} {token : Text} {a : Analysis}

theorem year_of_filled {mark : Resolution.Mark} {rest : Text}
    (hk : Resolution.takeMark? (Token.canonical token) = some (mark, rest))
    (hd : mark.isDropped rest = false) (h : analyze .substitute today token = .ok a) :
    a.value.year = some (today.year : Int) := by
  have hne : rest ≠ ['X', 'X'] := by
    rintro rfl
    obtain rfl := Resolution.Mark.eq_year_of_isDropped hd
    obtain ⟨f, hf, -⟩ := analyze_substitute_of_no_month today hk
    exact absurd (h.symm.trans hf) (by simp)
  obtain ⟨s, ht, -, -, hv⟩ := exists_spelling_of_analyze h
  rw [Resolution.resolve_substitute_of_mark hk hd hne] at ht
  rw [← hv]
  cases mark with
  | week => simp [Resolution.Mark.isDropped] at hd
  | yearMonth =>
    refine Spelling.year_of_year_in_front (u := Resolution.monthDigits today ++ '-' ::
      (resolve .strip today token).text) ?_
    simp [ht, Resolution.Mark.filled, Resolution.yearDigits]
  | year =>
    refine Spelling.year_of_year_in_front (u := (resolve .strip today token).text) ?_
    simp [ht, Resolution.Mark.filled, Resolution.yearDigits]

/-- A year that the token does not know is today's when it is filled in. -/
theorem year_of_unspecifiedYear (h : analyze .substitute today token = .ok a)
    (hm : (resolve .substitute today token).markers.unspecifiedYear = true) :
    a.value.year = some (today.year : Int) := by
  cases hk : Resolution.takeMark? (Token.canonical token) with
  | none =>
    rw [Resolution.resolve_of_unmarked hk, Resolution.unspecifiedYear_dropDayMark] at hm
    exact absurd hm Bool.false_ne_true
  | some k =>
    obtain ⟨mark, rest⟩ := k
    cases mark with
    | week =>
      rw [Resolution.resolve_of_dropped hk rfl, Resolution.unspecifiedYear_dropDayMark] at hm
      exact absurd hm Bool.false_ne_true
    | yearMonth =>
      -- `XXXX-XX-XX` is not filled in, but it is not understood either.
      have hp := (Resolution.takeMark?_eq_yearMonth_iff.mp hk).2
      obtain ⟨more, hmore, hd⟩ := takeMark?_of_yearMonthMark ⟨rest, hp⟩ h
      exact year_of_filled hmore hd h
    | year => exact year_of_filled hk rfl h

end

-- ---------------------------------------------------------------------------
-- Values without a year
-- ---------------------------------------------------------------------------

theorem Token.Spelling.eq_monthDay_of_no_year {s : Spelling} {m : Markers}
    (hf : s.fits m = true) (hm : m.unspecifiedYear = false) (hy : s.value.year = none)
    (hv : s.value.month.isSome ∨ s.value.day.isSome) :
    ∃ md τ, s = .monthDay md (some τ) := by
  cases s with
  | date d time => simp [value, ofDate] at hy
  | yearMonth ym marked => simp [value] at hy
  | monthDay md time =>
    cases time with
    | some τ => exact ⟨md, τ, rfl⟩
    | none => simp [fits, hm] at hf
  | month n marked => simp [fits, hm] at hf
  | dayOfMonth padded d => simp [fits, hm] at hf
  | weekday e time => simp [value, Temporal.empty] at hv
  | timeAlone τ => cases τ <;> simp [value, TimeSpelling.setOn, Temporal.empty] at hv
  | bareTime τ => cases τ <;> simp [value, TimeSpelling.setOn, Temporal.empty] at hv

section
variable {today : Date} {token : Text} {a : Analysis}

/-- Filled in, a value has a month or a day without a year exactly if its token is a month, a
day and a time. -/
theorem month_or_day_without_year_iff (h : analyze .substitute today token = .ok a) :
    a.value.year = none ∧ (a.value.month.isSome ∨ a.value.day.isSome) ↔
      ∃ md τ, (resolve .substitute today token).text =
        (Spelling.monthDay md (some τ)).unmarked := by
  obtain ⟨s, ht, hf, hg, hv⟩ := exists_spelling_of_analyze h
  constructor
  · rintro ⟨hy, hmd⟩
    have hm : (resolve .substitute today token).markers.unspecifiedYear = false := by
      rw [Bool.eq_false_iff]
      intro hm
      simp [year_of_unspecifiedYear h hm] at hy
    rw [← hv] at hy hmd
    obtain ⟨md, τ, rfl⟩ := Spelling.eq_monthDay_of_no_year hf hm hy hmd
    exact ⟨md, τ, ht.symm⟩
  · rintro ⟨md, τ, he⟩
    have ha : analyze .substitute today token =
        .ok ⟨.fullDateTime, (Spelling.monthDay md (some τ)).value⟩ := by
      rw [analyze_eq_ok_iff, interpret_eq_ok_iff]
      exact ⟨.monthDay md (some τ), he.symm, rfl, rfl, rfl⟩
    obtain rfl := Except.ok.inj (h.symm.trans ha)
    simp [Spelling.value, Temporal.empty]

end

-- ---------------------------------------------------------------------------
-- Dates in the text
-- ---------------------------------------------------------------------------

/-- The text of a date and a time holds the date of a value with a year, or else its weekday.
It is that of the time alone for a value with neither. Such a value has a month or a day
exactly if its token is a month, a day and a time, and then they are dropped. -/
theorem date_shown_of_normalize [LocaleLibrary] (hj : LocaleLibrary.JoinsDates) {s : Settings}
    {today : Date} {token : Text} {a : Analysis} {out : Output}
    (ha : analyze .substitute today token = .ok a)
    (h : normalize s today token .localizedDateTime = .ok out) :
    if a.value.year.isSome then
      ∃ date, present s .localizedDate a.value = .ok date ∧ date <:+: out.text
    else if a.value.weekday.isSome then
      ∃ name, present s .weekdayName a.value = .ok name ∧ name <:+: out.text
    else
      present s .localizedTime a.value = .ok out.text ∧
        (a.value.month.isSome ∨ a.value.day.isSome ↔
          ∃ md τ, (resolve .substitute today token).text =
            (Spelling.monthDay md (some τ)).unmarked) := by
  obtain ⟨text, hp, rfl⟩ := (normalize_eq_ok_iff .localizedDateTime ha).mp h
  split
  · rename_i hy
    exact Presentation.infix_localizedDateTime hj
      (Presentation.dateOrWeekday?_of_year (wellFormed_of_analyze ha) hy) hp
  · rename_i hy
    rw [Option.not_isSome_iff_eq_none] at hy
    have hd := Presentation.dateOrWeekday?_of_no_year (s := s) hy
    split
    · rename_i hw
      rw [if_pos hw] at hd
      exact Presentation.infix_localizedDateTime hj hd hp
    · rename_i hw
      rw [if_neg hw] at hd
      refine ⟨Presentation.localizedTime_of_no_date hd hp, ?_⟩
      rw [← month_or_day_without_year_iff ha, and_iff_right hy]

theorem march_evening_shown :
    normalize Settings.default exampleDay "XXXX-03-15T17:30".toList .localizedDateTime =
        .ok ⟨"3/15/24, 17:30".toList, .fullDateTime, "XXXX-03-15T17:30".toList,
          .localizedDateTime⟩ ∧
      ∃ date, present Settings.default .localizedDate
          ⟨some 2024, some 3, some 15, some 5, some 17, some 30, none, true⟩ = .ok date ∧
        date <:+: "3/15/24, 17:30".toList := by
  have ha : analyze .substitute exampleDay "XXXX-03-15T17:30".toList =
      .ok ⟨.fullDateTime, ⟨some 2024, some 3, some 15, some 5, some 17, some 30, none, true⟩⟩ := rfl
  have hn : normalize Settings.default exampleDay "XXXX-03-15T17:30".toList .localizedDateTime =
      .ok ⟨"3/15/24, 17:30".toList, .fullDateTime, "XXXX-03-15T17:30".toList,
        .localizedDateTime⟩ :=
    (normalize_eq_ok_iff .localizedDateTime ha).mpr ⟨_, by decide +kernel, rfl⟩
  exact ⟨hn, date_shown_of_normalize LocaleLibrary.builtIn_joinsDates ha hn⟩

/-- The 15th of March is dropped from its evening. -/
theorem not_forall_date_shown :
    ¬ ∀ (today : Date) (token : Text) (a : Analysis) (out : Output),
      analyze .substitute today token = .ok a →
        normalize Settings.default today token .localizedDateTime = .ok out →
          present Settings.default .localizedTime a.value = .ok out.text →
            a.value.year = none ∧ a.value.month = none ∧ a.value.day = none ∧
              a.value.weekday = none := by
  intro h
  have ha : analyze .substitute exampleDay "03-15T17:30".toList =
      .ok ⟨.fullDateTime, ⟨none, some 3, some 15, none, some 17, some 30, none, true⟩⟩ := rfl
  have hn : normalize Settings.default exampleDay "03-15T17:30".toList .localizedDateTime =
      .ok ⟨"17:30".toList, .fullDateTime, "03-15T17:30".toList, .localizedDateTime⟩ :=
    (normalize_eq_ok_iff .localizedDateTime ha).mpr ⟨_, by decide +kernel, rfl⟩
  have hm := h exampleDay "03-15T17:30".toList _ _ ha hn (by decide +kernel)
  simp at hm

end Timex
