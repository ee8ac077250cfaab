import Timex.Proofs.Normalizer.Analysis
import Timex.Proofs.Resolution.Filling
import Timex.Proofs.Token.Groups

/-!
# Unknown years

A month of an unknown year, with or without a day and a time, is understood in today's
year as what it says by itself, with the year and the weekday known. Only the 29th of
February is not read in a year that has none.
-/

namespace Timex

open Token (Spelling TimeSpelling MonthDay timePart withTimePart)

-- ---------------------------------------------------------------------------
-- Months of every year
-- ---------------------------------------------------------------------------

/-- A day of a leap year that another year does not have is the 29th of February. -/
theorem Gregorian.monthLength_lt_iff {year month day : Nat} (h : day ≤ monthLength 2000 month) :
    monthLength year month < day ↔ month = 2 ∧ day = 29 ∧ isLeap year = false := by
  by_cases hm : month = 2
  · subst hm
    have h29 : day ≤ 29 := h
    cases hl : isLeap year
    · simp [monthLength, hl]
      omega
    · simp [monthLength, hl]
      omega
  · have hy : monthLength year month = monthLength 2000 month := by
      unfold monthLength
      split
      · exact absurd rfl hm
      all_goals rfl
    rw [hy]
    simp [hm, h]

-- ---------------------------------------------------------------------------
-- Values with a year
-- ---------------------------------------------------------------------------

/-- What a granularity without a year becomes when the year is known. -/
def Granularity.withYear? : Granularity → Option Granularity
  | .monthOnly => some .yearMonth
  | .monthDay => some .dateOnly
  | .fullDateTime => some .fullDateTime
  | _ => none

/-- The value in a year. A day then has its weekday. -/
def Temporal.withYear (v : Temporal) (year : Nat) : Temporal :=
  { v with
    year := some (year : Int)
    weekday := match v.month, v.day with
      | some m, some d => some (Gregorian.isoWeekday year m.toNat d.toNat : Int)
      | _, _ => none }

theorem Temporal.withYear_withTimePart (v : Temporal) (time : Option TimeSpelling) (year : Nat) :
    (withTimePart v time).withYear year = withTimePart (v.withYear year) time := by
  rcases time with _ | _ | _ | _ <;> rfl

namespace Token.Spelling

/-- A month without a year is a month alone or that of a day. -/
theorem cases_of_year_eq_none {s : Spelling} (hy : s.value.year = none)
    (hm : s.value.month.isSome) :
    (∃ m marked, s = .month m marked) ∨ ∃ md time, s = .monthDay md time := by
  cases s with
  | month m marked => exact .inl ⟨m, marked, rfl⟩
  | monthDay md time => exact .inr ⟨md, time, rfl⟩
  | date d time => simp [value, ofDate] at hy
  | yearMonth ym marked => simp [value] at hy
  | dayOfMonth padded d => simp [value, Temporal.empty] at hm
  | weekday e time => simp [value, Temporal.empty] at hm
  | timeAlone τ => cases τ <;> simp [value, TimeSpelling.setOn, Temporal.empty] at hm
  | bareTime τ => cases τ <;> simp [value, TimeSpelling.setOn, Temporal.empty] at hm

end Token.Spelling

-- ---------------------------------------------------------------------------
-- Behind a year
-- ---------------------------------------------------------------------------

section
variable {year : Nat} (hyear : 1 ≤ year ∧ year ≤ 9999) (markers : Markers)
include hyear

theorem interpret_month_behind_year (m : Fin 12) (marked : Bool) :
    interpret ⟨Text.zeroPadded 4 year ++ '-' :: (Spelling.month m marked).unmarked, markers⟩ =
      .ok ⟨.yearMonth, (Spelling.month m marked).value.withYear year⟩ := by
  rw [interpret_eq_ok_iff]
  refine ⟨.yearMonth ⟨year, m + 1, hyear, by omega⟩ false, rfl, rfl, rfl, ?_⟩
  simp [Spelling.value, Temporal.withYear, Temporal.empty]

theorem interpret_date_behind_year {md : MonthDay}
    (hd : md.day ≤ Gregorian.monthLength year md.month) (time : Option TimeSpelling) :
    interpret ⟨Text.zeroPadded 4 year ++ '-' :: (Spelling.monthDay md time).unmarked, markers⟩ =
      .ok ⟨if time.isSome then .fullDateTime else .dateOnly,
        (Spelling.monthDay md time).value.withYear year⟩ := by
  rw [interpret_eq_ok_iff]
  refine ⟨.date ⟨year, md.month, md.day, hyear, md.month_bounds, md.day_bounds.1, hd⟩ time,
    ?_, rfl, ?_, ?_⟩
  · simp [Spelling.unmarked, Date.iso]
  · cases time <;> rfl
  · simp only [Spelling.value, Temporal.withYear_withTimePart]
    rfl

omit hyear in
/-- A day that the month does not have in the year is read by no pattern. -/
theorem interpret_no_date_behind_year {md : MonthDay}
    (hd : Gregorian.monthLength year md.month < md.day) (time : Option TimeSpelling) :
    ∃ f, interpret
        ⟨Text.zeroPadded 4 year ++ '-' :: (Spelling.monthDay md time).unmarked, markers⟩ =
          .error f ∧ f.kind = .ambiguousOrInvalidFormat := by
  have hz := Text.isDigits_zeroPadded
  have hc := Granularity.classify?_triple (hz 4 year) (hz 2 md.month) (hz 2 md.day) time markers
  simp only [Spelling.unmarked, List.append_assoc, List.cons_append] at hc ⊢
  refine interpret_of_not_spelled (g := if time.isSome then .fullDateTime else .dateOnly)
    (by rw [hc]; split <;> rfl) ?_
  intro s hs
  -- The text would be that of a date, which has the day.
  obtain ⟨d, time', -, rfl, hm, hu⟩ := Spelling.eq_date_of_month_in_front hs
  have hday := Token.eq_of_append_timePart (hz _ _) (hz _ _) hu
  rw [Text.zeroPadded_inj] at hday
  rw [← hm, hday] at hd
  exact absurd d.day_bounds.2 (Nat.not_le_of_lt hd)

end

/-- Filled in, what a token of an unknown year says by itself stands behind today's year. -/
theorem exists_resolve_of_unknown_year {today : Date} {token : Text} {a : Analysis}
    (hy : Resolution.yearMark <+: Token.canonical token)
    (hym : ¬ Resolution.yearMonthMark <+: Token.canonical token)
    (hw : ¬ Resolution.weekMark <:+: Token.canonical token)
    (h : analyze .strip today token = .ok a) :
    ∃ (s : Spelling) (m : Markers), s.granularity = a.granularity ∧ s.value = a.value ∧
      resolve .substitute today token =
        ⟨Text.zeroPadded 4 today.year ++ '-' :: s.unmarked, m⟩ := by
  obtain ⟨rest, hr⟩ := hy
  have hk := Resolution.takeMark?_eq_year_iff.mpr ⟨Text.eraseFirst?_of_not_infix hw, hym, hr⟩
  have hi := analyze_eq_ok_iff.mp h
  have hne : rest ≠ ['X', 'X'] := by
    rintro rfl
    have hX := wildcard_not_mem_of_interpret hi
    rw [Resolution.resolve_strip_of_mark hk] at hX
    exact hX (Resolution.mem_text_dropDayMark (by decide) _ _)
  obtain ⟨s, ht, -, hg, hv⟩ := interpret_eq_ok_iff.mp hi
  refine ⟨s, (resolve .strip today token).markers, hg, hv, ?_⟩
  rw [Resolution.resolve_substitute_of_mark hk rfl hne, ht]
  simp [Resolution.Mark.filled, Resolution.yearDigits]

/-- A month of an unknown year is understood in today's year as what it says by itself,
unless it is the 29th of February and the year has none. -/
theorem analyze_substitute_of_unknown_year {today : Date} {token : Text} {a : Analysis}
    (hy : Resolution.yearMark <+: Token.canonical token)
    (hym : ¬ Resolution.yearMonthMark <+: Token.canonical token)
    (hw : ¬ Resolution.weekMark <:+: Token.canonical token)
    (h : analyze .strip today token = .ok a)
    (hyear : a.value.year = none) (hmonth : a.value.month.isSome) :
    if a.value.month = some 2 ∧ a.value.day = some 29 ∧ Gregorian.isLeap today.year = false then
      ∃ f, analyze .substitute today token = .error f ∧ f.kind = .ambiguousOrInvalidFormat
    else
      ∃ g, a.granularity.withYear? = some g ∧
        analyze .substitute today token = .ok ⟨g, a.value.withYear today.year⟩ := by
  obtain ⟨s, m, hg, hv, hr⟩ := exists_resolve_of_unknown_year hy hym hw h
  rw [← hv] at hyear hmonth
  rw [← hg, ← hv]
  rcases Spelling.cases_of_year_eq_none hyear hmonth with ⟨n, marked, rfl⟩ | ⟨md, time, rfl⟩
  · rw [if_neg (by simp [Spelling.value, Temporal.empty])]
    refine ⟨.yearMonth, rfl, ?_⟩
    rw [analyze_eq_ok_iff, hr]
    exact interpret_month_behind_year today.year_bounds m n marked
  · have hlt : Gregorian.monthLength today.year md.month < md.day ↔
        md.month = 2 ∧ md.day = 29 ∧ Gregorian.isLeap today.year = false :=
      Gregorian.monthLength_lt_iff md.day_bounds.2
    have hvm : (Spelling.monthDay md time).value.month = some (md.month : Int) := by
      simp [Spelling.value]
    have hvd : (Spelling.monthDay md time).value.day = some (md.day : Int) := by
      simp [Spelling.value]
    rw [hvm, hvd]
    split
    · rename_i hc
      simp only [Option.some.injEq] at hc
      have hd := hlt.mpr ⟨by omega, by omega, hc.2.2⟩
      refine analyze_eq_error_of_interpret ?_
      rw [hr]
      exact interpret_no_date_behind_year m hd time
    · rename_i hc
      have hd : md.day ≤ Gregorian.monthLength today.year md.month := by
        refine Nat.le_of_not_lt fun hd => hc ?_
        obtain ⟨h2, h29, hleap⟩ := hlt.mp hd
        exact ⟨by simp [h2], by simp [h29], hleap⟩
      have hi := interpret_date_behind_year today.year_bounds m hd time
      refine ⟨if time.isSome then .fullDateTime else .dateOnly, ?_, ?_⟩
      · cases time <;> rfl
      · rw [analyze_eq_ok_iff, hr]
        exact hi

theorem march_evening_filled_in :
    analyze .strip exampleDay "XXXX-03-15T17:30".toList =
        .ok ⟨.fullDateTime, ⟨none, some 3, some 15, none, some 17, some 30, none, true⟩⟩ ∧
      analyze .substitute exampleDay "XXXX-03-15T17:30".toList =
        .ok ⟨.fullDateTime, ⟨some 2024, some 3, some 15, some 5, some 17, some 30, none, true⟩⟩ := by
  have hs : analyze .strip exampleDay "XXXX-03-15T17:30".toList =
        .ok ⟨.fullDateTime, ⟨none, some 3, some 15, none, some 17, some 30, none, true⟩⟩ := rfl
  refine ⟨hs, ?_⟩
  have hw : ¬ Resolution.weekMark <:+: Token.canonical "XXXX-03-15T17:30".toList := fun hi =>
    absurd (hi.subset (a := 'W') (by decide)) (by decide)
  have h := analyze_substitute_of_unknown_year (by decide) (by decide) hw hs rfl rfl
  rw [if_neg (by decide)] at h
  obtain ⟨g, hg, ha⟩ := h
  obtain rfl : .fullDateTime = g := Option.some.inj hg
  exact ha

end Timex
