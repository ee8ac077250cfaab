import Timex.Proofs.Normalizer.Analysis
import Timex.Proofs.Resolution.Filling
import Timex.Proofs.Token.Groups

/-!
# What stands beside a mark

A day mark is dropped from the end of a token whatever stands in front of it. The day and
the time are unknown only if that is a month, with its year or without. A week mark is
taken out wherever it stands, and what is left of the token without a hyphen is a weekday,
perhaps with a time. Behind the mark of an unknown year or month nothing but the text
itself gives a year or a month.
-/

namespace Timex

open Token (Spelling TimeSpelling timePart withTimePart)

-- ---------------------------------------------------------------------------
-- Day marks
-- ---------------------------------------------------------------------------

/-- Apart from weekdays, only months have neither a day nor a time. -/
theorem Token.Spelling.no_day_no_time_iff {s : Spelling} {m : Markers}
    (hm : m.weekReference = false) (hf : s.fits m = true) :
    (s.value.day = none ∧ s.value.hadExplicitTime = false) ↔
      s.granularity = .yearMonth ∨ s.granularity = .monthOnly := by
  cases s with
  | date d time => cases time <;> simp [value, granularity, ofDate]
  | yearMonth ym marked => simp [value, granularity, Temporal.empty]
  | monthDay md time => cases time <;> simp [value, granularity]
  | month n marked => simp [value, granularity, Temporal.empty]
  | dayOfMonth padded d => simp [value, granularity]
  | weekday e time => cases time <;> simp [fits, hm] at hf
  | timeAlone τ => cases τ <;> simp [value, granularity, TimeSpelling.setOn]
  | bareTime τ => cases τ <;> simp [value, granularity, TimeSpelling.setOn]

/-- A recorded day mark stood at the end of the token. What is understood in front of it has
no day and no time exactly if it is a month. -/
theorem analyze_of_unspecifiedDay {filling : Filling} {today : Date} {token : Text} {a : Analysis}
    (hm : (resolve filling today token).markers.unspecifiedDay = true)
    (ha : analyze filling today token = .ok a) :
    Resolution.dayMark <:+ Token.canonical token ∧
      ((a.value.day = none ∧ a.value.hadExplicitTime = false) ↔
        a.granularity = .yearMonth ∨ a.granularity = .monthOnly) := by
  obtain ⟨hw, hsuffix⟩ := Resolution.of_unspecifiedDay hm
  obtain ⟨s, -, hf, hg, hv⟩ := interpret_eq_ok_iff.mp (analyze_eq_ok_iff.mp ha)
  refine ⟨hsuffix, ?_⟩
  rw [← hg, ← hv]
  exact s.no_day_no_time_iff hw hf

theorem march_without_day :
    (resolve .strip exampleDay "2019-03-XX".toList).markers.unspecifiedDay = true ∧
      ∃ a, analyze .strip exampleDay "2019-03-XX".toList = .ok a ∧
        Resolution.dayMark <:+ Token.canonical "2019-03-XX".toList ∧
        a.granularity = .yearMonth ∧ a.value.day = none ∧ a.value.hadExplicitTime = false := by
  have ha : analyze .strip exampleDay "2019-03-XX".toList =
      .ok ⟨.yearMonth, ⟨some 2019, some 3, none, none, none, none, none, false⟩⟩ := rfl
  obtain ⟨hsuffix, hiff⟩ := analyze_of_unspecifiedDay rfl ha
  obtain ⟨hd, ht⟩ := hiff.mpr (.inl rfl)
  exact ⟨rfl, _, ha, hsuffix, rfl, hd, ht⟩

/-- The day mark behind a day and a time is dropped all the same. -/
theorem not_forall_day_unknown :
    ¬ ∀ (filling : Filling) (today : Date) (token : Text) (a : Analysis),
      (resolve filling today token).markers.unspecifiedDay = true →
        analyze filling today token = .ok a →
          a.value.day = none ∧ a.value.hadExplicitTime = false := by
  intro h
  have hd := (h .strip exampleDay "2019-03-12T14-XX".toList
    ⟨.fullDateTime, ⟨some 2019, some 3, some 12, some 2, some 14, some 0, none, true⟩⟩ rfl rfl).1
  simp at hd

-- ---------------------------------------------------------------------------
-- Week marks
-- ---------------------------------------------------------------------------

theorem Token.Spelling.eq_weekday_of_fits {s : Spelling} (hh : '-' ∉ s.unmarked)
    (hf : s.fits Resolution.Mark.week.markers = true) : ∃ e time, s = .weekday e time := by
  cases s with
  | weekday e time => exact ⟨e, time, rfl⟩
  | date d time => exact absurd (by simp [unmarked, Date.iso]) hh
  | yearMonth ym marked => exact absurd (by simp [unmarked]) hh
  | monthDay md time => exact absurd (by simp [unmarked]) hh
  | _ => exact absurd hf Bool.false_ne_true

/-- A token with a week mark and no hyphen beside it is understood exactly if a weekday,
perhaps with a time, is left when the mark is taken out, and then as that weekday. -/
theorem analyze_of_weekReference_iff {filling : Filling} {today : Date} {token : Text}
    {a : Analysis} :
    ((resolve filling today token).markers.weekReference = true ∧
        '-' ∉ (resolve filling today token).text ∧ analyze filling today token = .ok a) ↔
      ∃ (e : Fin 7) (time : Option TimeSpelling) (before after : Text),
        Token.canonical token = before ++ Resolution.weekMark ++ after ∧
        before ++ after = Text.decimal (e + 1) ++ timePart time ∧
        a = ⟨.weekdayOnly,
          withTimePart { Temporal.empty with weekday := some ((e : Nat) + 1 : Int) } time⟩ := by
  constructor
  · rintro ⟨hw, hh, ha⟩
    obtain ⟨before, after, hc, hr⟩ := Resolution.of_weekReference hw
    obtain ⟨s, ht, hf, hg, hv⟩ := interpret_eq_ok_iff.mp (analyze_eq_ok_iff.mp ha)
    rw [hr] at hh ht hf
    obtain ⟨e, time, rfl⟩ := Spelling.eq_weekday_of_fits (ht ▸ hh) hf
    refine ⟨e, time, before, after, by simpa using hc, ht.symm, ?_⟩
    cases a
    simp_all [Spelling.granularity, Spelling.value]
  · rintro ⟨e, time, before, after, hc, ht, rfl⟩
    have hu : (Spelling.weekday e time).unmarked = before ++ after := ht.symm
    have hX : 'X' ∉ before := fun hm =>
      (Spelling.weekday e time).not_mem_unmarked.1 (hu ▸ List.mem_append_left after hm)
    have hr : resolve filling today token = ⟨before ++ after, Resolution.Mark.week.markers⟩ :=
      Resolution.resolve_of_weekMark (by simpa using hc) hX
    refine ⟨hr ▸ rfl, ?_, ?_⟩
    · rw [hr, ht]
      simp [Text.not_mem_of_isDigits (Text.isDigits_decimal (e + 1)) (c := '-') rfl,
        Spelling.hyphen_not_mem_timePart]
    · rw [analyze_eq_ok_iff, hr, interpret_eq_ok_iff]
      exact ⟨.weekday e time, hu, by cases time <;> rfl, rfl, rfl⟩

/-- The week mark may stand behind the weekday, and a date may stand beside it. -/
theorem not_forall_weekday_behind_mark :
    (¬ ∀ (filling : Filling) (today : Date) (token : Text) (a : Analysis),
      (resolve filling today token).markers.weekReference = true →
        analyze filling today token = .ok a →
          Resolution.weekMark <+: Token.canonical token) ∧
    ¬ ∀ (filling : Filling) (today : Date) (token : Text) (a : Analysis),
      (resolve filling today token).markers.weekReference = true →
        analyze filling today token = .ok a → a.granularity = .weekdayOnly := by
  constructor
  · intro h
    exact absurd (h .strip exampleDay "7XXXX-WXX-".toList
      ⟨.weekdayOnly, ⟨none, none, none, some 7, none, none, none, false⟩⟩ rfl rfl) (by decide)
  · intro h
    have hg := h .strip exampleDay "XXXX-WXX-2018-10-28".toList
      ⟨.dateOnly, ⟨some 2018, some 10, some 28, some 7, none, none, none, false⟩⟩ rfl rfl
    simp at hg

-- ---------------------------------------------------------------------------
-- Marks of years and months
-- ---------------------------------------------------------------------------

/-- The year that a resolved text writes: the number of its first group, if that has four
digits and others follow. -/
def writtenYear? (t : Text) : Option Int :=
  match Text.cut '-' t with
  | (year, some _) => if year.length = 4 then some (Text.toNumber year : Int) else none
  | (_, none) => none

namespace Token.Spelling

theorem year_eq_none_of_no_hyphen {s : Spelling} (h : '-' ∉ s.unmarked) : s.value.year = none := by
  cases s with
  | date d time => exact absurd (by simp [unmarked, Date.iso]) h
  | yearMonth ym marked => exact absurd (by simp [unmarked]) h
  | timeAlone τ => cases τ <;> rfl
  | bareTime τ => cases τ <;> rfl
  | _ => simp [value, Temporal.empty]

theorem writtenYear?_unmarked (s : Spelling) : writtenYear? s.unmarked = s.value.year := by
  have hz := hyphen_not_mem_zeroPadded
  by_cases hh : '-' ∈ s.unmarked
  · rcases exists_of_hyphen_mem hh with ⟨d, time, rfl⟩ | ⟨ym, marked, rfl⟩ | ⟨md, time, rfl⟩
    · have hl : (Text.zeroPadded 4 d.year).length = 4 :=
        Text.length_zeroPadded_year d.year_bounds
      simp [writtenYear?, unmarked, Date.iso, Text.cut_append (hz _ _), hl, value, ofDate]
    · have hl : (Text.zeroPadded 4 ym.year).length = 4 :=
        Text.length_zeroPadded_year ym.year_bounds
      simp [writtenYear?, unmarked, Text.cut_append (hz _ _), hl, value]
    · have hl : (Text.zeroPadded 2 md.month).length = 2 :=
        Text.length_zeroPadded_month md.month_bounds
      simp [writtenYear?, unmarked, Text.cut_append (hz _ _), hl, value, Temporal.empty]
  · rw [year_eq_none_of_no_hyphen hh, writtenYear?, Text.cut_of_not_mem hh]

/-- Where the month is unknown, no single group is read as a month. -/
theorem month_eq_none_of_fits {s : Spelling} {m : Markers} (hm : m.unspecifiedMonth = true)
    (hf : s.fits m = true) (h : '-' ∉ s.unmarked) : s.value.month = none := by
  cases s with
  | date d time => exact absurd (by simp [unmarked, Date.iso]) h
  | yearMonth ym marked => exact absurd (by simp [unmarked]) h
  | monthDay md time => exact absurd (by simp [unmarked]) h
  | month n marked => simp [fits, hm] at hf
  | timeAlone τ => cases τ <;> rfl
  | bareTime τ => cases τ <;> rfl
  | _ => simp [value, Temporal.empty]

end Token.Spelling

/-- A token that declares its year unknown is understood with a year only if the text behind
the mark writes that year. If it declares its month unknown as well and the text behind the
mark is a single group, it has no month. -/
theorem analyze_strip_of_unspecified {today : Date} {token : Text} {a : Analysis}
    (h : analyze .strip today token = .ok a) :
    ((resolve .strip today token).markers.unspecifiedYear = true →
        a.value.year = writtenYear? (resolve .strip today token).text) ∧
      ((resolve .strip today token).markers.unspecifiedMonth = true →
        '-' ∉ (resolve .strip today token).text → a.value.month = none) := by
  obtain ⟨s, ht, hf, -, hv⟩ := interpret_eq_ok_iff.mp (analyze_eq_ok_iff.mp h)
  rw [← ht, ← hv]
  exact ⟨fun _ => s.writtenYear?_unmarked.symm, fun hm hh => Spelling.month_eq_none_of_fits hm hf hh⟩

theorem fifteenth_without_month :
    ∃ a, analyze .strip exampleDay "XXXX-XX-15".toList = .ok a ∧
      (resolve .strip exampleDay "XXXX-XX-15".toList).markers.unspecifiedYear = true ∧
      (resolve .strip exampleDay "XXXX-XX-15".toList).markers.unspecifiedMonth = true ∧
      '-' ∉ (resolve .strip exampleDay "XXXX-XX-15".toList).text ∧
      a.value.year = none ∧ a.value.month = none := by
  have ha : analyze .strip exampleDay "XXXX-XX-15".toList =
      .ok ⟨.dayOfMonth, ⟨none, none, some 15, none, none, none, none, false⟩⟩ := rfl
  obtain ⟨hyear, hmonth⟩ := analyze_strip_of_unspecified ha
  have hh : '-' ∉ (resolve .strip exampleDay "XXXX-XX-15".toList).text := by decide
  exact ⟨_, ha, rfl, rfl, hh, hyear rfl, hmonth rfl hh⟩

/-- A year stands behind the mark of an unknown year, a month behind that of an unknown month. -/
theorem not_forall_unspecified_unknown :
    (¬ ∀ (today : Date) (token : Text) (a : Analysis),
      (resolve .strip today token).markers.unspecifiedYear = true →
        analyze .strip today token = .ok a → a.value.year = none) ∧
    ¬ ∀ (today : Date) (token : Text) (a : Analysis),
      (resolve .strip today token).markers.unspecifiedMonth = true →
        analyze .strip today token = .ok a → a.value.month = none := by
  constructor
  · intro h
    have hy := h exampleDay "XXXX-2019-03".toList
      ⟨.yearMonth, ⟨some 2019, some 3, none, none, none, none, none, false⟩⟩ rfl rfl
    simp at hy
  · intro h
    have hm := h exampleDay "XXXX-XX-03-15".toList
      ⟨.monthDay, ⟨none, some 3, some 15, none, none, none, none, false⟩⟩ rfl rfl
    simp at hm

end Timex
