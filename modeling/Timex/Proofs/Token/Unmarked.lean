import Timex.Proofs.Granularity
import Timex.Proofs.Token.DatePart

/-!
# Spellings without their marks

A resolved text that is classified and read is a spelling with its marks taken out, under
markers that fit it. What is read is the value of the spelling.
-/

namespace Timex.Token.Spelling

/-- What is left of a spelling when its marks are taken out. -/
def unmarked : Spelling → Text
  | .date d time => d.iso ++ timePart time
  | .yearMonth ym _ => Text.zeroPadded 4 ym.year ++ '-' :: Text.zeroPadded 2 ym.month
  | .monthDay md time =>
    Text.zeroPadded 2 md.month ++ '-' :: Text.zeroPadded 2 md.day ++ timePart time
  | .month m _ => Text.zeroPadded 2 (m + 1)
  | .dayOfMonth padded d => shortNumber padded (d + 1)
  | .weekday e time => Text.decimal (e + 1) ++ timePart time
  | .timeAlone t => timePart (some t)
  | .bareTime t _ => t.text

/-- Whether the markers tell the unmarked text from those of other spellings. -/
def fits (m : Markers) : Spelling → Bool
  | .date .. | .yearMonth .. | .monthDay _ (some _) => true
  | .monthDay _ none => m.unspecifiedYear
  | .month .. => m.unspecifiedYear && !m.unspecifiedMonth
  | .dayOfMonth .. => m.unspecifiedYear && m.unspecifiedMonth
  | .weekday _ none => m.weekReference && !(m.unspecifiedYear && m.unspecifiedMonth)
  | .weekday _ (some _) => m.weekReference
  | .timeAlone _ | .bareTime .. => !m.weekReference

end Timex.Token.Spelling

namespace Timex

open Token (Spelling TimeSpelling shortNumber timePart withTimePart)

-- ---------------------------------------------------------------------------
-- Readings
-- ---------------------------------------------------------------------------

namespace DatePart

/-- Apart from its own granularity a part stands in a full date and time alone. -/
theorem granularity_of_mem_dates {p : DatePart} {g : Granularity}
    (h : p.pattern ∈ Pattern.dates g) :
    g = p.granularity ∨
      g = .fullDateTime ∧ ((∃ d, p = .date d) ∨ ∃ md, p = .monthDay md) := by
  have hd : ∀ g ∈ Granularity.all, Pattern.yearMonthDay ∈ Pattern.dates g →
      g = .dateOnly ∨ g = .fullDateTime := by decide
  have hmd : ∀ g ∈ Granularity.all, Pattern.monthDay ∈ Pattern.dates g →
      g = .monthDay ∨ g = .fullDateTime := by decide
  have hym : ∀ g ∈ Granularity.all, Pattern.yearMonth ∈ Pattern.dates g → g = .yearMonth := by
    decide
  have hm : ∀ g ∈ Granularity.all, Pattern.monthAlone ∈ Pattern.dates g → g = .monthOnly := by
    decide
  have hdom : ∀ padded, ∀ g ∈ Granularity.all, Pattern.dayAlone padded ∈ Pattern.dates g →
      g = .dayOfMonth := by decide
  have hw : ∀ g ∈ Granularity.all, Pattern.weekdayAlone ∈ Pattern.dates g →
      g = .weekdayOnly := by decide
  cases p with
  | date d =>
    rcases hd g g.mem_all h with rfl | rfl
    · exact .inl rfl
    · exact .inr ⟨rfl, .inl ⟨d, rfl⟩⟩
  | yearMonth => exact .inl (hym g g.mem_all h)
  | monthDay md =>
    rcases hmd g g.mem_all h with rfl | rfl
    · exact .inl rfl
    · exact .inr ⟨rfl, .inr ⟨md, rfl⟩⟩
  | month => exact .inl (hm g g.mem_all h)
  | dayOfMonth padded => exact .inl (hdom padded g g.mem_all h)
  | weekday => exact .inl (hw g g.mem_all h)

/-- A part with a time that its granularity takes is a spelling without its marks. -/
theorem exists_unmarked_eq {p : DatePart} {time : Option TimeSpelling} {g : Granularity}
    (hp : p.pattern ∈ Pattern.dates g) (h1 : time.isSome → g.hasTimePart = true)
    (h2 : g = .fullDateTime → time.isSome) :
    ∃ s : Spelling, s.unmarked = p.text ++ timePart time ∧ s.granularity = g ∧
      s.value = withTimePart p.value time := by
  rcases granularity_of_mem_dates hp with rfl | ⟨rfl, ⟨d, rfl⟩ | ⟨md, rfl⟩⟩
  · cases time with
    | some τ =>
      have ht := h1 rfl
      cases p with
      | weekday e => exact ⟨.weekday e (some τ), by simp [Spelling.unmarked], rfl, rfl⟩
      | _ => simp [granularity, Granularity.hasTimePart] at ht
    | none =>
      simp only [timePart, List.append_nil, withTimePart]
      cases p with
      | date d => exact ⟨.date d none, by simp [Spelling.unmarked, timePart], rfl, rfl⟩
      | yearMonth ym => exact ⟨.yearMonth ym false, rfl, rfl, rfl⟩
      | monthDay md => exact ⟨.monthDay md none, by simp [Spelling.unmarked, timePart], rfl, rfl⟩
      | month m => exact ⟨.month m false, rfl, rfl, rfl⟩
      | dayOfMonth padded d => exact ⟨.dayOfMonth padded d, by simp [Spelling.unmarked], rfl, rfl⟩
      | weekday e => exact ⟨.weekday e none, by simp [Spelling.unmarked, timePart], rfl, rfl⟩
  · cases time with
    | none => simp at h2
    | some τ => exact ⟨.date d (some τ), by simp [Spelling.unmarked], rfl, rfl⟩
  · cases time with
    | none => simp at h2
    | some τ => exact ⟨.monthDay md (some τ), by simp [Spelling.unmarked], rfl, rfl⟩

theorem exists_text_eq {s : Spelling} (hs : s.granularity ≠ .timeOnly) :
    ∃ p time, DatePart.text p ++ timePart time = s.unmarked ∧
      p.pattern ∈ Pattern.dates s.granularity ∧
      (time.isSome → s.granularity.hasTimePart = true) ∧
      (s.granularity = .fullDateTime → time.isSome) ∧
      withTimePart p.value time = s.value := by
  cases s with
  | date d time =>
    refine ⟨.date d, time, by simp [Spelling.unmarked], ?_, ?_, ?_, rfl⟩ <;>
      cases time <;>
      simp [Spelling.granularity, Granularity.hasTimePart, pattern, Pattern.dates]
  | monthDay md time =>
    refine ⟨.monthDay md, time, by simp [Spelling.unmarked], ?_, ?_, ?_, rfl⟩ <;>
      cases time <;>
      simp [Spelling.granularity, Granularity.hasTimePart, pattern, Pattern.dates]
  | weekday e time =>
    exact ⟨.weekday e, time, by simp [Spelling.unmarked], pattern_mem_dates _, fun _ => rfl,
      fun h => by simp [Spelling.granularity] at h, rfl⟩
  | yearMonth ym marked =>
    exact ⟨.yearMonth ym, none, by simp [Spelling.unmarked, timePart], pattern_mem_dates _,
      fun h => by simp at h, fun h => by simp [Spelling.granularity] at h, rfl⟩
  | month m marked =>
    exact ⟨.month m, none, by simp [Spelling.unmarked, timePart], pattern_mem_dates _,
      fun h => by simp at h, fun h => by simp [Spelling.granularity] at h, rfl⟩
  | dayOfMonth padded d =>
    exact ⟨.dayOfMonth padded d, none, by simp [Spelling.unmarked, timePart], pattern_mem_dates _,
      fun h => by simp at h, fun h => by simp [Spelling.granularity] at h, rfl⟩
  | timeAlone => exact absurd rfl hs
  | bareTime => exact absurd rfl hs

end DatePart

namespace Token.Spelling

-- ---------------------------------------------------------------------------
-- Classes
-- ---------------------------------------------------------------------------

open Granularity (classify?_pair classify?_triple classify?_of_not_mem ofSingle?_of_isDigits
  ofSingle?_of_not_isDigits isDigits_eq_false isTimeShape_text hasTimeSign_text_iff)

theorem hyphen_not_mem_timePart (time : Option TimeSpelling) : '-' ∉ timePart time := by
  cases time with
  | none => simp [timePart]
  | some τ =>
    intro h
    rcases List.mem_cons.mp h with h | h
    · simp at h
    · rcases TimeSpelling.char_of_mem_text h with h | h <;> simp at h

theorem classify?_digits {t : Text} (h : Text.isDigits t = true) (m : Markers) :
    Granularity.classify? t m =
      if m.unspecifiedYear && !m.unspecifiedMonth && t.length == 2 then some .monthOnly
      else if m.unspecifiedYear && m.unspecifiedMonth then some .dayOfMonth
      else if m.weekReference then some .weekdayOnly
      else none := by
  rw [classify?_of_not_mem (Text.isDigits_iff.mp h).1 (.of_isDigits h)
    (Text.not_mem_of_isDigits h rfl), ofSingle?_of_isDigits h]

/-- Text that holds a character of a time is no single group. -/
theorem classify?_timed {t : Text} (hp : t.IsPlain) (hh : '-' ∉ t) {c : Char} (hm : c ∈ t)
    (hc : c.isDigit = false) (m : Markers) :
    Granularity.classify? t m =
      if m.weekReference then some .weekdayOnly
      else if Granularity.hasTimeSign t && Granularity.isTimeShape t then some .timeOnly
      else none := by
  rw [classify?_of_not_mem (List.ne_nil_of_mem hm) hp hh,
    ofSingle?_of_not_isDigits (isDigits_eq_false hm hc)]

/-- The unmarked text of a spelling has its granularity under the markers that fit. -/
theorem classify?_unmarked_iff (s : Spelling) (m : Markers) :
    Granularity.classify? s.unmarked m = some s.granularity ↔ s.fits m = true := by
  have hz := Text.isDigits_zeroPadded
  cases s with
  | date d time =>
    rw [unmarked, Date.iso, classify?_triple (hz _ _) (hz _ _) (hz _ _)]
    cases time <;> simp [granularity, fits]
  | yearMonth ym marked =>
    have hl : (Text.zeroPadded 4 ym.year).length = 4 :=
      Text.length_zeroPadded_year ym.year_bounds
    have hc := classify?_pair (hz 4 ym.year) (hz 2 ym.month) none m
    rw [timePart, List.append_nil] at hc
    simp [unmarked, hc, hl, granularity, fits]
  | monthDay md time =>
    have hl : (Text.zeroPadded 2 md.month).length = 2 :=
      Text.length_zeroPadded_month md.month_bounds
    rw [unmarked, classify?_pair (hz _ _) (hz _ _)]
    cases time <;> simp [hl, granularity, fits]
  | month m' marked =>
    have hl : (Text.zeroPadded 2 (m' + 1)).length = 2 :=
      Text.length_zeroPadded_month ⟨by omega, m'.isLt⟩
    rw [unmarked, classify?_digits (hz _ _)]
    rcases m with ⟨_ | _, _ | _, _, _ | _⟩ <;> simp [hl, granularity, fits]
  | dayOfMonth padded d =>
    rw [unmarked, classify?_digits (isDigits_shortNumber padded _)]
    rcases m with ⟨_ | _, _ | _, _, _ | _⟩ <;> simp [granularity, fits]
    all_goals split <;> simp
  | weekday e time =>
    have hd := Text.isDigits_decimal (e + 1)
    cases time with
    | none =>
      have hl : (Text.decimal (e + 1)).length = 1 :=
        Nat.le_antisymm (Text.length_decimal_le (by decide) (Nat.lt_of_le_of_lt e.isLt (by decide)))
          (Text.length_decimal_pos _)
      rw [unmarked, timePart, List.append_nil, classify?_digits hd]
      rcases m with ⟨_ | _, _ | _, _, _ | _⟩ <;> simp [hl, granularity, fits]
    | some τ =>
      have hh : '-' ∉ Text.decimal (e + 1) ++ timePart (some τ) := by
        simp [Text.not_mem_of_isDigits hd, hyphen_not_mem_timePart]
      rw [unmarked, classify?_timed ((Text.IsPlain.of_isDigits hd).append (.timePart _)) hh
        (c := 'T') (by simp [timePart]) rfl]
      cases hw : m.weekReference <;> simp [granularity, fits, hw]
  | timeAlone τ =>
    have hs : Granularity.hasTimeSign (timePart (some τ)) = true := by
      simp [Granularity.hasTimeSign, timePart]
    rw [unmarked, classify?_timed (.timePart _) (hyphen_not_mem_timePart _) (c := 'T')
      (by simp [timePart]) rfl]
    cases hw : m.weekReference <;> simp [granularity, fits, hw, hs, isTimeShape_text]
  | bareTime τ h =>
    have hs := hasTimeSign_text_iff.mpr h
    have hh : '-' ∉ τ.text := fun hm => by
      rcases TimeSpelling.char_of_mem_text hm with h | h <;> simp at h
    have hm : ':' ∈ τ.text := by
      simpa [Granularity.hasTimeSign, TimeSpelling.designator_not_mem_text] using hs
    rw [unmarked, classify?_timed (.text τ) hh hm rfl]
    cases hw : m.weekReference <;> simp [granularity, fits, hw, hs, isTimeShape_text]

end Token.Spelling

-- ---------------------------------------------------------------------------
-- Classes and readings together
-- ---------------------------------------------------------------------------

theorem read_unmarked (s : Spelling) :
    Temporal.read s.unmarked s.granularity true = .ok s.value := by
  by_cases hg : s.granularity = .timeOnly
  · cases s with
    | timeAlone τ => exact Temporal.read_timeOnly_eq_ok_iff.mpr ⟨τ, .inl rfl, rfl⟩
    | bareTime τ => exact Temporal.read_timeOnly_eq_ok_iff.mpr ⟨τ, .inr rfl, rfl⟩
    | date d time => cases time <;> simp [Spelling.granularity] at hg
    | monthDay md time => cases time <;> simp [Spelling.granularity] at hg
    | _ => simp [Spelling.granularity] at hg
  · obtain ⟨p, time, ht, hp, h1, h2, hv⟩ := DatePart.exists_text_eq hg
    obtain ⟨c, hc, hw⟩ := DatePart.exists_captures_iff.mpr ⟨p, hp, rfl, rfl⟩
    exact (Temporal.read_eq_ok_iff hg).mpr ⟨p.text, time, c, p.value, ht.symm, h1, h2, hc, hw, hv⟩

theorem exists_spelling_of_read {t : Text} {m : Markers} {g : Granularity} {v : Temporal}
    (hc : Granularity.classify? t m = some g) (hv : Temporal.read t g true = .ok v) :
    ∃ s : Spelling, s.unmarked = t ∧ s.granularity = g ∧ s.value = v := by
  by_cases hg : g = .timeOnly
  · subst hg
    have hs := Granularity.hasTimeSign_of_classify? hc
    obtain ⟨τ, rfl | rfl, rfl⟩ := Temporal.read_timeOnly_eq_ok_iff.mp hv
    · exact ⟨.timeAlone τ, rfl, rfl, rfl⟩
    · exact ⟨.bareTime τ (Granularity.hasTimeSign_text_iff.mp hs), rfl, rfl, rfl⟩
  · obtain ⟨d, time, c, w, rfl, h1, h2, hr, hw, rfl⟩ := (Temporal.read_eq_ok_iff hg).mp hv
    obtain ⟨p, hp, rfl, rfl⟩ := DatePart.exists_captures_iff.mp ⟨c, hr, hw⟩
    exact DatePart.exists_unmarked_eq hp h1 h2

/-- The texts that are read in their own class are the unmarked spellings that the markers
fit. -/
theorem exists_spelling_iff {t : Text} {m : Markers} {g : Granularity} {v : Temporal} :
    (Granularity.classify? t m = some g ∧ Temporal.read t g true = .ok v) ↔
      ∃ s : Spelling, s.unmarked = t ∧ s.fits m = true ∧ s.granularity = g ∧ s.value = v := by
  constructor
  · rintro ⟨hc, hv⟩
    obtain ⟨s, rfl, rfl, rfl⟩ := exists_spelling_of_read hc hv
    exact ⟨s, rfl, (s.classify?_unmarked_iff m).mp hc, rfl, rfl⟩
  · rintro ⟨s, rfl, hf, rfl, rfl⟩
    exact ⟨(s.classify?_unmarked_iff m).mpr hf, read_unmarked s⟩

end Timex
