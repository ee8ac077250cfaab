import Timex.Proofs.Token.Marked

/-!
# Groups of spellings

An unmarked spelling with a hyphen is a date, a year with a month, or a month with a day.
Behind a year stands the rest of a date or a month, and behind a year and a month the rest
of a date alone.
-/

namespace Timex

-- ---------------------------------------------------------------------------
-- Times behind a date
-- ---------------------------------------------------------------------------

namespace Token

section
variable (v : Temporal) (time : Option TimeSpelling)

@[simp] theorem year_withTimePart : (withTimePart v time).year = v.year := by
  rcases time with _ | _ | _ | _ <;> rfl

@[simp] theorem month_withTimePart : (withTimePart v time).month = v.month := by
  rcases time with _ | _ | _ | _ <;> rfl

@[simp] theorem day_withTimePart : (withTimePart v time).day = v.day := by
  rcases time with _ | _ | _ | _ <;> rfl

@[simp] theorem hadExplicitTime_withTimePart :
    (withTimePart v time).hadExplicitTime = (v.hadExplicitTime || time.isSome) := by
  rcases time with _ | _ | _ | _ <;> simp [withTimePart, TimeSpelling.setOn]

end

theorem hyphen_not_mem_zeroPadded (width n : Nat) : '-' ∉ Text.zeroPadded width n :=
  Text.not_mem_of_isDigits (Text.isDigits_zeroPadded width n) rfl

/-- The digits in front of a time are those up to its designator. -/
theorem eq_of_append_timePart {a b : Text} {s t : Option TimeSpelling}
    (ha : Text.isDigits a = true) (hb : Text.isDigits b = true)
    (h : a ++ timePart s = b ++ timePart t) : a = b := by
  have hcut : ∀ {c : Text} (time : Option TimeSpelling), Text.isDigits c = true →
      (Text.cut 'T' (c ++ timePart time)).1 = c := by
    intro c time hc
    have hT : 'T' ∉ c := Text.not_mem_of_isDigits hc rfl
    cases time with
    | none => rw [timePart, List.append_nil, Text.cut_of_not_mem hT]
    | some τ => rw [timePart, Text.cut_append hT]
  rw [← hcut s ha, h, hcut t hb]

end Token

namespace Token.Spelling

-- ---------------------------------------------------------------------------
-- Markers that fit
-- ---------------------------------------------------------------------------

/-- A day mark does not tell spellings apart. -/
@[simp] theorem fits_insert_unspecifiedDay (s : Spelling) (m : Markers) :
    s.fits (m.insert .unspecifiedDay) = s.fits m := by
  cases s with
  | monthDay md time => cases time <;> rfl
  | weekday e time => cases time <;> rfl
  | _ => rfl

@[simp] theorem fits_dropDayMark (s : Spelling) (r : Resolution) :
    s.fits (Resolution.dropDayMark r).markers = s.fits r.markers := by
  rcases Resolution.markers_dropDayMark r with h | h
  · rw [h]
  · rw [h, fits_insert_unspecifiedDay]

-- ---------------------------------------------------------------------------
-- Hyphens
-- ---------------------------------------------------------------------------

variable {s : Spelling}

theorem exists_of_hyphen_mem (h : '-' ∈ s.unmarked) :
    (∃ d time, s = .date d time) ∨ (∃ ym marked, s = .yearMonth ym marked) ∨
      ∃ md time, s = .monthDay md time := by
  have hdigits : ∀ {t : Text}, Text.isDigits t = true → '-' ∉ t := fun ht =>
    Text.not_mem_of_isDigits ht rfl
  cases s with
  | date d time => exact .inl ⟨d, time, rfl⟩
  | yearMonth ym marked => exact .inr (.inl ⟨ym, marked, rfl⟩)
  | monthDay md time => exact .inr (.inr ⟨md, time, rfl⟩)
  | month m marked => exact absurd h (hdigits (Text.isDigits_zeroPadded _ _))
  | dayOfMonth padded d => exact absurd h (hdigits (isDigits_shortNumber _ _))
  | weekday e time =>
    rcases List.mem_append.mp h with h | h
    · exact absurd h (hdigits (Text.isDigits_decimal _))
    · exact absurd h (hyphen_not_mem_timePart time)
  | timeAlone τ => exact absurd h (hyphen_not_mem_timePart (some τ))
  | bareTime τ => exact absurd (List.mem_cons_of_mem _ h) (hyphen_not_mem_timePart (some τ))

/-- Behind a year stands the rest of a date or a month. -/
theorem cases_of_year_in_front {y : Nat} {u : Text}
    (h : s.unmarked = Text.zeroPadded 4 y ++ '-' :: u) :
    (∃ d time, s = .date d time ∧ d.year = y ∧
        u = Text.zeroPadded 2 d.month ++ '-' :: (Text.zeroPadded 2 d.day ++ timePart time)) ∨
      ∃ ym marked, s = .yearMonth ym marked ∧ ym.year = y ∧ u = Text.zeroPadded 2 ym.month := by
  have hz := hyphen_not_mem_zeroPadded
  have hm : '-' ∈ s.unmarked := by simp [h]
  rcases exists_of_hyphen_mem hm with ⟨d, time, rfl⟩ | ⟨ym, marked, rfl⟩ | ⟨md, time, rfl⟩
  · simp only [unmarked, Date.iso, List.append_assoc, List.cons_append,
      Text.append_sep_inj (hz _ _) (hz _ _), Text.zeroPadded_inj] at h
    exact .inl ⟨d, time, rfl, h.1, h.2.symm⟩
  · simp only [unmarked, Text.append_sep_inj (hz _ _) (hz _ _), Text.zeroPadded_inj] at h
    exact .inr ⟨ym, marked, rfl, h.1, h.2.symm⟩
  · -- A month has two digits and a year has four.
    simp only [unmarked, List.append_assoc, List.cons_append,
      Text.append_sep_inj (hz _ _) (hz _ _)] at h
    have hl : (Text.zeroPadded 2 md.month).length = 2 :=
      Text.length_zeroPadded_month md.month_bounds
    rw [h.1, Text.length_zeroPadded] at hl
    omega

theorem year_of_year_in_front {y : Nat} {u : Text}
    (h : s.unmarked = Text.zeroPadded 4 y ++ '-' :: u) : s.value.year = some (y : Int) := by
  rcases cases_of_year_in_front h with ⟨d, time, rfl, rfl, -⟩ | ⟨ym, marked, rfl, rfl, -⟩
  · simp [value, ofDate]
  · simp [value]

/-- Behind a year and a month stands the rest of a date. -/
theorem eq_date_of_month_in_front {y m : Nat} {u : Text}
    (h : s.unmarked = Text.zeroPadded 4 y ++ '-' :: (Text.zeroPadded 2 m ++ '-' :: u)) :
    ∃ d time, s = .date d time ∧ d.year = y ∧ d.month = m ∧
      u = Text.zeroPadded 2 d.day ++ timePart time := by
  have hz := hyphen_not_mem_zeroPadded
  rcases cases_of_year_in_front h with ⟨d, time, rfl, hy, hu⟩ | ⟨ym, marked, rfl, hy, hu⟩
  · simp only [Text.append_sep_inj (hz _ _) (hz _ _), Text.zeroPadded_inj] at hu
    exact ⟨d, time, rfl, hy, hu.1.symm, hu.2⟩
  · exact absurd (hu ▸ by simp : '-' ∈ Text.zeroPadded 2 ym.month) (hz _ _)

end Token.Spelling
end Timex
