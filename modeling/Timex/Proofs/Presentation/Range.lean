import Timex.Proofs.Normalizer.Analysis
import Timex.Proofs.Presentation

/-!
# What is out of range

A facet of a well-formed value is out of range exactly if the value lacks a field that the facet
shows. The settings have no part in it: they are not looked at for what is lacking, and if they
name no locale or no pattern they break off what is there.
-/

namespace Timex.Presentation

-- ---------------------------------------------------------------------------
-- Texts in range
-- ---------------------------------------------------------------------------

/-- What fails, if it does, for other reasons than the fields of a value. -/
def InRange (x : Except PresentationError α) : Prop := ∀ e, x ≠ .error (.outOfRange e)

theorem InRange.not_exists {x : Except PresentationError α} (h : InRange x) :
    ¬ ∃ e, x = .error (.outOfRange e) := fun ⟨e, he⟩ => h e he

theorem inRange_ok (a : α) : InRange (.ok a) := nofun

theorem inRange_mapError (x : Except ε α) (f : ε → Breach) :
    InRange (x.mapError fun e => .breach (f e)) := by
  intro e h
  obtain ⟨_, -, he⟩ := mapError_eq_error_iff.mp h
  simp at he

theorem InRange.bind {x : Except PresentationError α} {f : α → Except PresentationError β}
    (hx : InRange x) (hf : ∀ a, InRange (f a)) : InRange (x >>= f) := by
  intro e h
  rcases bind_eq_error_iff.mp h with he | ⟨a, -, he⟩
  · exact hx e he
  · exact hf a e he

section
variable [LocaleLibrary] {s : Settings} {v : Temporal} {text : Presented}

theorem inRange_skeleton (pattern : Locale → String) (year month day : Int) :
    InRange (skeleton s pattern year month day) :=
  .bind (inRange_mapError _ _) fun _ => .bind (inRange_mapError _ _) fun _ => inRange_mapError _ _

theorem inRange_of_dateText? (h : dateText? s v = some text) : InRange text := by
  unfold dateText? at h
  split at h
  · rw [← Option.some.inj h]
    exact .bind (inRange_mapError _ _) fun _ => .bind (inRange_mapError _ _) fun _ =>
      inRange_mapError _ _
  · rw [← Option.some.inj h]
    exact inRange_skeleton _ _ _ _
  · simp at h

theorem inRange_of_timeText? (h : timeText? s v = some text) : InRange text := by
  unfold timeText? at h
  split at h
  · rw [← Option.some.inj h]
    exact .bind (inRange_mapError _ _) fun _ => .bind (inRange_mapError _ _) fun _ =>
      inRange_mapError _ _
  · simp at h

theorem inRange_weekdayName {w : Int} (hw : 1 ≤ w ∧ w ≤ 7) (tag : Text) :
    InRange (weekdayName tag (some w)) := by
  rw [weekdayName, dif_pos hw]
  exact .bind (inRange_mapError _ _) fun _ => inRange_ok _

theorem inRange_monthName {m : Int} (hm : 1 ≤ m ∧ m ≤ 12) (tag : Text) :
    InRange (monthName tag (some m)) := by
  rw [monthName, dif_pos hm]
  exact .bind (inRange_mapError _ _) fun _ => inRange_ok _

-- ---------------------------------------------------------------------------
-- Texts that are there
-- ---------------------------------------------------------------------------

variable (hv : v.WellFormed)
include hv

theorem isSome_dateText? : (dateText? s v).isSome = (v.year.isSome && v.month.isSome) := by
  unfold dateText?
  cases hy : v.year with
  | none => rfl
  | some y =>
    obtain ⟨m, hm⟩ := Option.isSome_iff_exists.mp (hv.month_of_year (by simp [hy]))
    cases v.day <;> simp [hm]

theorem isSome_timeText? : (timeText? s v).isSome = v.hadExplicitTime := by
  unfold timeText?
  cases ht : v.hadExplicitTime with
  | false => rfl
  | true =>
    obtain ⟨h, hh⟩ := Option.isSome_iff_exists.mp (hv.hour_iff.mpr ht)
    simp [hh]

theorem isSome_dateOrWeekday? :
    (dateOrWeekday? s v).isSome = (v.year.isSome && v.month.isSome || v.weekday.isSome) := by
  rw [← isSome_dateText? (s := s) hv]
  unfold dateOrWeekday?
  cases dateText? s v with
  | some date => rfl
  | none => cases v.weekday <;> rfl

theorem inRange_of_dateOrWeekday? (h : dateOrWeekday? s v = some text) : InRange text := by
  unfold dateOrWeekday? at h
  cases hd : dateText? s v with
  | some date =>
    rw [hd] at h
    exact Option.some.inj h ▸ inRange_of_dateText? hd
  | none =>
    cases hw : v.weekday with
    | none => simp [hd, hw] at h
    | some w =>
      simp only [hd, hw, Option.isSome_some, if_true, Option.some.injEq] at h
      exact h ▸ inRange_weekdayName (hv.weekday_bounds w hw) s.locale

-- ---------------------------------------------------------------------------
-- Facets
-- ---------------------------------------------------------------------------

theorem weekdayName_outOfRange_iff :
    (∃ e, weekdayName s.locale v.weekday = .error (.outOfRange e)) ↔ v.weekday.isSome = false := by
  cases hw : v.weekday with
  | none => simp [weekdayName]
  | some w =>
    have hin := inRange_weekdayName (hv.weekday_bounds w hw) s.locale
    exact iff_of_false hin.not_exists (by simp)

theorem monthName_outOfRange_iff :
    (∃ e, monthName s.locale v.month = .error (.outOfRange e)) ↔ v.month.isSome = false := by
  cases hm : v.month with
  | none => simp [monthName]
  | some m =>
    have hin := inRange_monthName (hv.month_bounds m hm) s.locale
    exact iff_of_false hin.not_exists (by simp)

omit [LocaleLibrary] in
theorem zeroPaddedDay_outOfRange_iff :
    (∃ e, zeroPaddedDay v.day = .error (.outOfRange e)) ↔ v.day.isSome = false := by
  cases hd : v.day with
  | none => simp [zeroPaddedDay]
  | some d => simp [zeroPaddedDay, hv.day_bounds d hd]

theorem localizedDate_outOfRange_iff :
    (∃ e, localizedDate s v = .error (.outOfRange e)) ↔
      (v.year.isSome && v.month.isSome) = false := by
  rw [← isSome_dateText? (s := s) hv, localizedDate]
  cases hd : dateText? s v with
  | none => simp
  | some date => exact iff_of_false (inRange_of_dateText? hd).not_exists (by simp)

theorem localizedTime_outOfRange_iff :
    (∃ e, localizedTime s v = .error (.outOfRange e)) ↔ v.hadExplicitTime = false := by
  rw [← isSome_timeText? (s := s) hv, localizedTime]
  cases ht : timeText? s v with
  | none => simp
  | some time => exact iff_of_false (inRange_of_timeText? ht).not_exists (by simp)

theorem localizedDateTime_outOfRange_iff :
    (∃ e, localizedDateTime s v = .error (.outOfRange e)) ↔
      (v.year.isSome && v.month.isSome || v.weekday.isSome || v.hadExplicitTime) = false := by
  rw [← isSome_timeText? (s := s) hv, ← isSome_dateOrWeekday? (s := s) hv, localizedDateTime_eq]
  cases hd : dateOrWeekday? s v with
  | none =>
    cases ht : timeText? s v with
    | none => simp
    | some time => exact iff_of_false (inRange_of_timeText? ht).not_exists (by simp)
  | some date =>
    have hdate := inRange_of_dateOrWeekday? hv hd
    cases ht : timeText? s v with
    | none => exact iff_of_false hdate.not_exists (by simp)
    | some time =>
      have htime := inRange_of_timeText? ht
      refine iff_of_false (InRange.not_exists ?_) (by simp)
      exact hdate.bind fun _ => htime.bind fun _ =>
        (inRange_mapError _ _).bind fun _ => inRange_ok _

omit hv in
theorem localizedDateWithoutYear_outOfRange_iff :
    (∃ e, localizedDateWithoutYear s v = .error (.outOfRange e)) ↔
      (v.month.isSome && v.day.isSome) = false := by
  unfold localizedDateWithoutYear
  cases v.month with
  | none => simp
  | some m =>
    cases v.day with
    | none => simp
    | some d => exact iff_of_false (inRange_skeleton _ _ _ _).not_exists (by simp)

end
end Timex.Presentation

namespace Timex

open Presentation in
/-- A facet of a well-formed value is out of range exactly if the value lacks what it shows. -/
theorem present_outOfRange_iff [LocaleLibrary] (s : Settings) {v : Temporal} (hv : v.WellFormed)
    (facet : Facet) :
    (∃ e, present s facet v = .error (.outOfRange e)) ↔ facet.shows v = false := by
  cases facet with
  | weekdayName => exact weekdayName_outOfRange_iff hv
  | monthName => exact monthName_outOfRange_iff hv
  | zeroPaddedDay => exact zeroPaddedDay_outOfRange_iff hv
  | localizedDate => exact localizedDate_outOfRange_iff hv
  | localizedDateTime => exact localizedDateTime_outOfRange_iff hv
  | localizedDateWithoutYear => exact localizedDateWithoutYear_outOfRange_iff
  | localizedTime => exact localizedTime_outOfRange_iff hv

end Timex
