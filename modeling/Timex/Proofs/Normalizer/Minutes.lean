import Timex.Proofs.Normalizer.Analysis

/-!
# Minutes of an hour alone

Whether the minutes of an hour alone are synthesized decides nothing but the minute of its
value. The same texts are read: the date part and the spelled time of day are the same, and
a time with minutes is read as it stands.
-/

namespace Timex

open Token (TimeSpelling timePart withTimePartAs)

-- ---------------------------------------------------------------------------
-- Both ways of reading
-- ---------------------------------------------------------------------------

/-- What is read is read both ways, as one value on which one time is set. -/
theorem Temporal.exists_withTimePartAs_of_read {t : Text} {g : Granularity} {synthesize : Bool}
    {v : Temporal} (h : read t g synthesize = .ok v) :
    ∃ w time, withTimePartAs synthesize w time = v ∧
      (Parts.ofText g t).time = time.map TimeSpelling.text ∧
      ∀ way, read t g way = .ok (withTimePartAs way w time) := by
  by_cases hg : g = .timeOnly
  · subst hg
    obtain ⟨τ, hτ, rfl⟩ := readAs_timeOnly_eq_ok_iff.mp h
    obtain ⟨u, hu, ht⟩ := exists_ofText_timeOnly t
    refine ⟨empty, some τ, rfl, ?_, fun way => readAs_timeOnly_eq_ok_iff.mpr ⟨τ, hτ, rfl⟩⟩
    rw [hu, ← (ht τ).mpr hτ]
    rfl
  · obtain ⟨d, time, c, w, rfl, h1, h2, hc, hw, rfl⟩ := (readAs_eq_ok_iff hg).mp h
    have hT := (Pattern.timeless_of_findSome? hc).2
    refine ⟨w, time, rfl, by rw [ofText_append_timePart hg hT], fun way => ?_⟩
    exact (readAs_eq_ok_iff hg).mpr ⟨d, time, c, w, rfl, h1, h2, hc, hw, rfl⟩

/-- A time part without minutes. -/
def isHourAlone : Option Text → Bool
  | none => false
  | some u => !u.contains ':'

theorem isHourAlone_text (time : Option TimeSpelling) :
    isHourAlone (time.map TimeSpelling.text) = time.any fun τ => !τ.hasMinute := by
  cases time with
  | none => rfl
  | some τ =>
    have hcolon : τ.text.contains ':' = τ.hasMinute := by
      rw [Bool.eq_iff_iff, List.contains_iff_mem, TimeSpelling.colon_mem_text_iff]
    exact congrArg Bool.not hcolon

section
variable {time : Option TimeSpelling}

theorem minute_of_isHourAlone (h : isHourAlone (time.map TimeSpelling.text) = true)
    (v : Temporal) :
    (withTimePartAs false v time).minute = none ∧
      withTimePartAs true v time = { withTimePartAs false v time with minute := some 0 } := by
  rw [isHourAlone_text] at h
  cases time with
  | none => simp at h
  | some τ =>
    cases τ with
    | hour padded h' => exact ⟨rfl, rfl⟩
    | minute => exact absurd h Bool.false_ne_true
    | second => exact absurd h Bool.false_ne_true

theorem withTimePartAs_of_not_isHourAlone
    (h : isHourAlone (time.map TimeSpelling.text) = false) (v : Temporal) :
    withTimePartAs true v time = withTimePartAs false v time := by
  rw [isHourAlone_text] at h
  cases time with
  | none => rfl
  | some τ =>
    cases τ with
    | hour padded h' => exact absurd h.symm Bool.false_ne_true
    | minute => rfl
    | second => rfl

end

-- ---------------------------------------------------------------------------
-- What synthesis changes
-- ---------------------------------------------------------------------------

theorem exists_parse_of_parse {t : Text} {g : Granularity} {way : Bool} {v : Temporal}
    (h : parse t g way = .ok v) (way' : Bool) : ∃ w, parse t g way' = .ok w := by
  obtain ⟨x, time, -, -, hread⟩ :=
    Temporal.exists_withTimePartAs_of_read (parse_eq_ok_iff.mp h)
  exact ⟨_, parse_eq_ok_iff.mpr (hread way')⟩

/-- The hour alone is what the last two patterns of the time table read. -/
theorem Pattern.numerals_of_hourAlone {p : Pattern} (hp : p ∈ times)
    (hname : p.name = "HH" ∨ p.name = "H") : ∃ padded, p.numerals = [hourOf padded] := by
  have hs : ∀ p ∈ times, p.name = "HH" ∨ p.name = "H" →
      ∃ padded, p.numerals = [hourOf padded] := by decide
  exact hs p hp hname

/-- With and without synthesis the same texts are read. The values are the same but for an
hour alone, whose minute is 0 with synthesis and absent without. With synthesis no pattern
of an hour alone reads anything. -/
theorem synthesis_changes_missing_minute (t : Text) (g : Granularity) :
    ((∃ v, parse t g true = .ok v) ↔ ∃ w, parse t g false = .ok w) ∧
      (∀ v w, parse t g true = .ok v → parse t g false = .ok w →
        if isHourAlone (Temporal.Parts.ofText g t).time then
          w.minute = none ∧ v = { w with minute := some 0 }
        else v = w) ∧
      ∀ p ∈ Pattern.times, p.name = "HH" ∨ p.name = "H" →
        ∀ u, p.read? (addMissingMinutes u) = none := by
  refine ⟨⟨fun ⟨_, h⟩ => exists_parse_of_parse h false, fun ⟨_, h⟩ => exists_parse_of_parse h true⟩,
    ?_, ?_⟩
  · intro v w hv hw
    obtain ⟨x, time, rfl, htime, hread⟩ :=
      Temporal.exists_withTimePartAs_of_read (parse_eq_ok_iff.mp hv)
    obtain rfl : withTimePartAs false x time = w :=
      Except.ok.inj ((hread false).symm.trans (parse_eq_ok_iff.mp hw))
    rw [htime]
    split
    · rename_i h
      exact minute_of_isHourAlone h x
    · rename_i h
      exact withTimePartAs_of_not_isHourAlone (Bool.eq_false_iff.mpr h) x
  · intro p hp hname u
    obtain ⟨padded, hn⟩ := Pattern.numerals_of_hourAlone hp hname
    exact Pattern.read?_addMissingMinutes_of_hour hp hn u

theorem fourteen_with_and_without_minute :
    ∃ v w, parse "2018-10-28T14".toList .fullDateTime true = .ok v ∧
      parse "2018-10-28T14".toList .fullDateTime false = .ok w ∧
      w.minute = none ∧ v = { w with minute := some 0 } ∧
      ∃ p ∈ Pattern.times, p.name = "HH" ∧ p.read? (addMissingMinutes "14".toList) = none := by
  have hv : parse "2018-10-28T14".toList .fullDateTime true =
      .ok ⟨some 2018, some 10, some 28, some 7, some 14, some 0, none, true⟩ := rfl
  have hw : parse "2018-10-28T14".toList .fullDateTime false =
      .ok ⟨some 2018, some 10, some 28, some 7, some 14, none, none, true⟩ := rfl
  have hp : Pattern.time24 "HH" [Pattern.paddedHour] ∈ Pattern.times := by decide
  obtain ⟨-, hvalues, hhour⟩ :=
    synthesis_changes_missing_minute "2018-10-28T14".toList .fullDateTime
  have h := hvalues _ _ hv hw
  exact ⟨_, _, hv, hw, h.1, h.2, _, hp, rfl, hhour _ hp (.inl rfl) _⟩

end Timex
