import Timex.Proofs.Temporal.Failure

/-!
# Classes and the place of the time

A class takes a colon as well as a `T` for the sign of a time, and a text is cut at a `T` alone.
The two agree on every text that has a class: among digit groups no colon goes without a `T`,
and a `T` is left only where the class has a time part.
-/

namespace Timex

namespace Temporal

variable {t : Text} {m : Markers} {g : Granularity}

theorem isSome_time_ofText_iff (hg : g ≠ .timeOnly) :
    (Parts.ofText g t).time.isSome = true ↔ 'T' ∈ t := by
  rw [ofText_of_ne hg]
  cases hc : Text.cut 'T' t with
  | mk before after =>
    obtain ⟨hbefore, ht⟩ := Text.eq_of_cut hc
    cases after with
    | none =>
      have hT : 'T' ∉ t := by
        rw [ht]
        simpa using hbefore
      simp [hT]
    | some rest => simp [ht]

/-- In a text that has a class the time is in place. -/
theorem not_isMisplaced_of_classify? (h : Granularity.classify? t m = some g) :
    (Parts.ofText g t).isMisplaced g = false := by
  rw [Bool.eq_false_iff]
  intro hm
  rcases Parts.isMisplaced_iff.mp hm with htime | ⟨rfl, htime⟩
  · rw [Bool.and_eq_true, Bool.not_eq_true'] at htime
    obtain ⟨hsome, hpart⟩ := htime
    have hg : g ≠ .timeOnly := by
      rintro rfl
      simp [Granularity.hasTimePart] at hpart
    have hT := (isSome_time_ofText_iff hg).mp hsome
    rcases Granularity.classify?_cases h with ⟨-, -, hfull⟩ | ⟨-, hother, -⟩
    · rw [hfull.mpr hT] at hpart
      simp [Granularity.hasTimePart] at hpart
    · rcases hother with hpart' | hT'
      · rw [hpart] at hpart'
        simp at hpart'
      · exact hT' hT
  · rcases Granularity.classify?_cases h with ⟨-, -, hfull⟩ | ⟨hrow, -⟩
    · have hsome := (isSome_time_ofText_iff (g := .fullDateTime) (by simp)).mpr (hfull.mp rfl)
      rw [htime] at hsome
      simp at hsome
    · simp [Granularity.isRow] at hrow

/-- The date part of a row is its groups, each with a digit. -/
theorem date_of_row (h : Granularity.classify? t m = some g) (hg : g.isRow = true) :
    ∃ gs, gs ≠ [] ∧ (∀ d ∈ gs, Text.isDigits d = true) ∧
      (Parts.ofText g t).date = some (Text.join '-' gs) := by
  have hne : g ≠ .timeOnly := by
    rintro rfl
    simp [Granularity.isRow] at hg
  rcases Granularity.classify?_cases h with ⟨-, hd, -⟩ | ⟨hrow, -⟩
  · refine ⟨Granularity.dateGroups t, Text.split_ne_nil '-' _, hd, ?_⟩
    rw [ofText_of_ne hne, Granularity.dateGroups, Text.join_split]
  · rw [hg] at hrow
    simp at hrow

end Temporal

/-- A text that has a class has its time in place: if it cannot be read, patterns were tried. The
date part of a row of groups is such a row. -/
theorem time_in_place_of_classify {t : Text} {m : Markers} {g : Granularity}
    (h : classify ⟨t, m⟩ = .ok g) :
    (∀ synthesize f, parse t g synthesize = .error f →
      ∃ e, Temporal.read t g synthesize = .error e ∧ f = Fault.ofReading t g e ∧
        e.reason ≠ .unexpectedTime ∧ e.reason ≠ .missingTime ∧ e.tried ≠ [] ∧
        f.context.metadata.lookup "attempted".toList =
          some (.list ((e.tried.map String.toList).map .text))) ∧
      (g ∈ [.fullDateTime, .dateOnly, .yearMonth, .monthDay] →
        ∃ gs, gs ≠ [] ∧ (∀ d ∈ gs, Text.isDigits d = true) ∧
          (Temporal.Parts.ofText g t).date = some (Text.join '-' gs)) := by
  have hclass := classify_eq_ok_iff.mp h
  constructor
  · intro synthesize f hf
    obtain ⟨e, he, rfl⟩ := mapError_eq_error_iff.mp hf
    have hplaced : ¬ (Temporal.Parts.ofText g t).isMisplaced g = true := by
      rw [Temporal.not_isMisplaced_of_classify? hclass]
      exact Bool.false_ne_true
    obtain ⟨hunexpected, hmissing⟩ := Temporal.reason_of_placed he hplaced
    exact ⟨e, he, rfl, hunexpected, hmissing, Temporal.tried_ne_nil he hplaced,
      Fault.attempted_ofReading e⟩
  · intro hg
    refine Temporal.date_of_row hclass ?_
    cases g <;> first | rfl | simp at hg

/-- There is no 30th of February, whatever stands behind it. -/
theorem time_in_place_of_half_past_two :
    classify ⟨"2019-02-30T14:30".toList, Markers.none⟩ = .ok .fullDateTime ∧
      (∃ f e, parse "2019-02-30T14:30".toList .fullDateTime true = .error f ∧
        f = Fault.ofReading "2019-02-30T14:30".toList .fullDateTime e ∧ e.tried ≠ []) ∧
      ∃ gs, gs ≠ [] ∧ (∀ d ∈ gs, Text.isDigits d = true) ∧
        (Temporal.Parts.ofText .fullDateTime "2019-02-30T14:30".toList).date =
          some (Text.join '-' gs) := by
  have hclass : classify ⟨"2019-02-30T14:30".toList, Markers.none⟩ = .ok .fullDateTime := rfl
  obtain ⟨f, hf⟩ : ∃ f, parse "2019-02-30T14:30".toList .fullDateTime true = .error f := ⟨_, rfl⟩
  obtain ⟨hfault, hrow⟩ := time_in_place_of_classify hclass
  obtain ⟨e, -, he, -, -, htried, -⟩ := hfault true f hf
  exact ⟨hclass, ⟨f, e, hf, he, htried⟩, hrow (by simp)⟩

end Timex
