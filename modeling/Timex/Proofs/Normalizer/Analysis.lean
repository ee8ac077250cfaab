import Timex.Normalizer.Basic
import Timex.Proofs.Token.Marked

/-!
# What is understood

Classifying and reading accept the unmarked spellings that the markers fit, and give
their granularities and values. Every spelled token is understood, and a token that is
not understood is a fault of one of the two stages.
-/

namespace Timex

open Token (Spelling)

-- ---------------------------------------------------------------------------
-- Stages
-- ---------------------------------------------------------------------------

theorem bind_eq_ok_iff {x : Except ε α} {f : α → Except ε β} :
    x >>= f = .ok b ↔ ∃ a, x = .ok a ∧ f a = .ok b := by
  cases x <;> simp [bind, Except.bind]

theorem pure_eq_ok_iff : (pure a : Except ε α) = .ok b ↔ a = b := by
  simp [pure, Except.pure]

theorem mapError_eq_ok_iff {x : Except ε α} {f : ε → ε'} : x.mapError f = .ok a ↔ x = .ok a := by
  cases x <;> simp [Except.mapError]

theorem bind_eq_error_iff {x : Except ε α} {f : α → Except ε β} :
    x >>= f = .error e ↔ x = .error e ∨ ∃ a, x = .ok a ∧ f a = .error e := by
  cases x <;> simp [bind, Except.bind]

theorem mapError_eq_error_iff {x : Except ε α} {f : ε → ε'} :
    x.mapError f = .error e ↔ ∃ e', x = .error e' ∧ f e' = e := by
  cases x <;> simp [Except.mapError]

theorem classify_eq_ok_iff {r : Resolution} {g : Granularity} :
    classify r = .ok g ↔ Granularity.classify? r.text r.markers = some g := by
  unfold classify
  cases Granularity.classify? r.text r.markers <;> simp

theorem parse_eq_ok_iff {t : Text} {g : Granularity} {synthesize : Bool} {v : Temporal} :
    parse t g synthesize = .ok v ↔ Temporal.read t g synthesize = .ok v := by
  rw [parse, mapError_eq_ok_iff]

/-- A text is classified and read under markers exactly if it is an unmarked spelling that
the markers fit, and then it is read as the value of the spelling. -/
theorem accepted_iff_spelled {t : Text} {m : Markers} {g : Granularity} {v : Temporal} :
    (classify ⟨t, m⟩ = .ok g ∧ parse t g true = .ok v) ↔
      ∃ s : Spelling, s.unmarked = t ∧ s.fits m = true ∧ s.granularity = g ∧ s.value = v := by
  rw [classify_eq_ok_iff, parse_eq_ok_iff]
  exact exists_spelling_iff

theorem interpret_eq_ok_iff {r : Resolution} {a : Analysis} :
    interpret r = .ok a ↔
      ∃ s : Spelling, s.unmarked = r.text ∧ s.fits r.markers = true ∧
        s.granularity = a.granularity ∧ s.value = a.value := by
  rw [← exists_spelling_iff]
  simp only [interpret, bind_eq_ok_iff, pure_eq_ok_iff, classify_eq_ok_iff, parse_eq_ok_iff]
  constructor
  · rintro ⟨g, hg, v, hv, rfl⟩
    exact ⟨hg, hv⟩
  · rintro ⟨hg, hv⟩
    exact ⟨_, hg, _, hv, rfl⟩

theorem analyze_eq_ok_iff {filling : Filling} {today : Date} {token : Text} {a : Analysis} :
    analyze filling today token = .ok a ↔ interpret (resolve filling today token) = .ok a := by
  rw [analyze, mapError_eq_ok_iff]

/-- What is understood is spelled: its resolution is an unmarked spelling that the markers fit. -/
theorem exists_spelling_of_analyze {filling : Filling} {today : Date} {token : Text} {a : Analysis}
    (h : analyze filling today token = .ok a) :
    ∃ s : Spelling, s.unmarked = (resolve filling today token).text ∧
      s.fits (resolve filling today token).markers = true ∧
      s.granularity = a.granularity ∧ s.value = a.value :=
  interpret_eq_ok_iff.mp (analyze_eq_ok_iff.mp h)

-- ---------------------------------------------------------------------------
-- Faults
-- ---------------------------------------------------------------------------

theorem kind_of_classify {r : Resolution} {f : Fault} (h : classify r = .error f) :
    f.kind = .unrecognizedGranularity := by
  unfold classify at h
  split at h
  · simp at h
  · rw [← Except.error.inj h]
    rfl

theorem kind_of_parse {t : Text} {g : Granularity} {synthesize : Bool} {f : Fault}
    (h : parse t g synthesize = .error f) : f.kind = .ambiguousOrInvalidFormat := by
  obtain ⟨e, -, rfl⟩ := mapError_eq_error_iff.mp h
  rfl

theorem kind_of_interpret {r : Resolution} {f : Fault} (h : interpret r = .error f) :
    f.kind = .unrecognizedGranularity ∨ f.kind = .ambiguousOrInvalidFormat := by
  rcases bind_eq_error_iff.mp h with hc | ⟨g, -, h⟩
  · exact .inl (kind_of_classify hc)
  · rcases bind_eq_error_iff.mp h with hv | ⟨v, -, h⟩
    · exact .inr (kind_of_parse hv)
    · simp [pure, Except.pure] at h

/-- What is not understood has no class, or cannot be read in its class. -/
theorem kind_of_analyze {filling : Filling} {today : Date} {token : Text} {f : Fault}
    (h : analyze filling today token = .error f) :
    f.kind = .unrecognizedGranularity ∨ f.kind = .ambiguousOrInvalidFormat := by
  obtain ⟨e, he, rfl⟩ := mapError_eq_error_iff.mp h
  have hk := kind_of_interpret he
  exact hk

theorem interpret_of_no_class {t : Text} {m : Markers} (h : Granularity.classify? t m = none) :
    ∃ f, interpret ⟨t, m⟩ = .error f ∧ f.kind = .unrecognizedGranularity := by
  have hc : classify ⟨t, m⟩ = .error (Fault.ofShape t) := by
    rw [classify, h]
  exact ⟨_, bind_eq_error_iff.mpr (.inl hc), kind_of_classify hc⟩

/-- A text that has a class but is no unmarked spelling is read by no pattern. -/
theorem interpret_of_not_spelled {t : Text} {m : Markers} {g : Granularity}
    (hg : Granularity.classify? t m = some g) (h : ∀ s : Spelling, s.unmarked ≠ t) :
    ∃ f, interpret ⟨t, m⟩ = .error f ∧ f.kind = .ambiguousOrInvalidFormat := by
  cases hi : interpret ⟨t, m⟩ with
  | ok a =>
    obtain ⟨s, ht, -⟩ := interpret_eq_ok_iff.mp hi
    exact absurd ht (h s)
  | error f =>
    refine ⟨f, rfl, ?_⟩
    rcases bind_eq_error_iff.mp hi with hc | ⟨g', -, hi⟩
    · rw [classify_eq_ok_iff.mpr hg] at hc
      simp at hc
    · rcases bind_eq_error_iff.mp hi with hv | ⟨v, -, hi⟩
      · exact kind_of_parse hv
      · simp [pure, Except.pure] at hi

/-- No wildcard is left in a text that is understood. -/
theorem wildcard_not_mem_of_interpret {r : Resolution} {a : Analysis} (h : interpret r = .ok a) :
    'X' ∉ r.text := by
  obtain ⟨s, ht, -⟩ := interpret_eq_ok_iff.mp h
  exact ht ▸ s.not_mem_unmarked.1

theorem analyze_eq_error_of_interpret {filling : Filling} {today : Date} {token : Text}
    {kind : Fault.Kind}
    (h : ∃ f, interpret (resolve filling today token) = .error f ∧ f.kind = kind) :
    ∃ f, analyze filling today token = .error f ∧ f.kind = kind := by
  obtain ⟨f, hi, hk⟩ := h
  exact ⟨f.attach token, mapError_eq_error_iff.mpr ⟨f, hi, rfl⟩, hk⟩

-- ---------------------------------------------------------------------------
-- Analyses
-- ---------------------------------------------------------------------------

/-- The day on which the examples are understood. -/
def exampleDay : Date := ⟨2024, 5, 20, by decide, by decide, by decide⟩

/-- A spelled token is understood as what it spells, on any day. -/
theorem analyze_strip_text (s : Spelling) (today : Date) :
    analyze .strip today s.text = .ok ⟨s.granularity, s.value⟩ := by
  rw [analyze_eq_ok_iff, s.resolve_strip_text, interpret_eq_ok_iff]
  exact ⟨s, rfl, s.fits_markers, rfl, rfl⟩

/-- An unmarked spelling that needs no markers is understood under both fillings, on any day. -/
theorem analyze_unmarked {s : Spelling} (h : s.fits Markers.none = true) (filling : Filling)
    (today : Date) : analyze filling today s.unmarked = .ok ⟨s.granularity, s.value⟩ := by
  rw [analyze_eq_ok_iff, s.isPlain_unmarked.resolve, interpret_eq_ok_iff]
  exact ⟨s, rfl, h, rfl, rfl⟩

end Timex
