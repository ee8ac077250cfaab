import Timex.Proofs.Normalizer.Analysis
import Timex.Proofs.Presentation

/-!
# Outcomes of a normalization

Under settings that render, a normalization ends in an output or in a fault, and the
fields of what is understood decide which.
-/

namespace Timex

open Presentation (DecidedBy)

theorem wellFormed_of_analyze {filling : Filling} {today : Date} {token : Text} {a : Analysis}
    (h : analyze filling today token = .ok a) : a.value.WellFormed := by
  obtain ⟨s, -, -, -, hv⟩ := exists_spelling_of_analyze h
  exact hv ▸ s.wellFormed_value

section
variable [LocaleLibrary] {s : Settings} {today : Date} {facet : Facet} {token : Text}
  {a : Analysis} {out : Output}

theorem presentAs_eq_ok_iff :
    presentAs s facet token a = .ok out ↔
      ∃ text, present s facet a.value = .ok text ∧ ⟨text, a.granularity, token, facet⟩ = out := by
  unfold presentAs
  cases present s facet a.value with
  | ok text => simp
  | error e => cases e <;> simp

theorem normalize_of_analyze (h : analyze facet.filling today token = .ok a) :
    normalize s today token facet = presentAs s facet token a := by
  rw [normalize, h]
  rfl

theorem normalize_eq_ok_iff (facet : Facet) (h : analyze facet.filling today token = .ok a) :
    normalize s today token facet = .ok out ↔
      ∃ text, present s facet a.value = .ok text ∧ ⟨text, a.granularity, token, facet⟩ = out := by
  rw [normalize_of_analyze h, presentAs_eq_ok_iff]

end

/-- The fault is out of range, and its metadata are the field, the value and the facet. -/
structure Fault.TellsOutOfRange (f : Fault) (e : OutOfRange) : Prop where
  kind : f.kind = .outOfRange
  metadata : f.context.metadata =
    [("field".toList, .text e.gap.name.toList),
      ("value".toList, e.value.elim .null .integer),
      ("kind".toList, .text e.facet.name.toList)]

theorem Fault.tellsOutOfRange_attach (e : OutOfRange) (token : Text) :
    ((Fault.ofOutOfRange e).attach token).TellsOutOfRange e := by
  obtain ⟨gap, value, facet⟩ := e
  cases value with
  | none => exact ⟨rfl, rfl⟩
  | some n => exact ⟨rfl, rfl⟩

/-- A normalization fails as its analysis does. What is understood is an output if it has
the fields that the facet shows, and else out of range for a field that it lacks. -/
theorem normalize_decided [LocaleLibrary] {s : Settings} {l : Locale} (hs : s.RenderIn l)
    (today : Date) (token : Text) (facet : Facet) :
    match analyze facet.filling today token with
    | .error f =>
      (f.kind = .unrecognizedGranularity ∨ f.kind = .ambiguousOrInvalidFormat) ∧
        normalize s today token facet = .error (.fault f)
    | .ok a =>
      if facet.shows a.value then
        ∃ text, normalize s today token facet = .ok ⟨text, a.granularity, token, facet⟩
      else
        ∃ gap, gap.AbsentIn a.value ∧
          normalize s today token facet =
            .error (.fault ((Fault.ofOutOfRange ⟨gap, none, facet⟩).attach token)) ∧
          ((Fault.ofOutOfRange ⟨gap, none, facet⟩).attach token).TellsOutOfRange
            ⟨gap, none, facet⟩ := by
  cases ha : analyze facet.filling today token with
  | error f =>
    refine ⟨kind_of_analyze ha, ?_⟩
    simp [normalize, ha, Except.mapError, bind, Except.bind]
  | ok a =>
    have hp := present_decided hs (wellFormed_of_analyze ha) facet
    unfold DecidedBy at hp
    simp only
    split
    · rename_i hf
      rw [if_pos hf] at hp
      obtain ⟨text, ht⟩ := hp
      refine ⟨text, ?_⟩
      simp [normalize, ha, presentAs, ht, Except.mapError, bind, Except.bind]
    · rename_i hf
      rw [if_neg hf] at hp
      obtain ⟨gap, hg, ht⟩ := hp
      refine ⟨gap, hg, ?_, Fault.tellsOutOfRange_attach _ token⟩
      simp [normalize, ha, presentAs, ht, Except.mapError, bind, Except.bind]

theorem sunday_decided :
    Settings.default.RenderIn Locale.enUS ∧
      (∃ text, normalize Settings.default ⟨2024, 5, 20, by decide, by decide, by decide⟩
        "XXXX-WXX-7".toList .weekdayName =
          .ok ⟨text, .weekdayOnly, "XXXX-WXX-7".toList, .weekdayName⟩) ∧
      (∃ gap, gap.AbsentIn { Temporal.empty with weekday := some 7 } ∧
        normalize Settings.default ⟨2024, 5, 20, by decide, by decide, by decide⟩
          "XXXX-WXX-7".toList .localizedDate =
            .error (.fault ((Fault.ofOutOfRange ⟨gap, none, .localizedDate⟩).attach
              "XXXX-WXX-7".toList))) ∧
      ∃ f, normalize Settings.default ⟨2024, 5, 20, by decide, by decide, by decide⟩
          "XXXX-WXX-7".toList .localizedDate = .error (.fault f) ∧ f.kind = .outOfRange ∧
        f.context.metadata = [("field".toList, .text "date".toList), ("value".toList, .null),
          ("kind".toList, .text "localized_date".toList)] := by
  refine ⟨Settings.default_renderIn, ?_, ?_, _, rfl, rfl, rfl⟩
  · exact normalize_decided Settings.default_renderIn
      ⟨2024, 5, 20, by decide, by decide, by decide⟩ "XXXX-WXX-7".toList .weekdayName
  · obtain ⟨gap, hg, hn, -⟩ := normalize_decided Settings.default_renderIn
      ⟨2024, 5, 20, by decide, by decide, by decide⟩ "XXXX-WXX-7".toList .localizedDate
    exact ⟨gap, hg, hn⟩

end Timex
