import Timex.Normalizer.Basic
import Timex.Proofs.Token.Variants

/-!
# Variants are one token

Tokens of one canonical form are understood and shown alike, or fail alike: only the token that
is recorded, and the resolved text beside it in a fault, may differ.
-/

namespace Timex

open Token (Apart Wrapping)

-- ---------------------------------------------------------------------------
-- Answers
-- ---------------------------------------------------------------------------

/-- Faults that differ, if they do, in the token, in the resolved text and so in how they are
shown. -/
structure Fault.SameAnswer (f f' : Fault) : Prop where
  kind_eq : f.kind = f'.kind
  message_eq : f.message = f'.message
  stage_eq : f.context.stage = f'.context.stage
  component_eq : f.context.component = f'.context.component
  metadata_eq : f.context.metadata = f'.context.metadata

theorem Fault.SameAnswer.refl (f : Fault) : f.SameAnswer f := ⟨rfl, rfl, rfl, rfl, rfl⟩

theorem Fault.sameAnswer_attach (f : Fault) (token token' : Text) :
    (f.attach token).SameAnswer (f.attach token') := ⟨rfl, rfl, rfl, rfl, rfl⟩

/-- The same granularity and value, or faults that differ in the token. -/
def SameAnalysis : Except Fault Analysis → Except Fault Analysis → Prop
  | .ok a, .ok a' => a = a'
  | .error f, .error f' => f.SameAnswer f'
  | _, _ => False

/-- The same text, granularity and facet, or failures that differ in the token. -/
def SameOutcome : Except Failure Output → Except Failure Output → Prop
  | .ok out, .ok out' =>
    out.text = out'.text ∧ out.granularity = out'.granularity ∧ out.facet = out'.facet
  | .error (.fault f), .error (.fault f') => f.SameAnswer f'
  | .error (.breach b), .error (.breach b') => b = b'
  | _, _ => False

-- ---------------------------------------------------------------------------
-- Tokens of one canonical form
-- ---------------------------------------------------------------------------

section
variable {token token' : Text} (h : Token.canonical token = Token.canonical token')

include h in
theorem resolve_eq_of_canonical (filling : Filling) (today : Date) :
    resolve filling today token = resolve filling today token' := by
  rw [resolve, resolve, Resolution.ofToken, Resolution.ofToken, h]

include h in
theorem analyze_cases_of_canonical (filling : Filling) (today : Date) :
    (∃ a, analyze filling today token = .ok a ∧ analyze filling today token' = .ok a) ∨
      ∃ f : Fault, analyze filling today token = .error (f.attach token) ∧
        analyze filling today token' = .error (f.attach token') := by
  rw [analyze, analyze, resolve_eq_of_canonical h]
  cases interpret (resolve filling today token') with
  | ok a => exact .inl ⟨a, rfl, rfl⟩
  | error f => exact .inr ⟨f, rfl, rfl⟩

include h in
theorem sameAnalysis_of_canonical (filling : Filling) (today : Date) :
    SameAnalysis (analyze filling today token) (analyze filling today token') := by
  rcases analyze_cases_of_canonical h filling today with ⟨a, ha, ha'⟩ | ⟨f, hf, hf'⟩
  · rw [ha, ha']
    exact rfl
  · rw [hf, hf']
    exact f.sameAnswer_attach token token'

variable [LocaleLibrary] (s : Settings) (today : Date) (facet : Facet)

omit h in
theorem sameOutcome_presentAs (a : Analysis) :
    SameOutcome (presentAs s facet token a) (presentAs s facet token' a) := by
  unfold presentAs
  cases present s facet a.value with
  | ok text => exact ⟨rfl, rfl, rfl⟩
  | error e =>
    cases e with
    | outOfRange e => exact (Fault.ofOutOfRange e).sameAnswer_attach token token'
    | breach b => exact rfl

include h

theorem sameOutcome_normalize :
    SameOutcome (normalize s today token facet) (normalize s today token' facet) := by
  rcases analyze_cases_of_canonical h facet.filling today with ⟨a, ha, ha'⟩ | ⟨f, hf, hf'⟩
  · rw [normalize, normalize, ha, ha']
    exact sameOutcome_presentAs s facet a
  · rw [normalize, normalize, hf, hf']
    exact f.sameAnswer_attach token token'

theorem sameOutcome_combine_date (timeToken : Text) :
    SameOutcome (combine s today token timeToken facet)
      (combine s today token' timeToken facet) := by
  rcases analyze_cases_of_canonical h facet.filling today with ⟨a, ha, ha'⟩ | ⟨f, hf, hf'⟩
  · rw [combine, combine, ha, ha']
    cases analyze .strip today timeToken with
    | ok time => exact sameOutcome_presentAs s facet _
    | error f => exact Fault.SameAnswer.refl f
  · rw [combine, combine, hf, hf']
    exact f.sameAnswer_attach token token'

theorem sameOutcome_combine_time (dateToken : Text) :
    SameOutcome (combine s today dateToken token facet)
      (combine s today dateToken token' facet) := by
  rw [combine, combine]
  cases analyze facet.filling today dateToken with
  | error f => exact Fault.SameAnswer.refl f
  | ok date =>
    rcases analyze_cases_of_canonical h .strip today with ⟨a, ha, ha'⟩ | ⟨f, hf, hf'⟩
    · rw [ha, ha']
      exact sameOutcome_presentAs s facet _
    · rw [hf, hf']
      exact f.sameAnswer_attach token token'

end

-- ---------------------------------------------------------------------------
-- Variants
-- ---------------------------------------------------------------------------

/-- A date and a time that stand apart, in whatever stands around them, are the token that has
them in one, and are answered as it is. Any other token is left as it is but for what stands
around it. -/
theorem variants_are_one_token [LocaleLibrary] :
    (∀ (x : Wrapping) (a : Apart),
      Token.canonical (x.wrap a.text) = a.joined ∧ Token.canonical a.joined = a.joined ∧
      (∀ filling today,
        SameAnalysis (analyze filling today (x.wrap a.text)) (analyze filling today a.joined)) ∧
      ∀ s today facet,
        SameOutcome (normalize s today (x.wrap a.text) facet)
          (normalize s today a.joined facet) ∧
        ∀ other,
          SameOutcome (combine s today (x.wrap a.text) other facet)
            (combine s today a.joined other facet) ∧
          SameOutcome (combine s today other (x.wrap a.text) facet)
            (combine s today other a.joined facet)) ∧
    ∀ token, let inner := Token.dropZoneDesignator (Text.trim token)
      (∃ x : Wrapping, token = x.wrap inner) ∧
        (Token.canonical token = inner ∨
          ∃ a : Apart, inner = a.text ∧ Token.canonical token = a.joined) := by
  refine ⟨fun x a => ?_, fun token => ⟨Token.exists_wrapping token, Token.canonical_cases token⟩⟩
  have hw := Token.canonical_wrap_text x a
  have hj := Token.canonical_joined a
  have h := hw.trans hj.symm
  refine ⟨hw, hj, sameAnalysis_of_canonical h, fun s today facet => ?_⟩
  exact ⟨sameOutcome_normalize h s today facet, fun other =>
    ⟨sameOutcome_combine_date h s today facet other,
      sameOutcome_combine_time h s today facet other⟩⟩

end Timex
