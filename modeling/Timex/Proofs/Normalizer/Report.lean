import Timex.Proofs.Normalizer.Combination

/-!
# What a fault reports

A stage knows the text it was given and not the token. The fault that leaves a normalizer has
the token, and beside it the text of the stage where that is something else. Of a date and a
time that are normalized together, the one that is not understood is reported by itself, the
date first; only what cannot be shown is reported under both.
-/

namespace Timex

namespace Fault

-- ---------------------------------------------------------------------------
-- Reports
-- ---------------------------------------------------------------------------

/-- The stage that raises faults of a kind. -/
def Kind.stage : Kind → Text
  | .unrecognizedGranularity => "classify".toList
  | .ambiguousOrInvalidFormat => "parse".toList
  | .outOfRange => "present".toList
  | .entityPayload => "entities".toList
  | .general => []

/-- The line of a report. A token or a resolved text that is empty is left out. -/
def reportLine (token resolved stage message : Text) : Text :=
  (if token = [] then [] else "[token:".toList ++ token ++ "] ".toList) ++
    (if resolved = [] then [] else "[resolved:".toList ++ resolved ++ "] ".toList) ++
    '[' :: stage ++ "] ".toList ++ message

/-- The fault names a token, a resolved text and the stage of its kind, and is shown with all
three. -/
structure ReportsOn (f : Fault) (token resolved : Text) : Prop where
  token_eq : f.context.token = token
  resolved_eq : f.context.resolved = resolved
  stage_eq : f.context.stage = f.kind.stage
  shown_eq : f.shown = reportLine token resolved f.kind.stage f.message

/-- A fault as a stage raises it: the text that the stage saw stands in place of the token. -/
structure RaisedOn (f : Fault) (seen : Text) : Prop where
  token_eq : f.context.token = seen
  resolved_eq : f.context.resolved = []
  stage_eq : f.context.stage = f.kind.stage
  stage_ne : f.kind.stage ≠ []

/-- What is reported beside a token of the text that a stage saw. -/
def seenBeside (token seen : Text) : Text := if seen ≠ [] ∧ seen ≠ token then seen else []

theorem format_of_stage {context : Context} (h : context.stage ≠ []) (message : Text) :
    format context message =
      reportLine context.token context.resolved context.stage message := by
  obtain ⟨token, resolved, stage, component, metadata⟩ := context
  cases stage with
  | nil => exact absurd rfl h
  | cons => cases token <;> cases resolved <;> simp [format, reportLine, bracketed, Text.join]

section
variable {f : Fault} {seen : Text} (h : f.RaisedOn seen) (token : Text)
include h

theorem resolved_attach : (f.attach token).context.resolved = seenBeside token seen := by
  simp only [attach, h.token_eq, h.resolved_eq, seenBeside]
  cases seen <;> simp

/-- Attaching a token to a fresh fault makes it a report. -/
theorem RaisedOn.reportsOn_attach :
    (f.attach token).ReportsOn token (seenBeside token seen) := by
  have hr := resolved_attach h token
  have hs : (f.attach token).context.stage = f.kind.stage := h.stage_eq
  have hn : (f.attach token).context.stage ≠ [] := hs ▸ h.stage_ne
  have hf := format_of_stage hn f.message
  rw [hr, hs] at hf
  exact ⟨rfl, hr, hs, hf⟩

end

theorem raisedOn_ofShape (t : Text) : (ofShape t).RaisedOn t where
  token_eq := rfl
  resolved_eq := rfl
  stage_eq := (rfl : "classify".toList = Kind.stage .unrecognizedGranularity)
  stage_ne := (by decide : Kind.stage .unrecognizedGranularity ≠ [])

theorem raisedOn_ofReading (t : Text) (g : Granularity) (failure : ReadingFailure) :
    (ofReading t g failure).RaisedOn t where
  token_eq := rfl
  resolved_eq := rfl
  stage_eq := (rfl : "parse".toList = Kind.stage .ambiguousOrInvalidFormat)
  stage_ne := (by decide : Kind.stage .ambiguousOrInvalidFormat ≠ [])

/-- What presents a value sees no text. -/
theorem raisedOn_ofOutOfRange (e : OutOfRange) : (ofOutOfRange e).RaisedOn [] where
  token_eq := rfl
  resolved_eq := rfl
  stage_eq := (rfl : "present".toList = Kind.stage .outOfRange)
  stage_ne := (by decide : Kind.stage .outOfRange ≠ [])

end Fault

open Fault (seenBeside)

-- ---------------------------------------------------------------------------
-- Stages
-- ---------------------------------------------------------------------------

theorem raisedOn_of_interpret {r : Resolution} {f : Fault} (h : interpret r = .error f) :
    f.RaisedOn r.text := by
  rcases bind_eq_error_iff.mp h with hc | ⟨g, -, h⟩
  · unfold classify at hc
    split at hc
    · simp at hc
    · obtain rfl := Except.error.inj hc
      exact Fault.raisedOn_ofShape r.text
  · rcases bind_eq_error_iff.mp h with hp | ⟨v, -, h⟩
    · obtain ⟨e, -, rfl⟩ := mapError_eq_error_iff.mp hp
      exact Fault.raisedOn_ofReading r.text g e
    · simp [pure, Except.pure] at h

theorem reportsOn_of_analyze {filling : Filling} {today : Date} {token : Text} {f : Fault}
    (h : analyze filling today token = .error f) :
    f.ReportsOn token (seenBeside token (resolve filling today token).text) := by
  obtain ⟨e, he, rfl⟩ := mapError_eq_error_iff.mp h
  exact (raisedOn_of_interpret he).reportsOn_attach token

section
variable [LocaleLibrary] {s : Settings} {today : Date} {facet : Facet}

theorem reportsOn_of_presentAs {token : Text} {a : Analysis} {f : Fault}
    (h : presentAs s facet token a = .error (.fault f)) :
    f.kind = .outOfRange ∧ f.ReportsOn token [] := by
  unfold presentAs at h
  split at h
  · simp at h
  · rename_i e _
    obtain rfl := Failure.fault.inj (Except.error.inj h)
    exact ⟨rfl, (Fault.raisedOn_ofOutOfRange e).reportsOn_attach token⟩
  · simp at h

theorem normalize_eq_fault_iff {token : Text} {f : Fault} :
    normalize s today token facet = .error (.fault f) ↔
      analyze facet.filling today token = .error f ∨
        ∃ a, analyze facet.filling today token = .ok a ∧
          presentAs s facet token a = .error (.fault f) := by
  simp only [normalize, bind_eq_error_iff, mapError_eq_error_iff, mapError_eq_ok_iff,
    Failure.fault.injEq, exists_eq_right]

theorem combine_of_date_error {dateToken : Text} {f : Fault}
    (h : analyze facet.filling today dateToken = .error f) (timeToken : Text) :
    combine s today dateToken timeToken facet = .error (.fault f) := by
  rw [combine, h]
  rfl

theorem combine_of_time_error {dateToken timeToken : Text} {date : Analysis} {f : Fault}
    (hd : analyze facet.filling today dateToken = .ok date)
    (ht : analyze .strip today timeToken = .error f) :
    combine s today dateToken timeToken facet = .error (.fault f) := by
  rw [combine, hd, ht]
  rfl

end

-- ---------------------------------------------------------------------------
-- Tokens
-- ---------------------------------------------------------------------------

/-- A token that is not understood is reported with its resolved text, where that is not empty
and not the token; one that is out of range without. Of two tokens that are combined the date is
reported if it is not understood, whatever the time is, and else the time; both are reported as
one if they are out of range. -/
theorem token_reported_by_fault [LocaleLibrary] (s : Settings) (today : Date) (facet : Facet) :
    (∀ filling token f, analyze filling today token = .error f →
      (f.kind = .unrecognizedGranularity ∨ f.kind = .ambiguousOrInvalidFormat) ∧
        f.ReportsOn token (seenBeside token (resolve filling today token).text)) ∧
    (∀ token f, normalize s today token facet = .error (.fault f) →
      (f.kind = .unrecognizedGranularity ∨ f.kind = .ambiguousOrInvalidFormat) ∧
          f.ReportsOn token (seenBeside token (resolve facet.filling today token).text) ∨
        f.kind = .outOfRange ∧ f.ReportsOn token []) ∧
    ∀ dateToken timeToken,
      match analyze facet.filling today dateToken, analyze .strip today timeToken with
      | .error f, _ =>
        f.context.token = dateToken ∧
          combine s today dateToken timeToken facet = .error (.fault f)
      | .ok _, .error f =>
        f.context.token = timeToken ∧
          combine s today dateToken timeToken facet = .error (.fault f)
      | .ok _, .ok _ =>
        ∀ f, combine s today dateToken timeToken facet = .error (.fault f) →
          f.kind = .outOfRange ∧ f.ReportsOn (dateToken ++ '+' :: timeToken) [] := by
  refine ⟨fun filling token f h => ⟨kind_of_analyze h, reportsOn_of_analyze h⟩, ?_, ?_⟩
  · intro token f h
    rcases normalize_eq_fault_iff.mp h with ha | ⟨a, -, hp⟩
    · exact .inl ⟨kind_of_analyze ha, reportsOn_of_analyze ha⟩
    · exact .inr (reportsOn_of_presentAs hp)
  · intro dateToken timeToken
    split
    · rename_i f _ hd
      exact ⟨(reportsOn_of_analyze hd).token_eq, combine_of_date_error hd timeToken⟩
    · rename_i hd ht
      exact ⟨(reportsOn_of_analyze ht).token_eq, combine_of_time_error hd ht⟩
    · rename_i hd ht
      intro f h
      rw [combine_of_analyze hd ht] at h
      exact reportsOn_of_presentAs h

/-- The 30th of February is reported with what is left of its token. A time has no date to show,
and neither has a Sunday with a time. -/
theorem thirtieth_reported :
    (∃ f, analyze .strip exampleDay "XXXX-02-30".toList = .error f ∧
      f.ReportsOn "XXXX-02-30".toList "02-30".toList) ∧
    (∃ f, normalize Settings.default exampleDay "T14".toList .localizedDate = .error (.fault f) ∧
      f.kind = .outOfRange ∧ f.ReportsOn "T14".toList []) ∧
    ∃ f, combine Settings.default exampleDay "XXXX-WXX-7".toList "T14".toList .localizedDate =
        .error (.fault f) ∧ f.ReportsOn "XXXX-WXX-7+T14".toList [] := by
  obtain ⟨hone, htwo, hthree⟩ :=
    token_reported_by_fault Settings.default exampleDay .localizedDate
  refine ⟨?_, ?_, ?_⟩
  · have ha : ∃ f, analyze .strip exampleDay "XXXX-02-30".toList = .error f := ⟨_, rfl⟩
    obtain ⟨f, ha⟩ := ha
    exact ⟨f, ha, (hone _ _ f ha).2⟩
  · have hn : ∃ gap, normalize Settings.default exampleDay "T14".toList .localizedDate =
        .error (.fault ((Fault.ofOutOfRange ⟨gap, none, .localizedDate⟩).attach "T14".toList)) :=
      ⟨_, rfl⟩
    obtain ⟨gap, hn⟩ := hn
    rcases htwo _ _ hn with ⟨hk | hk, -⟩ | hf
    · exact absurd hk nofun
    · exact absurd hk nofun
    · exact ⟨_, hn, hf⟩
  · have hc : ∃ f, combine Settings.default exampleDay "XXXX-WXX-7".toList "T14".toList
        .localizedDate = .error (.fault f) := ⟨_, rfl⟩
    obtain ⟨f, hc⟩ := hc
    exact ⟨f, hc, (hthree "XXXX-WXX-7".toList "T14".toList f hc).2⟩

end Timex
