import Timex.Fault

/-!
# The history of a fault

After it is made a fault is given tokens, logged and annotated, in any order. What it shows then is
a function of its history: the last token stands in front of the text that the first change of
token displaced, and everything else is as it was made.
-/

namespace Timex.Fault

-- ---------------------------------------------------------------------------
-- Makers
-- ---------------------------------------------------------------------------

/-- The faults that the makers of the five kinds give. -/
inductive Made : Fault → Prop where
  | general (d : Details) (stage component : Text) : Made (Fault.general d stage component)
  | unrecognized (d : Details) : Made (Fault.unrecognized d)
  | ambiguous (d : Details) (granularity : Text) (tried : List Text) :
      Made (Fault.ambiguous d granularity tried)
  | outOfRange (d : Details) (field : Text) (value : Value) (facet : Option Text) :
      Made (Fault.outOfRange d field value facet)
  | entityPayload (d : Details) : Made (Fault.entityPayload d)

theorem Made.shown_eq {f : Fault} (h : f.Made) : f.shown = format f.context f.message := by
  cases h <;> exact shown_ofContext _ _ _

-- ---------------------------------------------------------------------------
-- Events
-- ---------------------------------------------------------------------------

inductive Event where
  | attach (token : Text)
  | log (level : Level)
  | note (name : Text) (value : Value)

def Event.token? : Event → Option Text
  | .attach token => some token
  | _ => none

def Event.entry? : Event → Option (Text × Value)
  | .note name value => some (name, value)
  | _ => none

def attached (events : List Event) : List Text := events.filterMap Event.token?

def noted (events : List Event) : Record := events.filterMap Event.entry?

theorem attached_concat (past : List Event) (event : Event) :
    attached (past ++ [event]) = attached past ++ event.token?.toList := by
  cases event <;> simp [attached, Event.token?]

theorem noted_concat (past : List Event) (event : Event) :
    noted (past ++ [event]) = noted past ++ event.entry?.toList := by
  cases event <;> simp [noted, Event.entry?]

/-- The fault after an event, and what is logged of it. -/
def perform (f : Fault) : Event → Fault × List LogEntry
  | .attach token => (f.attach token, [])
  | .log level => (f, [f.log level])
  | .note name value => (f.note name value, [])

/-- The fault after one event after another, and all that is logged. -/
def run (f : Fault) : List Event → Fault × List LogEntry
  | [] => (f, [])
  | event :: later =>
    let (g, now) := f.perform event
    let (final, rest) := g.run later
    (final, now ++ rest)

/-- The tokens that are followed by another than themselves, as far as they are not empty. -/
def replaced (seen : Text) : List Text → List Text
  | [] => []
  | token :: later =>
    if seen ≠ [] ∧ seen ≠ token then seen :: replaced token later else replaced token later

-- ---------------------------------------------------------------------------
-- Runs
-- ---------------------------------------------------------------------------

section
variable (f : Fault)

theorem run_append (before after : List Event) :
    f.run (before ++ after) =
      (((f.run before).1.run after).1, (f.run before).2 ++ ((f.run before).1.run after).2) := by
  induction before generalizing f with
  | nil => rfl
  | cons event before ih => simp [run, ih]

/-- A token attached to a fault that has it already changes nothing, wherever this happens. -/
theorem run_attach_twice (token : Text) (before after : List Event) :
    f.run (before ++ .attach token :: .attach token :: after) =
      f.run (before ++ .attach token :: after) := by
  simp [run_append, run, perform]

end

-- ---------------------------------------------------------------------------
-- Replaced tokens
-- ---------------------------------------------------------------------------

theorem ne_nil_of_mem_replaced {seen : Text} {tokens : List Text} {t : Text}
    (h : t ∈ replaced seen tokens) : t ≠ [] := by
  induction tokens generalizing seen with
  | nil => cases h
  | cons token later ih =>
    rw [replaced] at h
    split at h
    case isTrue hs =>
      rcases List.mem_cons.mp h with rfl | h
      · exact hs.1
      · exact ih h
    case isFalse => exact ih h

theorem replaced_concat (seen token : Text) (tokens : List Text) :
    replaced seen (tokens ++ [token]) = replaced seen tokens ++
      if tokens.getLastD seen ≠ [] ∧ tokens.getLastD seen ≠ token then [tokens.getLastD seen]
      else [] := by
  induction tokens generalizing seen with
  | nil => simp [replaced]
  | cons next later ih =>
    simp only [List.cons_append, replaced, ih, List.getLastD_cons]
    split <;> rfl

-- ---------------------------------------------------------------------------
-- History
-- ---------------------------------------------------------------------------

/-- What a fault has become of another by the events of its past. -/
structure After (f : Fault) (past : List Event) (g : Fault) : Prop where
  token : g.context.token = (attached past).getLastD f.context.token
  resolved : g.context.resolved =
    if f.context.resolved = [] then (replaced f.context.token (attached past)).headD []
    else f.context.resolved
  shown : g.shown = format g.context g.message
  stage : g.context.stage = f.context.stage
  component : g.context.component = f.context.component
  message : g.message = f.message
  kind : g.kind = f.kind
  metadata : g.context.metadata = f.context.metadata.setAll (noted past)

theorem resolved_attach_eq (f : Fault) (token : Text) :
    (f.attach token).context.resolved =
      if f.context.resolved = [] ∧ f.context.token ≠ [] ∧ f.context.token ≠ token then
        f.context.token
      else f.context.resolved := by
  simp [attach, and_comm, and_left_comm]

theorem resolved_perform_of_ne_nil {f : Fault} (h : f.context.resolved ≠ []) (event : Event) :
    (f.perform event).1.context.resolved = f.context.resolved := by
  cases event with
  | attach token => simp [perform, resolved_attach_eq, h]
  | log level => rfl
  | note name value => rfl

/-- A text that is resolved once stays. -/
theorem resolved_run_of_ne_nil {f : Fault} (h : f.context.resolved ≠ []) (events : List Event) :
    (f.run events).1.context.resolved = f.context.resolved := by
  induction events generalizing f with
  | nil => rfl
  | cons event later ih =>
    have hstep := resolved_perform_of_ne_nil h event
    exact (ih (hstep ▸ h)).trans hstep

namespace After

theorem nil {f : Fault} (h : f.shown = format f.context f.message) : After f [] f where
  token := rfl
  resolved := by
    split
    case isTrue hr => exact hr
    case isFalse => rfl
  shown := h
  stage := rfl
  component := rfl
  message := rfl
  kind := rfl
  metadata := rfl

section
variable {f g : Fault} {past : List Event} (h : After f past g)
include h

/-- The first change of token fills an empty resolved text, and the later ones leave it. -/
theorem attach (token : Text) : After f (past ++ [.attach token]) (g.attach token) where
  token := by simp [attached_concat, Event.token?]
  resolved := by
    rw [resolved_attach_eq, h.resolved, h.token, attached_concat]
    simp only [Event.token?, Option.toList_some, replaced_concat]
    by_cases hr : f.context.resolved = []
    · cases hfirst : replaced f.context.token (attached past) with
      | nil =>
        simp only [hr, if_true, true_and, List.headD_nil, List.nil_append]
        split <;> rfl
      | cons first rest =>
        -- The text is resolved already, and `first` is what it is.
        have hne : first ≠ [] := ne_nil_of_mem_replaced (hfirst ▸ List.mem_cons_self)
        simp [hr, hne]
    · simp [hr]
  shown := rfl
  stage := h.stage
  component := h.component
  message := h.message
  kind := h.kind
  metadata := by simpa [noted_concat, Event.entry?, Fault.attach] using h.metadata

theorem log (level : Level) : After f (past ++ [.log level]) g :=
  { h with
    token := by simpa [attached_concat, Event.token?] using h.token
    resolved := by simpa [attached_concat, Event.token?] using h.resolved
    metadata := by simpa [noted_concat, Event.entry?] using h.metadata }

theorem note (name : Text) (value : Value) :
    After f (past ++ [.note name value]) (g.note name value) :=
  -- What is shown has no metadata in it, so that `h.shown` still holds.
  { h with
    token := by simpa [attached_concat, Event.token?, Fault.note] using h.token
    resolved := by simpa [attached_concat, Event.token?, Fault.note] using h.resolved
    metadata := by simp [noted_concat, Event.entry?, Fault.note, Record.setAll, h.metadata] }

theorem perform (event : Event) : After f (past ++ [event]) (g.perform event).1 := by
  cases event with
  | attach token => exact h.attach token
  | log level => exact h.log level
  | note name value => exact h.note name value

theorem run (events : List Event) : After f (past ++ events) (g.run events).1 := by
  induction events generalizing past g with
  | nil => simpa [Fault.run] using h
  | cons event later ih => simpa [Fault.run] using ih (h.perform event)

end
end After

/-- Whatever happens to a fault, what it shows and what it keeps of its tokens follow from the
tokens attached, once resolved a text stays, and a token attached twice in a row is attached
once. -/
theorem history_kept {f : Fault} (hf : f.Made) (events more : List Event) :
    After f events (f.run events).1 ∧
      ((f.run events).1.context.resolved ≠ [] →
        (f.run (events ++ more)).1.context.resolved = (f.run events).1.context.resolved) ∧
      ∀ token, f.run (events ++ .attach token :: .attach token :: more) =
        f.run (events ++ .attach token :: more) := by
  refine ⟨(After.nil hf.shown_eq).run events, fun hr => ?_, fun token => ?_⟩
  · rw [run_append]
    exact resolved_run_of_ne_nil hr more
  · exact run_attach_twice f token events more

/-- Neither an empty token nor a return to the first one moves the text that was resolved first. -/
theorem history_kept_of_three_tokens :
    let f := Fault.general ⟨some "boom".toList, "T14".toList, [], none⟩ "present".toList []
    let events : List Event :=
      [.attach "T14:00".toList, .log .warning, .attach [], .note "n".toList .null,
        .attach "T14".toList]
    f.Made ∧ (f.run events).1.context.token = "T14".toList ∧
      (f.run events).1.context.resolved = "T14".toList ∧
      (f.run events).1.shown = "[token:T14] [resolved:T14] [present] boom".toList ∧
      (f.run (events ++ [.attach "T15".toList])).1.context.resolved = "T14".toList := by
  intro f events
  have hf : f.Made := .general _ _ _
  obtain ⟨hafter, hstays, -⟩ := history_kept hf events [.attach "T15".toList]
  have hr : (f.run events).1.context.resolved = "T14".toList := hafter.resolved.trans (by decide)
  exact ⟨hf, hafter.token, hr, hafter.shown.trans (by decide),
    (hstays (by rw [hr]; decide)).trans hr⟩

end Timex.Fault
