import Mathlib.Data.List.Induction
import Timex.Calendar.ZoneTable
import Timex.Normalizer.Session
import Timex.Proofs.Normalizer.Analysis

/-!
# The shared normalizer of a session

A shared normalizer exists exactly if, since the last reset, it was used in an environment whose
zone can be searched for. It is made from the environment of the first of these uses and answers
all that follow, whatever becomes of the environment. It is a snapshot of the environment at the
first use of all unless the search for the zone breaks off there. A call with settings or a clock
of its own has nothing to do with it.
-/

namespace Timex

open Settings (Environment)

-- ---------------------------------------------------------------------------
-- Clocks and normalizers
-- ---------------------------------------------------------------------------

section
variable [ZoneLibrary] {name : Text} {env : Environment} {n m : Normalizer} {e : ZoneError}

/-- The clock of the zone with the name, or of UTC if no zone has it. -/
inductive Clock.IsOf (name : Text) : Clock → Prop
  | zone : ZoneLibrary.knows name = .ok true → IsOf name (.system (.keyed name))
  | utc : ZoneLibrary.knows name = .ok false → IsOf name (.system .utc)

/-- What day it is by the clock. -/
inductive Clock.Tells (now : Instant) : Clock → Date → Prop
  | fixed (date : Date) : Tells now (.fixed date) date
  | system (zone : Zone) : Tells now (.system zone) (zone.dateAt now)

theorem Clock.tells_iff {c : Clock} {now : Instant} {today : Date} :
    c.Tells now today ↔ c.today now = today := by
  constructor
  · rintro (_ | _) <;> rfl
  · rintro rfl
    cases c with
    | fixed date => exact .fixed date
    | system zone => exact .system zone

theorem Clock.IsOf.exists_knows {c : Clock} (h : c.IsOf name) :
    ∃ known, ZoneLibrary.knows name = .ok known := by
  rcases h with hk | hk
  · exact ⟨true, hk⟩
  · exact ⟨false, hk⟩

theorem Clock.ofZoneName_eq (name : Text) :
    ofZoneName name =
      (ZoneLibrary.knows name).map fun known => .system (if known then .keyed name else .utc) := by
  unfold ofZoneName ZoneChoice.ofName
  cases h : ZoneLibrary.knows name with
  | error e => simp [h, bind, Except.bind, Except.map]
  | ok known => cases known <;> simp [h, bind, Except.bind, pure, Except.pure, Except.map]

theorem Clock.ofZoneName_eq_ok_iff {c : Clock} : ofZoneName name = .ok c ↔ c.IsOf name := by
  rw [ofZoneName_eq]
  constructor
  · intro h
    cases hk : ZoneLibrary.knows name with
    | error e => simp [hk, Except.map] at h
    | ok known =>
      obtain rfl : _ = c := by simpa [hk, Except.map] using h
      cases known
      · exact .utc hk
      · exact .zone hk
  · rintro (hk | hk) <;> simp [hk, Except.map]

theorem Clock.ofZoneName_eq_error_iff :
    ofZoneName name = .error e ↔ ZoneLibrary.knows name = .error e := by
  rw [ofZoneName_eq]
  cases ZoneLibrary.knows name <;> simp [Except.map]

/-- The settings are those of the environment, and the clock is that of their zone. -/
structure Normalizer.IsMadeFrom (n : Normalizer) (env : Environment) : Prop where
  settings : n.settings = Settings.ofEnvironment env
  clock : n.clock.IsOf n.settings.timezone

theorem Normalizer.ofEnvironment_eq_ok_iff : ofEnvironment env = .ok n ↔ n.IsMadeFrom env := by
  simp only [ofEnvironment, ofParts, bind_eq_ok_iff, Clock.ofZoneName_eq_ok_iff]
  constructor
  · rintro ⟨c, hc, h⟩
    obtain rfl := Except.ok.inj h
    exact ⟨rfl, hc⟩
  · obtain ⟨settings, clock⟩ := n
    rintro ⟨rfl, hc⟩
    exact ⟨clock, hc, rfl⟩

theorem Normalizer.ofEnvironment_eq_error_iff :
    ofEnvironment env = .error e ↔
      ZoneLibrary.knows (Settings.ofEnvironment env).timezone = .error e := by
  simp [ofEnvironment, ofParts, bind_eq_error_iff, Clock.ofZoneName_eq_error_iff, pure, Except.pure]

/-- The search for the zone that the environment names comes to an end. -/
def NamesZone (env : Environment) : Prop :=
  ∃ known, ZoneLibrary.knows (Settings.ofEnvironment env).timezone = .ok known

theorem Normalizer.IsMadeFrom.namesZone (h : n.IsMadeFrom env) : NamesZone env := by
  obtain ⟨hs, hc⟩ := h
  rw [hs] at hc
  exact hc.exists_knows

theorem exists_isMadeFrom (h : NamesZone env) : ∃ n : Normalizer, n.IsMadeFrom env := by
  obtain ⟨known, hk⟩ := h
  cases known
  · exact ⟨⟨_, _⟩, rfl, .utc hk⟩
  · exact ⟨⟨_, _⟩, rfl, .zone hk⟩

end

namespace Session

-- ---------------------------------------------------------------------------
-- Steps since the last reset
-- ---------------------------------------------------------------------------

section
variable {p : List Step → Step → Prop} {steps : List Step} {step : Step}

/-- There was a step of the kind, told by the steps in front of it, and no reset came later. -/
def SinceReset (p : List Step → Step → Prop) (steps : List Step) : Prop :=
  ∃ before step after, steps = before ++ step :: after ∧ p before step ∧ .reset ∉ after

/-- The step between two rows of steps is the first of the kind since the last reset. -/
structure FirstSinceReset (p : List Step → Step → Prop) (before : List Step) (step : Step)
    (after : List Step) : Prop where
  first : ¬ SinceReset p before
  holds : p before step
  kept : .reset ∉ after

theorem not_sinceReset_nil : ¬ SinceReset p [] := by
  rintro ⟨before, step, after, h, -⟩
  simp at h

theorem sinceReset_concat :
    SinceReset p (steps ++ [step]) ↔ p steps step ∨ step ≠ .reset ∧ SinceReset p steps := by
  constructor
  · rintro ⟨before, use, after, h, hp, hr⟩
    rcases List.eq_nil_or_concat' after with rfl | ⟨after, last, rfl⟩
    · obtain ⟨rfl, rfl⟩ := List.append_singleton_inj.mp h
      exact .inl hp
    · rw [← List.cons_append, ← List.append_assoc] at h
      obtain ⟨rfl, rfl⟩ := List.append_singleton_inj.mp h
      simp only [List.mem_append, List.mem_singleton, not_or] at hr
      exact .inr ⟨Ne.symm hr.2, before, use, after, rfl, hp, hr.1⟩
  · rintro (hp | ⟨hne, before, use, after, rfl, hp, hr⟩)
    · exact ⟨steps, step, [], rfl, hp, by simp⟩
    · exact ⟨before, use, after ++ [step], by simp, hp, by simp [hr, Ne.symm hne]⟩

/-- Where there was a step of the kind, there was a first one. -/
theorem exists_firstSinceReset (hreset : ∀ before, ¬ p before .reset) (h : SinceReset p steps) :
    ∃ before step after, steps = before ++ step :: after ∧ FirstSinceReset p before step after := by
  induction steps using List.reverseRecOn with
  | nil => exact absurd h not_sinceReset_nil
  | append_singleton steps step ih =>
    have hne : step ≠ .reset := by
      rintro rfl
      exact (sinceReset_concat.mp h).elim (hreset steps) fun hn => hn.1 rfl
    by_cases hs : SinceReset p steps
    · obtain ⟨before, use, after, rfl, hf⟩ := ih hs
      exact ⟨before, use, after ++ [step], by simp, hf.first, hf.holds,
        by simp [hf.kept, Ne.symm hne]⟩
    · have hp := (sinceReset_concat.mp h).resolve_right fun hn => hs hn.2
      exact ⟨steps, step, [], rfl, hs, hp, by simp⟩

theorem SinceReset.mono {q : List Step → Step → Prop} (hpq : ∀ before step, p before step →
    q before step) (h : SinceReset p steps) : SinceReset q steps := by
  obtain ⟨before, step, after, rfl, hp, hr⟩ := h
  exact ⟨before, step, after, rfl, hpq before step hp, hr⟩

end

-- ---------------------------------------------------------------------------
-- Steps
-- ---------------------------------------------------------------------------

/-- Whether the step works with the shared normalizer. -/
def Step.usesShared : Step → Bool
  | .get | .normalize _ _ none none _ | .normalizeMany .. => true
  | _ => false

/-- What a variable holds after a step. -/
def Step.valueAfter (name : Text) (value : Option Text) : Step → Option Text
  | .setVariable n new => if n = name then some new else value
  | .unsetVariable n => if n = name then none else value
  | _ => value

theorem lookup_cons_eq_ite (key value : Text) (env : Environment) (name : Text) :
    List.lookup name ((key, value) :: env) =
      if key = name then some value else env.lookup name := by
  by_cases h : key = name
  · subst h
    simp
  · have hn : (name == key) = false := beq_false_of_ne (Ne.symm h)
    rw [List.lookup_cons, hn, if_neg h]

theorem lookup_filter_ne (env : Environment) (n name : Text) :
    (env.filter (·.1 ≠ n)).lookup name = if n = name then none else env.lookup name := by
  induction env with
  | nil => simp
  | cons entry env ih =>
    obtain ⟨key, value⟩ := entry
    rw [lookup_cons_eq_ite]
    by_cases hk : key = n
    · subst hk
      rw [List.filter_cons_of_neg (by simp), ih]
      split <;> rfl
    · rw [List.filter_cons_of_pos (by simpa using hk), lookup_cons_eq_ite, ih]
      by_cases hn : n = name
      · rw [if_pos hn, if_neg fun h => hk (h.trans hn.symm), if_pos hn]
      · rw [if_neg hn, if_neg hn]

section
variable [ZoneLibrary] {s : Session}

theorem shared_useShared (s : Session) (answer : Normalizer → Answer) :
    (s.useShared answer).1.shared = s.sharedNormalizer.toOption := by
  unfold useShared
  cases h : s.sharedNormalizer with
  | ok n => rfl
  | error e =>
    unfold sharedNormalizer at h
    split at h
    · exact nomatch h
    · assumption

theorem environment_useShared (s : Session) (answer : Normalizer → Answer) :
    (s.useShared answer).1.environment = s.environment := by
  unfold useShared
  split <;> rfl

theorem isSome_sharedNormalizer_iff :
    s.sharedNormalizer.toOption.isSome ↔ NamesZone s.environment ∨ s.shared.isSome := by
  unfold sharedNormalizer
  cases s.shared with
  | some n => simp [pure, Except.pure, Except.toOption]
  | none =>
    cases h : Normalizer.ofEnvironment s.environment with
    | ok n =>
      simp [Except.toOption, (Normalizer.ofEnvironment_eq_ok_iff.mp h).namesZone]
    | error e =>
      simp [Except.toOption, NamesZone, Normalizer.ofEnvironment_eq_error_iff.mp h]

end

section
variable [LocaleLibrary] [ZoneLibrary] {s : Session} {n : Normalizer} {e : ZoneError}
  {settings : Option Settings} {clock : Option Clock} {steps : List Step}

/-- The normalizer answers every use, and is the shared one from then on. -/
structure AnswersBy (s : Session) (n : Normalizer) : Prop where
  get : s.step .get = ({ s with shared := some n }, .normalizer n)
  normalize : ∀ now today, n.clock.Tells now today → ∀ token facet,
    s.step (.normalize token facet none none now) =
      ({ s with shared := some n }, .output (Timex.normalize n.settings today token facet))
  normalizeMany : ∀ now today, n.clock.Tells now today → ∀ tokens facet,
    s.step (.normalizeMany tokens facet now) =
      ({ s with shared := some n }, .batch (Timex.normalizeMany n.settings today tokens facet))

theorem answersBy_of_sharedNormalizer (h : s.sharedNormalizer = .ok n) : s.AnswersBy n := by
  constructor
  · simp only [step, useShared, h]
  · intro now today ht token facet
    rw [← Clock.tells_iff.mp ht]
    simp only [step, useShared, h]
    rfl
  · intro now today ht tokens facet
    rw [← Clock.tells_iff.mp ht]
    simp only [step, useShared, h]
    rfl

theorem exists_step_eq_useShared (s : Session) {use : Step} (h : use.usesShared = true) :
    ∃ answer, s.step use = s.useShared answer := by
  unfold Step.usesShared at h
  split at h
  · exact ⟨_, rfl⟩
  · exact ⟨_, rfl⟩
  · exact ⟨_, rfl⟩
  · exact absurd h Bool.false_ne_true

/-- A call with settings or a clock of its own leaves the session alone. Defaults stand in for
what it does not give. -/
structure StaysApart (s : Session) (settings : Option Settings) (clock : Option Clock) : Prop where
  answers : ∀ c, clock = some c ∨ clock = none ∧ c.IsOf (settings.getD Settings.default).timezone →
    ∀ now today, c.Tells now today → ∀ token facet,
      s.step (.normalize token facet settings clock now) =
        (s, .output (Timex.normalize (settings.getD Settings.default) today token facet))
  fails : ∀ e, clock = none →
    ZoneLibrary.knows (settings.getD Settings.default).timezone = .error e →
    ∀ token facet now, s.step (.normalize token facet settings clock now) = (s, .failed e)

theorem step_of_own (s : Session) (h : settings.isSome ∨ clock.isSome) (token : Text)
    (facet : Facet) (now : Instant) :
    s.step (.normalize token facet settings clock now) =
      (s, match Normalizer.ofParts settings clock with
        | .ok n => .output (Timex.normalize n.settings (n.today now) token facet)
        | .error e => .failed e) := by
  have hstep : s.step (.normalize token facet settings clock now) =
      match Normalizer.ofParts settings clock with
      | .ok n => (s, .output (Timex.normalize n.settings (n.today now) token facet))
      | .error e => (s, .failed e) := by
    cases settings with
    | some settings => rfl
    | none =>
      cases clock with
      | some clock => rfl
      | none => simp at h
  rw [hstep]
  split <;> rfl

theorem staysApart (s : Session) (h : settings.isSome ∨ clock.isSome) :
    s.StaysApart settings clock := by
  constructor
  · rintro c hc now today ht token facet
    rw [← Clock.tells_iff.mp ht, step_of_own s h]
    rcases hc with rfl | ⟨rfl, hc⟩
    · rfl
    · rw [Normalizer.ofParts, Clock.ofZoneName_eq_ok_iff.mpr hc]
      rfl
  · rintro e rfl he token facet now
    rw [step_of_own s h, Normalizer.ofParts, Clock.ofZoneName_eq_error_iff.mpr he]
    rfl

/-- What a step can do to the shared normalizer. -/
theorem step_cases (s : Session) (step : Step) :
    step = .reset ∧ (s.step step).1.shared = none ∨
      step ≠ .reset ∧ step.usesShared = true ∧
        (s.step step).1.shared = s.sharedNormalizer.toOption ∨
      step ≠ .reset ∧ step.usesShared = false ∧ (s.step step).1.shared = s.shared := by
  cases step with
  | reset => exact .inl ⟨rfl, rfl⟩
  | get => exact .inr (.inl ⟨nofun, rfl, s.shared_useShared _⟩)
  | normalizeMany tokens facet now => exact .inr (.inl ⟨nofun, rfl, s.shared_useShared _⟩)
  | normalize token facet settings clock now =>
    by_cases h : settings.isSome ∨ clock.isSome
    · refine .inr (.inr ⟨nofun, ?_, by rw [step_of_own s h]⟩)
      cases settings with
      | some settings => rfl
      | none =>
        cases clock with
        | some clock => rfl
        | none => simp at h
    · simp only [not_or, Option.not_isSome_iff_eq_none] at h
      obtain ⟨rfl, rfl⟩ := h
      exact .inr (.inl ⟨nofun, rfl, s.shared_useShared _⟩)
  | _ => exact .inr (.inr ⟨nofun, rfl, rfl⟩)

theorem lookup_step (s : Session) (step : Step) (name : Text) :
    (s.step step).1.environment.lookup name =
      step.valueAfter name (s.environment.lookup name) := by
  cases step with
  | setVariable n value =>
    simp only [Session.step, setVariable, Step.valueAfter, lookup_cons_eq_ite, lookup_filter_ne]
    split <;> rfl
  | unsetVariable n => exact lookup_filter_ne _ n name
  | get =>
    rw [Session.step, environment_useShared]
    rfl
  | normalizeMany tokens facet now =>
    rw [Session.step, environment_useShared]
    rfl
  | normalize token facet settings clock now =>
    by_cases h : settings.isSome ∨ clock.isSome
    · rw [step_of_own s h]
      rfl
    · simp only [not_or, Option.not_isSome_iff_eq_none] at h
      obtain ⟨rfl, rfl⟩ := h
      rw [Session.step, environment_useShared]
      rfl
  | _ => rfl

-- ---------------------------------------------------------------------------
-- Runs
-- ---------------------------------------------------------------------------

theorem run_append (s : Session) (steps more : List Step) :
    (s.run (steps ++ more)).1 = ((s.run steps).1.run more).1 := by
  induction steps generalizing s with
  | nil => rfl
  | cons step steps ih => exact ih (s.step step).1

theorem lookup_run (s : Session) (steps : List Step) (name : Text) :
    (s.run steps).1.environment.lookup name =
      steps.foldl (Step.valueAfter name) (s.environment.lookup name) := by
  induction steps generalizing s with
  | nil => rfl
  | cons step steps ih =>
    rw [List.foldl_cons, ← lookup_step]
    exact ih (s.step step).1

/-- A shared normalizer stays until a reset. -/
theorem shared_run_of_kept (h : s.shared = some n) (hr : .reset ∉ steps) :
    (s.run steps).1.shared = some n := by
  induction steps generalizing s with
  | nil => exact h
  | cons step steps ih =>
    obtain ⟨hne, hr⟩ := List.ne_and_not_mem_of_not_mem_cons hr
    refine ih (s := (s.step step).1) ?_ hr
    rcases s.step_cases step with ⟨he, -⟩ | ⟨-, -, hs⟩ | ⟨-, -, hs⟩
    · exact absurd he.symm hne
    · rw [hs, sharedNormalizer, h]
      rfl
    · rw [hs, h]

end

/-- The step uses the shared normalizer. -/
def Uses (_before : List Step) (step : Step) : Prop := step.usesShared = true

theorem not_uses_reset (before : List Step) : ¬ Uses before .reset := Bool.false_ne_true

section
variable [LocaleLibrary] [ZoneLibrary] {env : Environment} {steps before after : List Step}
  {use : Step} {n : Normalizer}

/-- The step uses the shared normalizer, which can be made from the environment of that
moment. -/
structure Makes (env : Environment) (before : List Step) (use : Step) : Prop where
  uses : Uses before use
  namesZone : NamesZone (run ⟨env, none⟩ before).1.environment

/-- There is a shared normalizer exactly if one could be made since the last reset. -/
theorem isSome_shared_run_iff (env : Environment) (steps : List Step) :
    (run ⟨env, none⟩ steps).1.shared.isSome ↔ SinceReset (Makes env) steps := by
  induction steps using List.reverseRecOn with
  | nil => simp [run, not_sinceReset_nil]
  | append_singleton steps step ih =>
    rw [run_append, sinceReset_concat, ← ih]
    rcases step_cases (run ⟨env, none⟩ steps).1 step with ⟨rfl, h⟩ | ⟨hne, hu, h⟩ | ⟨hne, hu, h⟩
    · have hm : ¬ Makes env steps .reset := fun hm => not_uses_reset steps hm.uses
      simp [run, h, hm]
    · have hm : Makes env steps step ↔ NamesZone (run ⟨env, none⟩ steps).1.environment :=
        ⟨Makes.namesZone, fun hz => ⟨hu, hz⟩⟩
      simp [run, h, hne, hm, isSome_sharedNormalizer_iff]
    · have hm : ¬ Makes env steps step := fun hm => Bool.false_ne_true (hu.symm.trans hm.uses)
      simp [run, h, hne, hm]

theorem shared_run_of_first (h : FirstSinceReset (Makes env) before use after)
    (hn : n.IsMadeFrom (run ⟨env, none⟩ before).1.environment) :
    (run ⟨env, none⟩ (before ++ use :: after)).1.shared = some n := by
  have hnone : (run ⟨env, none⟩ before).1.shared = none := by
    rw [← Option.not_isSome_iff_eq_none, isSome_shared_run_iff]
    exact h.first
  rw [run_append]
  refine shared_run_of_kept (s := ((run ⟨env, none⟩ before).1.step use).1) ?_ h.kept
  obtain ⟨answer, hstep⟩ := exists_step_eq_useShared (run ⟨env, none⟩ before).1 h.holds.uses
  rw [hstep, shared_useShared, sharedNormalizer, hnone]
  simp only [Normalizer.ofEnvironment_eq_ok_iff.mpr hn]
  rfl

/-- The shared normalizer is the one made at the first use that could make it. -/
theorem shared_run_eq_some_iff :
    (run ⟨env, none⟩ steps).1.shared = some n ↔
      ∃ before use after, steps = before ++ use :: after ∧
        FirstSinceReset (Makes env) before use after ∧
        n.IsMadeFrom (run ⟨env, none⟩ before).1.environment := by
  constructor
  · intro h
    obtain ⟨before, use, after, rfl, hf⟩ :=
      exists_firstSinceReset (fun before hm => not_uses_reset before hm.uses)
        ((isSome_shared_run_iff env steps).mp (by rw [h]; rfl))
    obtain ⟨m, hm⟩ := exists_isMadeFrom hf.holds.namesZone
    obtain rfl := Option.some.inj (h.symm.trans (shared_run_of_first hf hm))
    exact ⟨before, use, after, rfl, hf, hm⟩
  · rintro ⟨before, use, after, rfl, hf, hn⟩
    exact shared_run_of_first hf hn

/-- The shared normalizer exists exactly if it was used since the last reset, and is made from
the environment of the first of these uses. -/
structure IsSnapshot (env : Environment) (steps : List Step) : Prop where
  isSome_iff : (run ⟨env, none⟩ steps).1.shared.isSome ↔ SinceReset Uses steps
  isMadeFrom : ∀ before use after n, steps = before ++ use :: after →
    FirstSinceReset Uses before use after → (run ⟨env, none⟩ steps).1.shared = some n →
      n.IsMadeFrom (run ⟨env, none⟩ before).1.environment

/-- A first use that can make a shared normalizer is the first that can. -/
theorem firstSinceReset_makes (h : FirstSinceReset Uses before use after)
    (hz : NamesZone (run ⟨env, none⟩ before).1.environment) :
    FirstSinceReset (Makes env) before use after :=
  ⟨fun hm => h.first (hm.mono fun _ _ => Makes.uses), ⟨h.holds, hz⟩, h.kept⟩

theorem isSnapshot_iff :
    IsSnapshot env steps ↔
      ∀ before use after, steps = before ++ use :: after → FirstSinceReset Uses before use after →
        NamesZone (run ⟨env, none⟩ before).1.environment := by
  constructor
  · rintro h before use after rfl hf
    obtain ⟨n, hn⟩ := Option.isSome_iff_exists.mp
      (h.isSome_iff.mpr ⟨before, use, after, rfl, hf.holds, hf.kept⟩)
    exact (h.isMadeFrom before use after n rfl hf hn).namesZone
  · intro h
    constructor
    · rw [isSome_shared_run_iff]
      refine ⟨SinceReset.mono fun _ _ => Makes.uses, fun hu => ?_⟩
      obtain ⟨before, use, after, hs, hf⟩ := exists_firstSinceReset not_uses_reset hu
      exact ⟨before, use, after, hs, ⟨hf.holds, h before use after hs hf⟩, hf.kept⟩
    · rintro before use after n rfl hf hn
      have hz := h before use after rfl hf
      obtain ⟨m, hm⟩ := exists_isMadeFrom hz
      have hm' := shared_run_of_first (firstSinceReset_makes hf hz) hm
      obtain rfl := Option.some.inj (hn.symm.trans hm')
      exact hm

end

/-- In a run that starts without a shared normalizer, the shared normalizer is a snapshot of the
environment at its first use, exactly if the search for the zone does not break off there. There
is one exactly if a use since the last reset could make it, and it is made from the environment
of the first such use. It answers all uses; a use that cannot make one fails and leaves the
session as it is. A call with settings or a clock of its own leaves the session alone, and takes
the defaults for what it does not give. -/
theorem shared_run_iff [LocaleLibrary] [ZoneLibrary] (env : Environment) (steps : List Step) :
    let session := (run ⟨env, none⟩ steps).1
    (IsSnapshot env steps ↔
      ∀ before use after, steps = before ++ use :: after → FirstSinceReset Uses before use after →
        ∃ known, ZoneLibrary.knows
          (Settings.ofEnvironment (run ⟨env, none⟩ before).1.environment).timezone = .ok known) ∧
    (session.shared.isSome ↔ SinceReset (Makes env) steps) ∧
    (∀ n, session.shared = some n ↔
      ∃ before use after, steps = before ++ use :: after ∧
        FirstSinceReset (Makes env) before use after ∧
        n.IsMadeFrom (run ⟨env, none⟩ before).1.environment) ∧
    (∀ name, session.environment.lookup name =
      steps.foldl (Step.valueAfter name) (env.lookup name)) ∧
    (∀ n, session.shared = some n ∨
      session.shared = none ∧ n.IsMadeFrom session.environment → session.AnswersBy n) ∧
    (∀ e, session.shared = none →
      ZoneLibrary.knows (Settings.ofEnvironment session.environment).timezone = .error e →
      ∀ use, Uses steps use → session.step use = (session, .failed e)) ∧
    ∀ settings clock, settings.isSome ∨ clock.isSome → session.StaysApart settings clock := by
  intro session
  refine ⟨isSnapshot_iff, isSome_shared_run_iff env steps, fun n => shared_run_eq_some_iff,
    lookup_run ⟨env, none⟩ steps, ?_, ?_, fun settings clock h => staysApart session h⟩
  · rintro n (hn | ⟨hnone, hn⟩)
    · exact answersBy_of_sharedNormalizer (by rw [sharedNormalizer, hn]; rfl)
    · refine answersBy_of_sharedNormalizer ?_
      simp only [sharedNormalizer, hnone]
      exact Normalizer.ofEnvironment_eq_ok_iff.mpr hn
  · intro e hnone he use hu
    obtain ⟨answer, hstep⟩ := exists_step_eq_useShared session hu
    simp only [hstep, useShared, sharedNormalizer, hnone,
      Normalizer.ofEnvironment_eq_error_iff.mpr he]

/-- The first use fails on its token. The session speaks German from then on, in the zone of
Kolkata. -/
theorem german_from_first_use :
    let german : Normalizer :=
      ⟨{ Settings.default with locale := "de_DE".toList, timezone := "Asia/Kolkata".toList },
        .system (.keyed "Asia/Kolkata".toList)⟩
    let session := (start.run
      [.setVariable "TIMEXNORM_LOCALE".toList "de_DE".toList,
        .setVariable "TIMEXNORM_TIMEZONE".toList "Asia/Kolkata".toList,
        .normalize "garbage".toList .monthName none none ⟨exampleDay, TimeOfDay.midnight⟩,
        .setVariable "TIMEXNORM_LOCALE".toList "fr_FR".toList]).1
    session.shared = some german ∧ session.step .get = (session, .normalizer german) ∧
      session.step (.normalize "XXXX-03".toList .monthName (some Settings.default) none
          ⟨exampleDay, TimeOfDay.midnight⟩) =
        (session, .output (Timex.normalize Settings.default exampleDay "XXXX-03".toList .monthName))
    := by
  intro german session
  obtain ⟨-, -, hshared, -, huse, -, hown⟩ := shared_run_iff []
    [.setVariable "TIMEXNORM_LOCALE".toList "de_DE".toList,
      .setVariable "TIMEXNORM_TIMEZONE".toList "Asia/Kolkata".toList,
      .normalize "garbage".toList .monthName none none ⟨exampleDay, TimeOfDay.midnight⟩,
      .setVariable "TIMEXNORM_LOCALE".toList "fr_FR".toList]
  have hfirst : FirstSinceReset (Makes [])
      [.setVariable "TIMEXNORM_LOCALE".toList "de_DE".toList,
        .setVariable "TIMEXNORM_TIMEZONE".toList "Asia/Kolkata".toList]
      (.normalize "garbage".toList .monthName none none ⟨exampleDay, TimeOfDay.midnight⟩)
      [.setVariable "TIMEXNORM_LOCALE".toList "fr_FR".toList] := by
    refine ⟨?_, ⟨rfl, true, rfl⟩, by simp⟩
    rw [← isSome_shared_run_iff]
    exact Bool.false_ne_true
  have hs : session.shared = some german :=
    (hshared german).mpr ⟨_, _, _, rfl, hfirst, rfl, .zone rfl⟩
  have hget := (huse german (.inl hs)).get
  have hapart := hown (some Settings.default) none (.inl rfl)
  refine ⟨hs, ?_, hapart.answers _ (.inr ⟨rfl, .zone rfl⟩) _ _ (.system _) _ _⟩
  rwa [← hs] at hget

/-- The name of a zone can break off the search for it. The first use then makes no shared
normalizer. -/
theorem not_forall_isSnapshot : ¬ ∀ env steps, IsSnapshot env steps := by
  intro h
  let setZone : Step := .setVariable "TIMEXNORM_TIMEZONE".toList "__init__/x".toList
  have hused : SinceReset Uses [setZone, .get] := ⟨[setZone], .get, [], rfl, rfl, by simp⟩
  exact Bool.false_ne_true ((h [] [setZone, .get]).isSome_iff.mpr hused)

end Session
end Timex
