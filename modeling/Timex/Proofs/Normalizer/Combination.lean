import Timex.Proofs.Normalizer.Outcome
import Timex.Proofs.Normalizer.UnknownYear

/-!
# A date and a time as one value

A day and a time that stand in two tokens are shown as the one token that joins them is, and
fail as it does. The granularity of an output knows of the time of its value, except that a
part of a date with a time joined to it keeps the granularity of the part.
-/

namespace Timex

open Token (Spelling TimeSpelling MonthDay timePart withTimePart)

-- ---------------------------------------------------------------------------
-- Days
-- ---------------------------------------------------------------------------

/-- A day as tokens name it: in full, without its year, or by its weekday. -/
inductive Token.Day where
  | date (d : Date)
  | monthDay (md : MonthDay)
  /-- Monday is 0. -/
  | weekday (e : Fin 7)

namespace Token.Day

/-- The token of the day, perhaps with a time. -/
def spelling (time : Option TimeSpelling) : Day → Spelling
  | .date d => .date d time
  | .monthDay md => .monthDay md time
  | .weekday e => .weekday e time

/-- What the day is without a time. There is no 29th of February in a common year that is filled
in. -/
def value? (filling : Filling) (today : Date) : Day → Option Temporal
  | .monthDay md =>
    let v := (Spelling.monthDay md none).value
    match filling with
    | .strip => some v
    | .substitute =>
      if md.day ≤ Gregorian.monthLength today.year md.month then some (v.withYear today.year)
      else none
  | day => some (day.spelling none).value

theorem text_spelling_some (day : Day) (τ : TimeSpelling) :
    (day.spelling (some τ)).text = (day.spelling none).text ++ 'T' :: τ.text := by
  cases day <;> simp [spelling, Spelling.text, timePart]

end Token.Day

open Token (Day)

-- ---------------------------------------------------------------------------
-- Analyses
-- ---------------------------------------------------------------------------

section
variable {filling : Filling} {today : Date}

/-- Only the mark of a year or a month is filled in. -/
theorem Token.Spelling.resolve_text_of_mark {s : Spelling}
    (h : ∀ mark, s.mark? = some mark → mark = .week) :
    resolve filling today s.text = ⟨s.unmarked, s.markers⟩ := by
  rw [← s.resolve_strip_text today]
  have hk := s.takeMark?_text
  rw [← s.canonical_text] at hk
  cases hm : s.mark? with
  | none =>
    rw [hm] at hk
    rw [Resolution.resolve_of_unmarked hk, Resolution.resolve_of_unmarked hk]
  | some mark =>
    obtain rfl := h mark hm
    rw [hm] at hk
    rw [Resolution.resolve_of_dropped hk rfl, Resolution.resolve_of_dropped hk rfl]

theorem analyze_text_of_resolve {s : Spelling}
    (h : resolve filling today s.text = ⟨s.unmarked, s.markers⟩) :
    analyze filling today s.text = .ok ⟨s.granularity, s.value⟩ := by
  rw [analyze_eq_ok_iff, h, interpret_eq_ok_iff]
  exact ⟨s, rfl, s.fits_markers, rfl, rfl⟩

theorem resolve_substitute_monthDay (today : Date) (md : MonthDay) (time : Option TimeSpelling) :
    resolve .substitute today (Spelling.monthDay md time).text =
      ⟨Text.zeroPadded 4 today.year ++ '-' :: (Spelling.monthDay md time).unmarked,
        (Spelling.monthDay md time).markers⟩ := by
  have hk := (Spelling.monthDay md time).takeMark?_text
  rw [← Spelling.canonical_text] at hk
  have hne : (Spelling.monthDay md time).unmarked ++ Spelling.dayMarkIf false ≠ ['X', 'X'] := by
    intro he
    have hX : 'X' ∈ (Spelling.monthDay md time).unmarked ++ Spelling.dayMarkIf false := by
      simp [he]
    simp [Spelling.dayMarkIf, Spelling.not_mem_unmarked] at hX
  rw [Resolution.resolve_substitute_of_mark hk rfl hne, Spelling.resolve_strip_text]
  simp [Resolution.Mark.filled, Resolution.yearDigits]

/-- A day is understood with a time if it is understood without. -/
theorem analyze_day (filling : Filling) (today : Date) (day : Day) (time : Option TimeSpelling) :
    match day.value? filling today with
    | some v => ∃ g, analyze filling today (day.spelling time).text = .ok ⟨g, withTimePart v time⟩
    | none =>
      ∃ f, analyze filling today (day.spelling time).text = .error f ∧
        f.kind = .ambiguousOrInvalidFormat := by
  cases day with
  | date d =>
    exact ⟨_, analyze_text_of_resolve (s := .date d time) (Spelling.resolve_text_of_mark nofun)⟩
  | weekday e =>
    refine ⟨_, analyze_text_of_resolve (s := .weekday e time) (Spelling.resolve_text_of_mark ?_)⟩
    exact fun mark h => (Option.some.inj h).symm
  | monthDay md =>
    cases filling with
    | strip =>
      exact ⟨_, analyze_text_of_resolve (s := .monthDay md time) (Spelling.resolve_strip_text _ _)⟩
    | substitute =>
      have hr := resolve_substitute_monthDay today md time
      by_cases hd : md.day ≤ Gregorian.monthLength today.year md.month
      · simp only [Day.value?, if_pos hd]
        have hi := interpret_date_behind_year today.year_bounds
          (Spelling.monthDay md time).markers hd time
        rw [Spelling.value, Temporal.withYear_withTimePart] at hi
        refine ⟨if time.isSome then .fullDateTime else .dateOnly, ?_⟩
        rw [analyze_eq_ok_iff, Day.spelling, hr]
        exact hi
      · simp only [Day.value?, if_neg hd]
        refine analyze_eq_error_of_interpret ?_
        rw [Day.spelling, hr]
        exact interpret_no_date_behind_year _ (Nat.lt_of_not_le hd) time

theorem analyze_timeAlone (today : Date) (τ : TimeSpelling) :
    analyze .strip today ('T' :: τ.text) = .ok ⟨.timeOnly, τ.setOn Temporal.empty⟩ :=
  analyze_text_of_resolve (s := .timeAlone τ) (Spelling.resolve_strip_text _ _)

end

theorem Temporal.withTime_setOn (v w : Temporal) (τ : TimeSpelling) :
    v.withTime (τ.setOn w) = τ.setOn v := by
  cases τ <;> rfl

-- ---------------------------------------------------------------------------
-- Outcomes
-- ---------------------------------------------------------------------------

/-- Failures of one kind: out of range with the same field and value, or broken off for the same
reason. -/
def Failure.Alike : Failure → Failure → Prop
  | .fault f, .fault f' =>
    f.kind = f'.kind ∧ (f.kind = .outOfRange → f.context.metadata = f'.context.metadata)
  | .breach b, .breach b' => b = b'
  | _, _ => False

/-- The same text, or failures alike. -/
def Alike : Except Failure Output → Except Failure Output → Prop
  | .ok out, .ok out' => out.text = out'.text
  | .error e, .error e' => e.Alike e'
  | _, _ => False

section
variable [LocaleLibrary] {s : Settings} {today : Date} {facet : Facet}

/-- One value is presented alike under all names and granularities. -/
theorem alike_presentAs {a a' : Analysis} (h : a.value = a'.value) (token token' : Text) :
    Alike (presentAs s facet token a) (presentAs s facet token' a') := by
  rw [presentAs, presentAs, h]
  cases present s facet a'.value with
  | ok text => exact rfl
  | error e =>
    cases e with
    | outOfRange e => exact ⟨rfl, fun _ => rfl⟩
    | breach b => exact rfl

theorem combine_of_analyze {dateToken timeToken : Text} {date time : Analysis}
    (hd : analyze facet.filling today dateToken = .ok date)
    (ht : analyze .strip today timeToken = .ok time) :
    combine s today dateToken timeToken facet =
      presentAs s facet (dateToken ++ '+' :: timeToken)
        ⟨combinedGranularity date.granularity (date.value.withTime time.value).hadExplicitTime,
          date.value.withTime time.value⟩ := by
  rw [combine, hd, ht]
  rfl

end

/-- A day and a time in two tokens are shown as the one token that joins them is, or both fail
in the same way. -/
theorem combine_alike_normalize [LocaleLibrary] (s : Settings) (today : Date) (facet : Facet)
    (day : Day) (τ : TimeSpelling) :
    Alike (combine s today (day.spelling none).text ('T' :: τ.text) facet)
      (normalize s today ((day.spelling none).text ++ 'T' :: τ.text) facet) := by
  have hdate := analyze_day facet.filling today day none
  have hjoined := analyze_day facet.filling today day (some τ)
  rw [Day.text_spelling_some] at hjoined
  cases hv : day.value? facet.filling today with
  | some v =>
    rw [hv] at hdate hjoined
    obtain ⟨g, hdate⟩ := hdate
    obtain ⟨g', hjoined⟩ := hjoined
    rw [combine_of_analyze hdate (analyze_timeAlone today τ), normalize_of_analyze hjoined]
    exact alike_presentAs (Temporal.withTime_setOn v _ τ) _ _
  | none =>
    -- The 29th of February is not read in a common year, with a time or without.
    rw [hv] at hdate hjoined
    obtain ⟨f, hdate, hk⟩ := hdate
    obtain ⟨f', hjoined, hk'⟩ := hjoined
    rw [combine, hdate, normalize, hjoined]
    refine ⟨hk.trans hk'.symm, fun h => ?_⟩
    rw [hk] at h
    exact absurd h (by decide)

-- ---------------------------------------------------------------------------
-- Granularities and times
-- ---------------------------------------------------------------------------

/-- The granularity takes a time if the value has one, and the value has a time if the
granularity says so. -/
structure Granularity.AgreesOnTime (g : Granularity) (v : Temporal) : Prop where
  hasTimePart : v.hadExplicitTime = true → g.hasTimePart = true
  hadExplicitTime : g = .fullDateTime ∨ g = .timeOnly → v.hadExplicitTime = true

theorem Token.Spelling.agreesOnTime (s : Spelling) : s.granularity.AgreesOnTime s.value := by
  cases s with
  | date d time =>
    cases time <;> constructor <;>
      simp [granularity, value, Granularity.hasTimePart, ofDate, Temporal.empty]
  | monthDay md time =>
    cases time <;> constructor <;>
      simp [granularity, value, Granularity.hasTimePart, Temporal.empty]
  | timeAlone τ => cases τ <;> exact ⟨fun _ => rfl, fun _ => rfl⟩
  | bareTime τ => cases τ <;> exact ⟨fun _ => rfl, fun _ => rfl⟩
  | _ => constructor <;> simp [granularity, value, Granularity.hasTimePart, Temporal.empty]

theorem agreesOnTime_of_analyze {filling : Filling} {today : Date} {token : Text} {a : Analysis}
    (h : analyze filling today token = .ok a) : a.granularity.AgreesOnTime a.value := by
  obtain ⟨s, -, -, hg, hv⟩ := exists_spelling_of_analyze h
  exact hg ▸ hv ▸ s.agreesOnTime

theorem Temporal.hadExplicitTime_withTime_of_timed {w : Temporal} (h : w.hadExplicitTime = true)
    (v : Temporal) : (v.withTime w).hadExplicitTime = true := by
  simp [withTime, h]

theorem hasTimePart_combinedGranularity_iff {g : Granularity} :
    (combinedGranularity g true).hasTimePart = true ↔ g.hasTimePart = true ∨ g = .dateOnly := by
  cases g <;> decide

section
variable {g : Granularity} {v : Temporal} (h : g.AgreesOnTime v)
include h

theorem combinedGranularity_of_agreesOnTime : combinedGranularity g v.hadExplicitTime = g := by
  cases ht : v.hadExplicitTime with
  | false => rfl
  | true =>
    have hg : g ≠ .dateOnly := by
      rintro rfl
      exact absurd (h.hasTimePart ht) (by decide)
    simp [combinedGranularity, hg]

theorem hadExplicitTime_of_combinedGranularity {w : Temporal}
    (hg : combinedGranularity g (v.withTime w).hadExplicitTime = .fullDateTime ∨
      combinedGranularity g (v.withTime w).hadExplicitTime = .timeOnly) :
    (v.withTime w).hadExplicitTime = true := by
  cases hw : w.hadExplicitTime with
  | true => exact Temporal.hadExplicitTime_withTime_of_timed hw v
  | false =>
    rw [Temporal.withTime_of_timeless hw] at hg ⊢
    rw [combinedGranularity_of_agreesOnTime h] at hg
    exact h.hadExplicitTime hg

/-- A time changes the granularity of a full date alone. -/
theorem agreesOnTime_combinedGranularity_iff {w : Temporal} :
    (combinedGranularity g (v.withTime w).hadExplicitTime).AgreesOnTime (v.withTime w) ↔
      (w.hadExplicitTime = true → g.hasTimePart = true ∨ g = .dateOnly) := by
  cases hw : w.hadExplicitTime with
  | true =>
    have ht := Temporal.hadExplicitTime_withTime_of_timed hw v
    rw [ht, forall_prop_of_true rfl, ← hasTimePart_combinedGranularity_iff]
    exact ⟨fun ha => ha.hasTimePart ht, fun hp => ⟨fun _ => hp, fun _ => ht⟩⟩
  | false =>
    rw [Temporal.withTime_of_timeless hw, combinedGranularity_of_agreesOnTime h]
    exact iff_of_true h nofun

end

theorem combine_eq_ok_iff [LocaleLibrary] {s : Settings} {today : Date}
    {dateToken timeToken : Text} {facet : Facet} {out : Output} :
    combine s today dateToken timeToken facet = .ok out ↔
      ∃ date time text, analyze facet.filling today dateToken = .ok date ∧
        analyze .strip today timeToken = .ok time ∧
        present s facet (date.value.withTime time.value) = .ok text ∧
        ⟨text, combinedGranularity date.granularity
            (date.value.withTime time.value).hadExplicitTime,
          dateToken ++ '+' :: timeToken, facet⟩ = out := by
  simp only [combine, bind_eq_ok_iff, mapError_eq_ok_iff, presentAs_eq_ok_iff]
  constructor
  · rintro ⟨date, hd, time, ht, text, hp, ho⟩
    exact ⟨date, time, text, hd, ht, hp, ho⟩
  · rintro ⟨date, time, text, hd, ht, hp, ho⟩
    exact ⟨date, hd, time, ht, text, hp, ho⟩

/-- The granularity of a normalized token knows of the time of its value. That of a date and a
time says of no value without a time that it has one, but knows of a time that is joined only
if it is joined to a full date, or to what may carry a time itself. -/
theorem time_agrees_of_output [LocaleLibrary] (s : Settings) (today : Date) (facet : Facet) :
    (∀ token out, normalize s today token facet = .ok out →
      ∃ v, analyze facet.filling today token = .ok ⟨out.granularity, v⟩ ∧
        present s facet v = .ok out.text ∧ out.granularity.AgreesOnTime v) ∧
    ∀ dateToken timeToken out, combine s today dateToken timeToken facet = .ok out →
      ∃ date time v, analyze facet.filling today dateToken = .ok date ∧
        analyze .strip today timeToken = .ok time ∧ date.value.withTime time.value = v ∧
        present s facet v = .ok out.text ∧
        (out.granularity = .fullDateTime ∨ out.granularity = .timeOnly →
          v.hadExplicitTime = true) ∧
        (out.granularity.AgreesOnTime v ↔
          (time.value.hadExplicitTime = true →
            date.granularity.hasTimePart = true ∨ date.granularity = .dateOnly)) := by
  constructor
  · intro token out h
    obtain ⟨a, ha, -⟩ := bind_eq_ok_iff.mp h
    have ha := mapError_eq_ok_iff.mp ha
    obtain ⟨text, hp, rfl⟩ := (normalize_eq_ok_iff facet ha).mp h
    exact ⟨a.value, ha, hp, agreesOnTime_of_analyze ha⟩
  · intro dateToken timeToken out h
    obtain ⟨date, time, text, hd, ht, hp, rfl⟩ := combine_eq_ok_iff.mp h
    have ha := agreesOnTime_of_analyze hd
    exact ⟨date, time, _, hd, ht, rfl, hp, hadExplicitTime_of_combinedGranularity ha,
      agreesOnTime_combinedGranularity_iff ha⟩

theorem sunday_afternoon_agrees :
    (∃ out v, normalize Settings.default exampleDay "XXXX-WXX-7T14".toList .weekdayName = .ok out ∧
      present Settings.default .weekdayName v = .ok out.text ∧
      out.granularity.AgreesOnTime v) ∧
    ∃ (out : Output) (date time : Analysis) (v : Temporal),
      combine Settings.default exampleDay "2018-10-28".toList "T14".toList .weekdayName = .ok out ∧
      date.value.withTime time.value = v ∧ present Settings.default .weekdayName v = .ok out.text ∧
      out.granularity.AgreesOnTime v := by
  obtain ⟨hone, htwo⟩ := time_agrees_of_output Settings.default exampleDay .weekdayName
  constructor
  · have hn : normalize Settings.default exampleDay "XXXX-WXX-7T14".toList .weekdayName =
        .ok ⟨"Sunday".toList, .weekdayOnly, "XXXX-WXX-7T14".toList, .weekdayName⟩ := rfl
    obtain ⟨v, -, hp, ha⟩ := hone _ _ hn
    exact ⟨_, v, hn, hp, ha⟩
  · have hc : combine Settings.default exampleDay "2018-10-28".toList "T14".toList .weekdayName =
        .ok ⟨"Sunday".toList, .fullDateTime, "2018-10-28+T14".toList, .weekdayName⟩ := rfl
    obtain ⟨date, time, v, hd, -, hv, hp, -, hiff⟩ := htwo _ _ _ hc
    have hdate : analyze .strip exampleDay "2018-10-28".toList =
        .ok ⟨.dateOnly, ⟨some 2018, some 10, some 28, some 7, none, none, none, false⟩⟩ := rfl
    obtain rfl := Except.ok.inj (hd.symm.trans hdate)
    exact ⟨_, _, time, v, hc, hv, hp, hiff.mpr fun _ => .inr rfl⟩

/-- The afternoon of the 15th of March is a month and a day. -/
theorem not_forall_time_agrees :
    ¬ ∀ (today : Date) (dateToken timeToken : Text) (facet : Facet) (out : Output)
        (date time : Analysis),
      combine Settings.default today dateToken timeToken facet = .ok out →
        analyze facet.filling today dateToken = .ok date →
          analyze .strip today timeToken = .ok time →
            out.granularity.AgreesOnTime (date.value.withTime time.value) := by
  intro h
  have ha := h exampleDay "XXXX-03-15".toList "T14".toList .zeroPaddedDay
    ⟨"15".toList, .monthDay, "XXXX-03-15+T14".toList, .zeroPaddedDay⟩
    ⟨.monthDay, ⟨none, some 3, some 15, none, none, none, none, false⟩⟩
    ⟨.timeOnly, ⟨none, none, none, none, some 14, some 0, none, true⟩⟩ rfl rfl rfl
  exact absurd (ha.hasTimePart rfl) (by decide)

end Timex
