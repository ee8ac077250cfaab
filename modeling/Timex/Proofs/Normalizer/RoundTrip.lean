import Timex.Proofs.DatePattern
import Timex.Proofs.Normalizer.Outcome
import Timex.Proofs.Token.Groups

/-!
# Reading back what is shown

Under settings that write dates and times in full, the text of a date or a time is a token
again. It is understood as the date or the time that it shows, and is shown as it is.
-/

namespace Timex

open Token (Spelling TimeSpelling withTimePart)

-- ---------------------------------------------------------------------------
-- Values in full
-- ---------------------------------------------------------------------------

namespace Temporal

/-- The date of a value, without its time. -/
def dateAlone (v : Temporal) : Temporal :=
  { v with hour := none, minute := none, second := none, hadExplicitTime := false }

/-- The time of a value, without its date and to the second. -/
def timeAlone (v : Temporal) : Temporal :=
  { empty with
    hour := v.hour, minute := v.minute, second := some (v.second.getD 0), hadExplicitTime := true }

end Temporal

namespace Token

namespace TimeSpelling

/-- The spelling of a time of day in full. -/
def inFull (t : TimeOfDay) : TimeSpelling :=
  .second true ⟨t.hour, t.hour_lt⟩ ⟨t.minute, t.minute_lt⟩ ⟨t.second, t.second_lt⟩

theorem toTime_setOn_inFull (t : TimeOfDay) (v : Temporal) : ((inFull t).setOn v).toTime = .ok t :=
  TimeOfDay.ofNumbers_self t

/-- A time that is spelled is a time of day. What is not spelled is zero. -/
theorem exists_timeOfDay (τ : TimeSpelling) (v : Temporal) :
    ∃ t, (τ.setOn v).toTime = .ok t ∧ (τ.setOn v).timeAlone = (inFull t).setOn Temporal.empty := by
  cases τ with
  | hour _ h =>
    let t : TimeOfDay := ⟨h, 0, 0, h.isLt, by decide, by decide⟩
    exact ⟨t, TimeOfDay.ofNumbers_self t, rfl⟩
  | minute _ h m =>
    let t : TimeOfDay := ⟨h, m, 0, h.isLt, m.isLt, by decide⟩
    exact ⟨t, TimeOfDay.ofNumbers_self t, rfl⟩
  | second _ h m s =>
    let t : TimeOfDay := ⟨h, m, s, h.isLt, m.isLt, s.isLt⟩
    exact ⟨t, TimeOfDay.ofNumbers_self t, rfl⟩

end TimeSpelling

theorem toDate_withTimePart (d : Date) (time : Option TimeSpelling) :
    (withTimePart (Spelling.ofDate d) time).toDate = .ok d := by
  have hd := Date.ofNumbers_self d
  rcases time with _ | _ | _ | _ <;> exact hd

theorem dateAlone_withTimePart (d : Date) (time : Option TimeSpelling) :
    (withTimePart (Spelling.ofDate d) time).dateAlone = Spelling.ofDate d := by
  rcases time with _ | _ | _ | _ <;> rfl

namespace Spelling

theorem exists_date_of_hasFullDate {s : Spelling} (h : s.value.hasFullDate = true) :
    ∃ d time, s.value = withTimePart (ofDate d) time := by
  cases s with
  | date d time => exact ⟨d, time, rfl⟩
  | timeAlone τ => cases τ <;> exact absurd h Bool.false_ne_true
  | bareTime τ => cases τ <;> exact absurd h Bool.false_ne_true
  | _ => simp [value, Temporal.hasFullDate, Temporal.empty] at h

theorem exists_time_of_hadExplicitTime {s : Spelling} (h : s.value.hadExplicitTime = true) :
    ∃ v, ∃ τ : TimeSpelling, s.value = τ.setOn v := by
  have hpart : ∀ {v : Temporal} {time : Option TimeSpelling}, v.hadExplicitTime = false →
      (withTimePart v time).hadExplicitTime = true → ∃ w, ∃ τ : TimeSpelling,
        withTimePart v time = τ.setOn w := by
    intro v time hv ht
    cases time with
    | none => exact absurd ht (Bool.eq_false_iff.mp hv)
    | some τ => exact ⟨v, τ, rfl⟩
  cases s with
  | date d time => exact hpart rfl h
  | monthDay md time => exact hpart rfl h
  | weekday e time => exact hpart rfl h
  | timeAlone τ => exact ⟨_, τ, rfl⟩
  | bareTime τ => exact ⟨_, τ, rfl⟩
  | yearMonth ym marked => exact absurd h Bool.false_ne_true
  | month n marked => exact absurd h Bool.false_ne_true
  | dayOfMonth padded d => exact absurd h Bool.false_ne_true

end Spelling
end Token

section
variable {filling : Filling} {today : Date} {token : Text} {a : Analysis}

theorem exists_date_of_analyze (h : analyze filling today token = .ok a)
    (hv : a.value.hasFullDate = true) :
    ∃ d, a.value.toDate = .ok d ∧ a.value.dateAlone = Spelling.ofDate d := by
  obtain ⟨s, -, -, -, he⟩ := exists_spelling_of_analyze h
  rw [← he] at hv ⊢
  obtain ⟨d, time, hd⟩ := Spelling.exists_date_of_hasFullDate hv
  exact ⟨d, hd ▸ Token.toDate_withTimePart d time, hd ▸ Token.dateAlone_withTimePart d time⟩

theorem exists_time_of_analyze (h : analyze filling today token = .ok a)
    (hv : a.value.hadExplicitTime = true) :
    ∃ t, a.value.toTime = .ok t ∧
      a.value.timeAlone = (TimeSpelling.inFull t).setOn Temporal.empty := by
  obtain ⟨s, -, -, -, he⟩ := exists_spelling_of_analyze h
  rw [← he] at hv ⊢
  obtain ⟨v, τ, hτ⟩ := Spelling.exists_time_of_hadExplicitTime hv
  exact hτ ▸ τ.exists_timeOfDay v

end

-- ---------------------------------------------------------------------------
-- Texts in full
-- ---------------------------------------------------------------------------

theorem analyze_iso_date (filling : Filling) (today d : Date) :
    analyze filling today d.iso = .ok ⟨.dateOnly, Spelling.ofDate d⟩ := by
  have h := analyze_unmarked (s := .date d none) rfl filling today
  rwa [Spelling.unmarked, Token.timePart, List.append_nil] at h

theorem analyze_iso_time (filling : Filling) (today : Date) (t : TimeOfDay) :
    analyze filling today t.iso = .ok ⟨.timeOnly, (TimeSpelling.inFull t).setOn Temporal.empty⟩ :=
  analyze_unmarked (s := .bareTime (.inFull t) rfl) rfl filling today

/-- The text is understood as the value and is shown again as it is, on any day. -/
structure ReadsBack [LocaleLibrary] (s : Settings) (facet : Facet) (text : Text) (a : Analysis) :
    Prop where
  understood : ∀ filling today, analyze filling today text = .ok a
  shown : ∀ today, ∃ out, normalize s today text facet = .ok out ∧ out.text = text

section
variable [LocaleLibrary] (hw : LocaleLibrary.WritesNumbers) {s : Settings} {l : Locale}
  (hl : LocaleLibrary.named s.locale = .ok l)
include hw hl

theorem present_iso_date (hs : s.dateFormat = DatePattern.isoDate) {v : Temporal} {d : Date}
    (hd : v.toDate = .ok d) : present s .localizedDate v = .ok d.iso := by
  refine Presentation.localizedDate_of_toDate hl hd ?_
  rw [hs]
  exact LocaleLibrary.format_isoDate hw hl d

open Presentation in
theorem present_iso_time (hs : s.timeFormat = DatePattern.isoTime) {v : Temporal} {t : TimeOfDay}
    (ht : v.toTime = .ok t) : present s .localizedTime v = .ok t.iso := by
  have hf := LocaleLibrary.format_isoTime hw hl t
  rw [← hs] at hf
  simp [present, localizedTime, timeText?_of_toTime hl ht hf]

theorem readsBack_iso_date (hs : s.dateFormat = DatePattern.isoDate) (d : Date) :
    ReadsBack s .localizedDate d.iso ⟨.dateOnly, Spelling.ofDate d⟩ where
  understood filling today := analyze_iso_date filling today d
  shown today := by
    have hp := present_iso_date hw hl hs (Token.toDate_withTimePart d none)
    exact ⟨_, (normalize_eq_ok_iff _ (analyze_iso_date _ today d)).mpr ⟨_, hp, rfl⟩, rfl⟩

theorem readsBack_iso_time (hs : s.timeFormat = DatePattern.isoTime) (t : TimeOfDay) :
    ReadsBack s .localizedTime t.iso
      ⟨.timeOnly, (TimeSpelling.inFull t).setOn Temporal.empty⟩ where
  understood filling today := analyze_iso_time filling today t
  shown today := by
    have hp := present_iso_time hw hl hs (TimeSpelling.toTime_setOn_inFull t Temporal.empty)
    exact ⟨_, (normalize_eq_ok_iff _ (analyze_iso_time _ today t)).mpr ⟨_, hp, rfl⟩, rfl⟩

end

/-- A full date that is shown as such reads back as the date, and a time that is shown to the
second reads back as the time. -/
theorem shown_in_full_reads_back [LocaleLibrary] (hw : LocaleLibrary.WritesNumbers) {s : Settings}
    {l : Locale} (hl : LocaleLibrary.named s.locale = .ok l) (today : Date) (token : Text) :
    (s.dateFormat = DatePattern.isoDate → ∀ a, analyze .substitute today token = .ok a →
      a.value.hasFullDate = true →
        ∃ out, normalize s today token .localizedDate = .ok out ∧
          ReadsBack s .localizedDate out.text ⟨.dateOnly, a.value.dateAlone⟩) ∧
    (s.timeFormat = DatePattern.isoTime → ∀ a, analyze .strip today token = .ok a →
      a.value.hadExplicitTime = true →
        ∃ out, normalize s today token .localizedTime = .ok out ∧
          ReadsBack s .localizedTime out.text ⟨.timeOnly, a.value.timeAlone⟩) := by
  constructor
  · intro hs a ha hfull
    obtain ⟨d, hd, hv⟩ := exists_date_of_analyze ha hfull
    refine ⟨_, (normalize_eq_ok_iff .localizedDate ha).mpr
      ⟨_, present_iso_date hw hl hs hd, rfl⟩, ?_⟩
    rw [hv]
    exact readsBack_iso_date hw hl hs d
  · intro hs a ha htimed
    obtain ⟨t, ht, hv⟩ := exists_time_of_analyze ha htimed
    refine ⟨_, (normalize_eq_ok_iff .localizedTime ha).mpr
      ⟨_, present_iso_time hw hl hs ht, rfl⟩, ?_⟩
    rw [hv]
    exact readsBack_iso_time hw hl hs t

/-- The default settings, but with dates and times in full. -/
def Settings.iso : Settings :=
  { Settings.default with dateFormat := DatePattern.isoDate, timeFormat := DatePattern.isoTime }

theorem march_morning_reads_back :
    (∃ out, normalize Settings.iso exampleDay "XXXX-03-15T7:30".toList .localizedDate = .ok out ∧
      ReadsBack Settings.iso .localizedDate out.text
        ⟨.dateOnly, ⟨some 2024, some 3, some 15, some 5, none, none, none, false⟩⟩) ∧
    ∃ out, normalize Settings.iso exampleDay "XXXX-03-15T7:30".toList .localizedTime = .ok out ∧
      ReadsBack Settings.iso .localizedTime out.text
        ⟨.timeOnly, ⟨none, none, none, none, some 7, some 30, some 0, true⟩⟩ := by
  have hl : LocaleLibrary.named Settings.iso.locale = .ok Locale.enUS := rfl
  have hdate : analyze .substitute exampleDay "XXXX-03-15T7:30".toList =
      .ok ⟨.fullDateTime, ⟨some 2024, some 3, some 15, some 5, some 7, some 30, none, true⟩⟩ := rfl
  have htime : analyze .strip exampleDay "XXXX-03-15T7:30".toList =
      .ok ⟨.fullDateTime, ⟨none, some 3, some 15, none, some 7, some 30, none, true⟩⟩ := rfl
  obtain ⟨hd, ht⟩ := shown_in_full_reads_back LocaleLibrary.builtIn_writesNumbers hl exampleDay
    "XXXX-03-15T7:30".toList
  exact ⟨hd rfl _ hdate rfl, ht rfl _ htime rfl⟩

end Timex
