import Timex.Proofs.Normalizer.Analysis
import Timex.Proofs.Presentation
import Timex.Proofs.Text.Replace

/-!
# A date and a time in one text

Every joining pattern has a place for the date, so a text that joins the two holds the date.
A value without an explicit time has the text of its date alone, or of its weekday, whatever
time of day it holds.
-/

namespace Timex

namespace LocaleLibrary

theorem named_of_forText [LocaleLibrary] {tag : Text} {l : Locale} (h : forText tag = .ok l) :
    ∃ tag, named tag = .ok l := by
  unfold forText at h
  split at h
  · split at h
    · exact ⟨_, h⟩
    · exact nomatch h
  · exact ⟨_, h⟩

/-- Every locale joins a date to a time by a pattern that has a place for the date. -/
def JoinsDates [LocaleLibrary] : Prop :=
  ∀ {tag l}, named tag = .ok l →
    Presentation.datePlace <:+: l.joining.toList.filter (· ≠ '\x27')

theorem joinsDates_of_mem_table : ∀ l ∈ Locale.table,
    Presentation.datePlace <:+: l.joining.toList.filter (· ≠ '\x27') := by
  decide

theorem builtIn_joinsDates : @JoinsDates builtIn := fun h =>
  joinsDates_of_mem_table _ (mem_table_of_named h)

end LocaleLibrary

namespace Presentation

-- ---------------------------------------------------------------------------
-- Joined texts
-- ---------------------------------------------------------------------------

theorem infix_joinTexts {pattern : Text} (h : datePlace <:+: pattern.filter (· ≠ '\x27'))
    (date time : Text) : date <:+: joinTexts pattern date time := by
  obtain ⟨before, after, he⟩ := h
  have hno : ∀ w, ¬ timePlace <+: '\x7b' :: ('1' :: '\x7d' :: w) := fun w hp => by
    simp [timePlace] at hp
  -- The place of the date is still there when the time is put in.
  have htime : Text.replaceAll timePlace time (before ++ datePlace ++ after) =
      Text.replaceAll timePlace time before ++
        '\x7b' :: (['1', '\x7d'] ++ Text.replaceAll timePlace time after) := by
    rw [List.append_assoc, datePlace, List.cons_append, timePlace,
      Text.replaceAll_append_cons (by decide), List.cons_append, List.cons_append,
      List.nil_append, Text.replaceAll_cons_of_not_begins (hno after),
      ← Text.replaceAll_append_of_not_mem (by decide)]
    rfl
  rw [joinTexts, ← he, htime, datePlace, Text.replaceAll_append_cons (by decide),
    ← List.cons_append, Text.replaceAll_part_append]
  exact List.infix_append' _ _ _

section
variable [LocaleLibrary] {s : Settings} {v : Temporal} {text : Text}

theorem infix_localizedDateTime (hj : LocaleLibrary.JoinsDates) {date : Presented}
    (hd : dateOrWeekday? s v = some date) (h : localizedDateTime s v = .ok text) :
    ∃ shown, date = .ok shown ∧ shown <:+: text := by
  rw [localizedDateTime_eq, hd] at h
  cases ht : timeText? s v with
  | none =>
    rw [ht] at h
    exact ⟨text, h, List.infix_rfl⟩
  | some time =>
    rw [ht] at h
    obtain ⟨shown, hs, h⟩ := bind_eq_ok_iff.mp h
    obtain ⟨clock, -, h⟩ := bind_eq_ok_iff.mp h
    obtain ⟨l, hl, h⟩ := bind_eq_ok_iff.mp h
    rw [← pure_eq_ok_iff.mp h]
    obtain ⟨_, hn⟩ := LocaleLibrary.named_of_forText (mapError_eq_ok_iff.mp hl)
    exact ⟨shown, hs, infix_joinTexts (hj hn) shown clock⟩

theorem localizedTime_of_no_date (hd : dateOrWeekday? s v = none)
    (h : localizedDateTime s v = .ok text) : localizedTime s v = .ok text := by
  rw [localizedDateTime_eq, hd] at h
  rw [localizedTime]
  cases ht : timeText? s v with
  | none => simp [ht] at h
  | some time => simpa [ht] using h

-- ---------------------------------------------------------------------------
-- Values without a time
-- ---------------------------------------------------------------------------

theorem timeText?_of_timeless (h : v.hadExplicitTime = false) : timeText? s v = none := by
  simp [timeText?, h]

theorem localizedDateTime_of_timeless (h : v.hadExplicitTime = false) :
    localizedDateTime s v =
      (dateOrWeekday? s v).getD
        (.error (.outOfRange ⟨missingDateField v, none, .localizedDateTime⟩)) := by
  rw [localizedDateTime_eq, timeText?_of_timeless h]
  cases dateOrWeekday? s v <;> rfl

end

end Presentation

open Presentation in
/-- A value without an explicit time has no time to show, whatever its time fields hold. No
other facet looks at them or at the time format, and where a date and a time are asked for,
the text is that of the date, or that of the weekday if the date has none. -/
theorem present_of_timeless [LocaleLibrary] (s : Settings) {v : Temporal}
    (h : v.hadExplicitTime = false) :
    present s .localizedTime v = .error (.outOfRange ⟨.field .hour, v.hour, .localizedTime⟩) ∧
    (∀ facet ≠ .localizedTime, ∀ (format : Text) (hour minute second : Option Int),
      present { s with timeFormat := format } facet
          { v with hour := hour, minute := minute, second := second } =
        present s facet v) ∧
    ∀ text, present s .localizedDateTime v = .ok text →
      match present s .localizedDate v with
      | .ok date => text = date
      | .error _ => present s .weekdayName v = .ok text := by
  refine ⟨?_, ?_, ?_⟩
  · simp [present, localizedTime, timeText?_of_timeless h]
  · intro facet hf format hour minute second
    cases facet with
    | localizedTime => exact absurd rfl hf
    | localizedDateTime =>
      have hw : Temporal.hadExplicitTime
          { v with hour := hour, minute := minute, second := second } = false := h
      rw [present, present, localizedDateTime_of_timeless h, localizedDateTime_of_timeless hw]
      rfl
    -- The others read neither the time fields nor the time format.
    | _ => rfl
  · intro text ht
    simp only [present, localizedDateTime_of_timeless h, dateOrWeekday?] at ht
    simp only [present, localizedDate]
    cases hd : dateText? s v with
    | some date =>
      simp only [hd, Option.getD_some] at ht
      simp [ht]
    | none =>
      simp only [hd] at ht ⊢
      split at ht
      · simpa using ht
      · simp at ht

theorem sunday_at_fourteen_of_timeless :
    present Settings.default .localizedTime ⟨none, none, none, some 7, some 14, none, none, false⟩ =
        .error (.outOfRange ⟨.field .hour, some 14, .localizedTime⟩) ∧
      present { Settings.default with timeFormat := "H".toList } .localizedDateTime
          ⟨none, none, none, some 7, some 9, some 30, none, false⟩ =
        present Settings.default .localizedDateTime
          ⟨none, none, none, some 7, some 14, none, none, false⟩ ∧
      present Settings.default .weekdayName ⟨none, none, none, some 7, some 14, none, none, false⟩ =
        .ok "Sunday".toList := by
  obtain ⟨htime, hsame, hdate⟩ := present_of_timeless Settings.default
    (v := ⟨none, none, none, some 7, some 14, none, none, false⟩) rfl
  exact ⟨htime, hsame .localizedDateTime (by decide) "H".toList (some 9) (some 30) none,
    hdate "Sunday".toList rfl⟩

end Timex
