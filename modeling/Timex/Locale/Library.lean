import Timex.DatePattern.Format
import Timex.Locale.Tag

/-!
# Locale libraries

What a presentation asks of a library of locales: the locale that a tag names, the tag that
stands in for an empty one, and a subject as a pattern writes it in a locale. A library writes
every date by the patterns that its locales have for parts of dates. The one built in knows the
locales of the table.
-/

namespace Timex

class LocaleLibrary where
  named : Text → Except LocaleError Locale
  /-- The tag that stands in for an empty one where a text is formatted, if there is one. -/
  standIn : Option Text
  format : Locale → Text → Subject → Except PatternError Text
  named_nil : named [] = .error .noTag
  format_yearMonth : ∀ {tag l}, named tag = .ok l → ∀ d,
    ∃ t, format l l.yearMonth.toList (Subject.atMidnight d) = .ok t
  format_monthDay : ∀ {tag l}, named tag = .ok l → ∀ d,
    ∃ t, format l l.monthDay.toList (Subject.atMidnight d) = .ok t

namespace LocaleLibrary

/-- The locale of a text to be formatted. -/
def forText [LocaleLibrary] (tag : Text) : Except LocaleError Locale :=
  if tag.isEmpty then
    match standIn with
    | some tag => named tag
    | none => .error .noDefault
  else named tag

/-! ## The library built in -/

theorem mem_table_of_named {tag : Text} {l : Locale} (h : Locale.named tag = .ok l) :
    l ∈ Locale.table := by
  simp only [Locale.named, bind, Except.bind, pure, Except.pure, throw, throwThe,
    MonadExceptOf.throw] at h
  split at h
  · simp at h
  · split at h
    · simp at h
    · split at h
      · rename_i hf
        obtain rfl := Except.ok.inj h
        exact List.mem_of_find?_eq_some hf
      · simp at h

/-- A literal, or a number that every date has. -/
def isDateNumber : DatePattern.Piece → Bool
  | .literal _ => true
  | .field 'y' _ => true
  | .field 'M' count | .field 'd' count => count ≤ 2
  | .field _ _ => false

theorem isDateNumber_of_mem_table : ∀ l ∈ Locale.table,
    (DatePattern.pieces l.yearMonth.toList).all isDateNumber ∧
      (DatePattern.pieces l.monthDay.toList).all isDateNumber := by
  decide

theorem letter_of_isDateNumber {letter : Char} {count : Nat}
    (h : isDateNumber (.field letter count) = true) :
    letter = 'y' ∨ (letter = 'M' ∨ letter = 'd') ∧ count ≤ 2 := by
  unfold isDateNumber at h
  split at h
  all_goals simp_all

theorem checkLengths_of_isDateNumber {ps : List DatePattern.Piece} (h : ps.all isDateNumber) :
    DatePattern.checkLengths ps = .ok () := by
  induction ps with
  | nil => rfl
  | cons p ps ih =>
    simp only [List.all_cons, Bool.and_eq_true] at h
    have hps := ih h.2
    cases p with
    | literal c => exact hps
    | field letter count =>
      rcases letter_of_isDateNumber h.1 with rfl | ⟨rfl | rfl, hc⟩
      · exact hps
      · have hc5 : count ≤ 5 := Nat.le_trans hc (by decide)
        simpa [DatePattern.checkLengths, DatePattern.fieldLengths, DatePattern.Lengths.allows, hc5]
          using hps
      · simpa [DatePattern.checkLengths, DatePattern.fieldLengths, DatePattern.Lengths.allows, hc]
          using hps

theorem exists_formatPieces_eq_ok {ps : List DatePattern.Piece} (h : ps.all isDateNumber)
    (l : Locale) {s : Subject} {d : Date} (hd : s.date = some d) :
    ∃ t, DatePattern.formatPieces l s ps = .ok t := by
  induction ps with
  | nil => exact ⟨[], rfl⟩
  | cons p ps ih =>
    simp only [List.all_cons, Bool.and_eq_true] at h
    obtain ⟨u, hu⟩ := ih h.2
    cases p with
    | literal c =>
      refine ⟨c :: u, ?_⟩
      simp [DatePattern.formatPieces, hu, bind, Except.bind, pure, Except.pure]
    | field letter count =>
      have hf : ∃ v, DatePattern.formatField l s letter count = .ok v := by
        have hdate : ∀ part, s.dateFor part = .ok d := fun part => by simp [Subject.dateFor, hd]
        rcases letter_of_isDateNumber h.1 with rfl | ⟨rfl | rfl, hc⟩ <;>
          simp_all [DatePattern.formatField, bind, Except.bind, pure, Except.pure]
      obtain ⟨v, hv⟩ := hf
      refine ⟨v ++ u, ?_⟩
      simp [DatePattern.formatPieces, hv, hu, bind, Except.bind, pure, Except.pure]

/-- A pattern of numbers of a date writes whatever has a date. -/
theorem exists_format_eq_ok {pattern : Text}
    (h : (DatePattern.pieces pattern).all isDateNumber) (l : Locale) {s : Subject} {d : Date}
    (hd : s.date = some d) : ∃ t, DatePattern.format l pattern s = .ok t := by
  obtain ⟨t, ht⟩ := exists_formatPieces_eq_ok h l hd
  refine ⟨t, ?_⟩
  simp only [DatePattern.format, checkLengths_of_isDateNumber h, ht]
  rfl

instance builtIn : LocaleLibrary where
  named := Locale.named
  standIn := none
  format := DatePattern.format
  named_nil := rfl
  format_yearMonth h _ :=
    exists_format_eq_ok (isDateNumber_of_mem_table _ (mem_table_of_named h)).1 _ rfl
  format_monthDay h _ :=
    exists_format_eq_ok (isDateNumber_of_mem_table _ (mem_table_of_named h)).2 _ rfl

end LocaleLibrary
end Timex
