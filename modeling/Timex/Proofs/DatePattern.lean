import Timex.Locale.Library

/-!
# Patterns of numbers

A pattern of literals and numbers is written piece by piece: a number in decimal digits, with
zeros in front up to as many as the field has letters. Dates and times in full are such texts.
-/

namespace Timex.DatePattern

-- ---------------------------------------------------------------------------
-- Numbers
-- ---------------------------------------------------------------------------

/-- The number that a letter stands for, if the subject has it. -/
def number? (s : Subject) : Char → Option Nat
  | 'y' => s.date.map (·.year)
  | 'M' => s.date.map (·.month)
  | 'd' => s.date.map (·.day)
  | 'H' => s.time.map (·.hour)
  | 'm' => s.time.map (·.minute)
  | 's' => s.time.map (·.second)
  | _ => none

/-- Whether so many letters stand for a number as it is. Two of them cut a year to its last
digits, and three or more name a month. -/
def isWholeNumber (letter : Char) (count : Nat) : Bool :=
  if letter = 'y' then count != 2 else count ≤ 2

/-- The text of literals and numbers; `none` where a field is something else. -/
def numerals? (s : Subject) : List Piece → Option Text
  | [] => some []
  | .literal c :: rest => (numerals? s rest).map (c :: ·)
  | .field letter count :: rest =>
    if isWholeNumber letter count then
      match number? s letter, numerals? s rest with
      | some n, some t => some (Text.zeroPadded count n ++ t)
      | _, _ => none
    else none

section
variable {s : Subject} {letter : Char} {count n : Nat}

theorem numerals?_field_eq_some_iff {rest : List Piece} {t : Text} :
    numerals? s (.field letter count :: rest) = some t ↔
      isWholeNumber letter count = true ∧ ∃ n u, number? s letter = some n ∧
        numerals? s rest = some u ∧ Text.zeroPadded count n ++ u = t := by
  rw [numerals?]
  cases isWholeNumber letter count <;> cases number? s letter <;> cases numerals? s rest <;> simp

theorem count_le_two (hc : isWholeNumber letter count = true) (h : letter ≠ 'y') : count ≤ 2 := by
  simpa [isWholeNumber, h] using hc

theorem lengths_of_number (hc : isWholeNumber letter count = true)
    (hn : number? s letter = some n) :
    ∃ lengths, fieldLengths letter = some lengths ∧ lengths.allows count = true := by
  have hle := count_le_two hc
  unfold number? at hn
  split at hn
  case h_1 => exact ⟨.any, rfl, rfl⟩
  case h_2 => exact ⟨.upTo 5, rfl, decide_eq_true (Nat.le_trans (hle (by decide)) (by decide))⟩
  case h_7 => simp at hn
  all_goals exact ⟨.upTo 2, rfl, decide_eq_true (hle (by decide))⟩

theorem formatField_of_number (l : Locale) (hc : isWholeNumber letter count = true)
    (hn : number? s letter = some n) :
    formatField l s letter count = .ok (Text.zeroPadded count n) := by
  have hle := count_le_two hc
  unfold number? at hn
  split at hn
  case h_1 =>
    obtain ⟨d, hd, rfl⟩ := Option.map_eq_some_iff.mp hn
    have hne : count ≠ 2 := by simpa [isWholeNumber] using hc
    simp [formatField, formatYear, Subject.dateFor, hd, hne, bind, Except.bind, pure, Except.pure]
  case h_7 => simp at hn
  all_goals
    obtain ⟨part, hp, rfl⟩ := Option.map_eq_some_iff.mp hn
    simp [formatField, Subject.dateFor, Subject.timeFor, hp, hle, bind, Except.bind, pure,
      Except.pure]

theorem checkLengths_of_numerals {ps : List Piece} {t : Text} (h : numerals? s ps = some t) :
    checkLengths ps = .ok () := by
  induction ps generalizing t with
  | nil => rfl
  | cons p ps ih =>
    cases p with
    | literal c =>
      obtain ⟨u, hu, -⟩ := Option.map_eq_some_iff.mp h
      exact ih hu
    | field letter count =>
      obtain ⟨hc, n, u, hn, hu, -⟩ := numerals?_field_eq_some_iff.mp h
      obtain ⟨lengths, hl, ha⟩ := lengths_of_number hc hn
      simp [checkLengths, hl, ha, ih hu]

theorem formatPieces_of_numerals (l : Locale) {ps : List Piece} {t : Text}
    (h : numerals? s ps = some t) : formatPieces l s ps = .ok t := by
  induction ps generalizing t with
  | nil => exact congrArg Except.ok (Option.some.inj h)
  | cons p ps ih =>
    cases p with
    | literal c =>
      obtain ⟨u, hu, rfl⟩ := Option.map_eq_some_iff.mp h
      rw [formatPieces, ih hu]
      rfl
    | field letter count =>
      obtain ⟨hc, n, u, hn, hu, rfl⟩ := numerals?_field_eq_some_iff.mp h
      rw [formatPieces, formatField_of_number l hc hn, ih hu]
      rfl

end

-- ---------------------------------------------------------------------------
-- Dates and times in full
-- ---------------------------------------------------------------------------

def isoDate : Text := "yyyy-MM-dd".toList

def isoTime : Text := "HH:mm:ss".toList

theorem numerals?_isoDate (d : Date) :
    numerals? (Subject.ofDate d) (pieces isoDate) = some d.iso := by
  have hp : pieces isoDate =
      [.field 'y' 4, .literal '-', .field 'M' 2, .literal '-', .field 'd' 2] := by decide
  simp [hp, numerals?, isWholeNumber, number?, Subject.ofDate, Date.iso]

theorem numerals?_isoTime (t : TimeOfDay) :
    numerals? (Subject.ofTime t) (pieces isoTime) = some t.iso := by
  have hp : pieces isoTime =
      [.field 'H' 2, .literal ':', .field 'm' 2, .literal ':', .field 's' 2] := by decide
  simp [hp, numerals?, isWholeNumber, number?, Subject.ofTime, TimeOfDay.iso]

end Timex.DatePattern

namespace Timex.LocaleLibrary

open DatePattern (numerals? pieces isoDate isoTime)

/-- In every locale a pattern of numbers is written in decimal digits. -/
def WritesNumbers [LocaleLibrary] : Prop :=
  ∀ {tag l}, named tag = .ok l → ∀ {pattern s t},
    numerals? s (pieces pattern) = some t → format l pattern s = .ok t

theorem builtIn_writesNumbers : @WritesNumbers builtIn := by
  intro _ l _ pattern s t h
  show DatePattern.format l pattern s = .ok t
  simp only [DatePattern.format, DatePattern.checkLengths_of_numerals h,
    DatePattern.formatPieces_of_numerals l h]
  rfl

section
variable [LocaleLibrary] (hw : WritesNumbers) {tag : Text} {l : Locale} (hl : named tag = .ok l)
include hw hl

theorem format_isoDate (d : Date) :
    format l (l.datePattern isoDate) (Subject.ofDate d) = .ok d.iso :=
  hw hl (DatePattern.numerals?_isoDate d)

theorem format_isoTime (t : TimeOfDay) :
    format l (l.timePattern isoTime) (Subject.ofTime t) = .ok t.iso :=
  hw hl (DatePattern.numerals?_isoTime t)

end
end Timex.LocaleLibrary
