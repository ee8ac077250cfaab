import Timex.Granularity

/-!
# Reading patterns

A pattern is a row of numerals with one separator between them. It reads a text
whose groups the numerals accept one by one, nothing before and nothing after. The
tables are ordered: the first pattern that reads a text is the one that counts.
-/

namespace Timex

/-- The numbers that a value may have. -/
inductive Field where
  | year
  | month
  | day
  | weekday
  | hour
  | minute
  | second
  deriving DecidableEq, Repr

def Field.name : Field → String
  | .year => "year"
  | .month => "month"
  | .day => "day"
  | .weekday => "weekday"
  | .hour => "hour"
  | .minute => "minute"
  | .second => "second"

/-- `padded n` is exactly n digits; `unpadded` has no leading zero. -/
inductive Width where
  | padded (digits : Nat)
  | unpadded
  deriving DecidableEq, Repr

/-- A numeral of a width whose number lies between two bounds. -/
structure Numeral where
  field : Field
  width : Width
  least : Nat
  greatest : Nat
  deriving DecidableEq, Repr

namespace Numeral

def fits (width : Width) (t : Text) : Bool :=
  match width with
  | .padded n => t.length == n
  | .unpadded => t.length == 1 || t.head? != some '0'

def accepts (n : Numeral) (t : Text) : Bool :=
  Text.isDigits t && fits n.width t && n.least ≤ Text.toNumber t && Text.toNumber t ≤ n.greatest

theorem isDigits_of_accepts {n : Numeral} {t : Text} (h : n.accepts t = true) :
    Text.isDigits t = true := by
  simp only [accepts, Bool.and_eq_true] at h
  exact h.1.1.1

theorem toNumber_of_accepts {n : Numeral} {t : Text} (h : n.accepts t = true) :
    n.least ≤ Text.toNumber t ∧ Text.toNumber t ≤ n.greatest := by
  simp only [accepts, Bool.and_eq_true, decide_eq_true_eq] at h
  exact ⟨h.1.2, h.2⟩

end Numeral

/-- The text read for each field. -/
abbrev Captures := List (Field × Text)

namespace Captures

def number? (c : Captures) (field : Field) : Option Nat := (c.lookup field).map Text.toNumber

end Captures

inductive ClockStyle where
  | hours24
  | hours12
  deriving DecidableEq, Repr

def ClockStyle.name : ClockStyle → String
  | .hours24 => "24h"
  | .hours12 => "12h"

structure Pattern where
  name : String
  separator : Char
  numerals : List Numeral
  clock : Option ClockStyle
  /-- The earlier pattern of its table that reads the same texts. -/
  redundantWith : Option String
  deriving DecidableEq, Repr

namespace Pattern

/-- Pairs every numeral with the group it accepts, if there are as many. -/
def align? : List Numeral → List Text → Option Captures
  | [], [] => some []
  | n :: ns, g :: gs => if n.accepts g then (align? ns gs).map ((n.field, g) :: ·) else none
  | _, _ => none

/-- What the pattern reads in a text, if it reads all of it. -/
def read? (p : Pattern) (t : Text) : Option Captures :=
  align? p.numerals (Text.split p.separator t)

theorem align?_eq_some {ns : List Numeral} {gs : List Text} {c : Captures}
    (h : align? ns gs = some c) :
    c.map Prod.snd = gs ∧ c.map Prod.fst = ns.map Numeral.field := by
  induction ns generalizing gs c with
  | nil =>
    cases gs with
    | nil => simp only [align?, Option.some.injEq] at h; subst h; simp
    | cons => simp [align?] at h
  | cons n ns ih =>
    cases gs with
    | nil => simp [align?] at h
    | cons g gs =>
      simp only [align?] at h
      split at h
      · obtain ⟨d, hd, rfl⟩ := Option.map_eq_some_iff.1 h
        simp [ih hd]
      · simp at h

/-! ## Numerals -/

def paddedHour : Numeral := ⟨.hour, .padded 2, 0, 23⟩
def unpaddedHour : Numeral := ⟨.hour, .unpadded, 0, 23⟩
def minute : Numeral := ⟨.minute, .padded 2, 0, 59⟩
def second : Numeral := ⟨.second, .padded 2, 0, 59⟩
def year : Numeral := ⟨.year, .padded 4, 1, 9999⟩
def month : Numeral := ⟨.month, .padded 2, 1, 12⟩
def paddedDay : Numeral := ⟨.day, .padded 2, 1, 31⟩
def unpaddedDay : Numeral := ⟨.day, .unpadded, 1, 31⟩
def weekday : Numeral := ⟨.weekday, .padded 1, 1, 7⟩

/-! ## Tables -/

def time24 (name : String) (numerals : List Numeral) : Pattern :=
  ⟨name, ':', numerals, some .hours24, none⟩

/-- A pattern of the twelve-hour family. It reads the same texts as its twin. -/
def time12 (name : String) (numerals : List Numeral) (twin : String) : Pattern :=
  ⟨name, ':', numerals, some .hours12, some twin⟩

def date (name : String) (numerals : List Numeral) : Pattern :=
  ⟨name, '-', numerals, none, none⟩

/-- With seconds before without, minutes before the hour alone, padded before
unpadded, 24 hours before 12. -/
def times : List Pattern :=
  [time24 "HH:mm:ss" [paddedHour, minute, second],
   time12 "hh:mm:ss" [paddedHour, minute, second] "HH:mm:ss",
   time24 "H:mm:ss" [unpaddedHour, minute, second],
   time12 "h:mm:ss" [unpaddedHour, minute, second] "H:mm:ss",
   time24 "HH:mm" [paddedHour, minute],
   time12 "hh:mm" [paddedHour, minute] "HH:mm",
   time24 "H:mm" [unpaddedHour, minute],
   time12 "h:mm" [unpaddedHour, minute] "H:mm",
   time24 "HH" [paddedHour],
   time24 "H" [unpaddedHour]]

def yearMonthDay : Pattern := date "yyyy-MM-dd" [year, month, paddedDay]

def monthDay : Pattern := date "MM-dd" [month, paddedDay]

def dates : Granularity → List Pattern
  | .fullDateTime => [yearMonthDay, monthDay]
  | .dateOnly => [yearMonthDay]
  | .yearMonth => [date "yyyy-MM" [year, month]]
  | .monthDay => [monthDay]
  | .monthOnly => [date "MM" [month]]
  | .dayOfMonth => [date "dd" [paddedDay], date "d" [unpaddedDay]]
  | .weekdayOnly => [date "e" [weekday]]
  | .timeOnly => []

/-! ## First match -/

/-- The patterns tried on a text, in order, and what the last of them read. -/
structure Attempt where
  tried : List String
  captures : Option Captures
  deriving DecidableEq, Repr

/-- Tries patterns up to the first one that reads the text. -/
def firstMatch : List Pattern → Text → Attempt
  | [], _ => ⟨[], none⟩
  | p :: ps, t =>
    match p.read? t with
    | some c => ⟨[p.name], some c⟩
    | none =>
      let rest := firstMatch ps t
      ⟨p.name :: rest.tried, rest.captures⟩

theorem captures_firstMatch (ps : List Pattern) (t : Text) :
    (firstMatch ps t).captures = ps.findSome? (·.read? t) := by
  induction ps with
  | nil => rfl
  | cons p ps ih =>
    unfold firstMatch
    cases h : p.read? t <;> simp [h, ih]

/-- If none reads the text, all were tried. -/
theorem tried_firstMatch_of_none {ps : List Pattern} {t : Text}
    (h : (firstMatch ps t).captures = none) : (firstMatch ps t).tried = ps.map Pattern.name := by
  induction ps with
  | nil => rfl
  | cons p ps ih =>
    unfold firstMatch at h ⊢
    cases hp : p.read? t with
    | some c => simp [hp] at h
    | none =>
      simp only [hp] at h ⊢
      simp [ih h]

end Pattern
end Timex
