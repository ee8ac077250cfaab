import Timex.Proofs.Temporal.Reading

/-!
# Parts of dates

The date part of a token is the numbers of one pattern, written by it. The date tables
read the parts that are dates and nothing else, and the value read is that of the part.
-/

namespace Timex

open Token (MonthDay YearMonth shortNumber)

namespace Pattern

def yearMonth : Pattern := date "yyyy-MM" [year, month]

def monthAlone : Pattern := date "MM" [month]

def dayAlone (padded : Bool) : Pattern :=
  if padded then date "dd" [paddedDay] else date "d" [unpaddedDay]

def weekdayAlone : Pattern := date "e" [weekday]

end Pattern

/-- The part of a token in front of its time, with the marks of the unknown taken out. -/
inductive DatePart where
  | date (d : Date)
  | yearMonth (ym : YearMonth)
  | monthDay (md : MonthDay)
  /-- January is 0. -/
  | month (m : Fin 12)
  /-- The first day is 0. -/
  | dayOfMonth (padded : Bool) (d : Fin 31)
  /-- Monday is 0. -/
  | weekday (e : Fin 7)

namespace DatePart

def pattern : DatePart → Pattern
  | .date _ => Pattern.yearMonthDay
  | .yearMonth _ => Pattern.yearMonth
  | .monthDay _ => Pattern.monthDay
  | .month _ => Pattern.monthAlone
  | .dayOfMonth padded _ => Pattern.dayAlone padded
  | .weekday _ => Pattern.weekdayAlone

def numbers : DatePart → List Nat
  | .date d => [d.year, d.month, d.day]
  | .yearMonth ym => [ym.year, ym.month]
  | .monthDay md => [md.month, md.day]
  | .month m => [m + 1]
  | .dayOfMonth _ d => [d + 1]
  | .weekday e => [e + 1]

def granularity : DatePart → Granularity
  | .date _ => .dateOnly
  | .yearMonth _ => .yearMonth
  | .monthDay _ => .monthDay
  | .month _ => .monthOnly
  | .dayOfMonth .. => .dayOfMonth
  | .weekday _ => .weekdayOnly

def text (p : DatePart) : Text := p.pattern.write p.numbers

def captures (p : DatePart) : Captures := p.pattern.capturesOf p.numbers

def value : DatePart → Temporal
  | .date d => Token.Spelling.ofDate d
  | .yearMonth ym =>
    { Temporal.empty with year := some (ym.year : Int), month := some (ym.month : Int) }
  | .monthDay md =>
    { Temporal.empty with month := some (md.month : Int), day := some (md.day : Int) }
  | .month m => { Temporal.empty with month := some ((m : Nat) + 1 : Int) }
  | .dayOfMonth _ d => { Temporal.empty with day := some ((d : Nat) + 1 : Int) }
  | .weekday e => { Temporal.empty with weekday := some ((e : Nat) + 1 : Int) }

-- ---------------------------------------------------------------------------
-- Texts
-- ---------------------------------------------------------------------------

@[simp] theorem text_date (d : Date) : (date d).text = d.iso := by
  simp [text, pattern, numbers, Pattern.write, Pattern.yearMonthDay, Pattern.date, Text.join,
    Date.iso, Numeral.spell, Width.spell, Pattern.year, Pattern.month, Pattern.paddedDay]

@[simp] theorem text_yearMonth (ym : YearMonth) :
    (yearMonth ym).text = Text.zeroPadded 4 ym.year ++ '-' :: Text.zeroPadded 2 ym.month := rfl

@[simp] theorem text_monthDay (md : MonthDay) :
    (monthDay md).text = Text.zeroPadded 2 md.month ++ '-' :: Text.zeroPadded 2 md.day := rfl

@[simp] theorem text_month (m : Fin 12) : (month m).text = Text.zeroPadded 2 (m + 1) := rfl

@[simp] theorem text_dayOfMonth (padded : Bool) (d : Fin 31) :
    (dayOfMonth padded d).text = shortNumber padded (d + 1) := by
  cases padded <;> rfl

@[simp] theorem text_weekday (e : Fin 7) : (weekday e).text = Text.decimal (e + 1) := by
  have h : (weekday e).text = Text.zeroPadded 1 (e + 1) := rfl
  have hl := Text.length_decimal_pos (e + 1)
  rw [h, Text.zeroPadded_eq, Nat.sub_eq_zero_of_le hl]
  rfl

-- ---------------------------------------------------------------------------
-- Readings
-- ---------------------------------------------------------------------------

theorem pattern_mem_dates (p : DatePart) : p.pattern ∈ Pattern.dates p.granularity := by
  cases p with
  | dayOfMonth padded =>
    cases padded <;> simp [granularity, pattern, Pattern.dates, Pattern.dayAlone]
  | _ => exact List.mem_singleton.mpr rfl

theorem admits_numbers (p : DatePart) :
    List.Forall₂ Numeral.Admits p.pattern.numerals p.numbers := by
  have hday : ∀ {y m k}, 1 ≤ k ∧ k ≤ Gregorian.monthLength y m → 1 ≤ k ∧ k ≤ 31 := fun h =>
    ⟨h.1, Nat.le_trans h.2 (Gregorian.monthLength_bounds _ _).2⟩
  have hpos : ∀ n, 1 ≤ n + 1 := fun n => Nat.succ_le_succ n.zero_le
  cases p with
  | date d => exact .cons d.year_bounds (.cons d.month_bounds (.cons (hday d.day_bounds) .nil))
  | yearMonth ym => exact .cons ym.year_bounds (.cons ym.month_bounds .nil)
  | monthDay md => exact .cons md.month_bounds (.cons (hday md.day_bounds) .nil)
  | month m => exact .cons ⟨hpos m, m.isLt⟩ .nil
  | dayOfMonth padded d => cases padded <;> exact .cons ⟨hpos d, d.isLt⟩ .nil
  | weekday e => exact .cons ⟨hpos e, e.isLt⟩ .nil

theorem read?_text (p : DatePart) : p.pattern.read? p.text = some p.captures := by
  have hp := Pattern.lawful_of_mem_dates p.pattern_mem_dates
  exact (Pattern.read?_eq_some_iff hp).mpr ⟨p.numbers, p.admits_numbers, rfl, rfl⟩

theorem ofCaptures_captures (p : DatePart) :
    Temporal.ofCaptures p.captures false = .ok p.value := by
  cases p with
  | date d =>
    have hd := d.day_bounds.2
    simp [captures, pattern, numbers, Pattern.capturesOf, Pattern.yearMonthDay, Pattern.date,
      Pattern.year, Pattern.month, Pattern.paddedDay, Temporal.ofCaptures, hd, value,
      Token.Spelling.ofDate, Temporal.empty, Date.isoWeekday]
  | yearMonth ym =>
    simp [captures, pattern, numbers, Pattern.capturesOf, Pattern.yearMonth, Pattern.date,
      Pattern.year, Pattern.month, Temporal.ofCaptures, value, Temporal.empty]
  | monthDay md =>
    have hd := md.day_bounds.2
    simp [captures, pattern, numbers, Pattern.capturesOf, Pattern.monthDay, Pattern.date,
      Pattern.month, Pattern.paddedDay, Temporal.ofCaptures, Temporal.leapReference, hd, value,
      Temporal.empty]
  | month m =>
    simp [captures, pattern, numbers, Pattern.capturesOf, Pattern.monthAlone, Pattern.date,
      Pattern.month, Temporal.ofCaptures, value, Temporal.empty]
  | dayOfMonth padded d =>
    cases padded <;>
      simp [captures, pattern, numbers, Pattern.capturesOf, Pattern.dayAlone, Pattern.date,
        Pattern.paddedDay, Pattern.unpaddedDay, Temporal.ofCaptures, value, Temporal.empty]
  | weekday e =>
    simp [captures, pattern, numbers, Pattern.capturesOf, Pattern.weekdayAlone, Pattern.date,
      Pattern.weekday, Temporal.ofCaptures, value, Temporal.empty]

/-- Numbers within the bounds of a date pattern that are not refused are those of a part. -/
theorem exists_numbers_eq {g : Granularity} {q : Pattern} {ks : List Nat} {w : Temporal}
    (hq : q ∈ Pattern.dates g) (hks : List.Forall₂ Numeral.Admits q.numerals ks)
    (hw : Temporal.ofCaptures (q.capturesOf ks) false = .ok w) :
    ∃ p : DatePart, p.pattern = q ∧ p.numbers = ks := by
  have hcases : ∀ q ∈ Pattern.dates g, q = Pattern.yearMonthDay ∨ q = Pattern.yearMonth ∨
      q = Pattern.monthDay ∨ q = Pattern.monthAlone ∨ (∃ padded, q = Pattern.dayAlone padded) ∨
      q = Pattern.weekdayAlone := by
    cases g <;> decide
  have hfin : ∀ {n k : Nat}, 1 ≤ k ∧ k ≤ n → ∃ i : Fin n, (i : Nat) + 1 = k := fun h =>
    ⟨⟨_, Nat.sub_one_lt_of_le h.1 h.2⟩, Nat.sub_add_cancel h.1⟩
  rcases hcases q hq with rfl | rfl | rfl | rfl | ⟨padded, rfl⟩ | rfl
  · obtain _ | ⟨hy, _ | ⟨hm, _ | ⟨hd, _ | _⟩⟩⟩ := hks
    rename_i y m d
    by_cases hl : Gregorian.monthLength y m < d
    · simp [Pattern.capturesOf, Pattern.yearMonthDay, Pattern.date, Pattern.year, Pattern.month,
        Pattern.paddedDay, Temporal.ofCaptures, hl] at hw
    · exact ⟨.date ⟨y, m, d, hy, hm, hd.1, Nat.le_of_not_lt hl⟩, rfl, rfl⟩
  · obtain _ | ⟨hy, _ | ⟨hm, _ | _⟩⟩ := hks
    exact ⟨.yearMonth ⟨_, _, hy, hm⟩, rfl, rfl⟩
  · obtain _ | ⟨hm, _ | ⟨hd, _ | _⟩⟩ := hks
    rename_i m d
    by_cases hl : Gregorian.monthLength Temporal.leapReference m < d
    · simp [Pattern.capturesOf, Pattern.monthDay, Pattern.date, Pattern.month, Pattern.paddedDay,
        Temporal.ofCaptures, hl] at hw
    · exact ⟨.monthDay ⟨m, d, hm, hd.1, Nat.le_of_not_lt hl⟩, rfl, rfl⟩
  · obtain _ | ⟨hm, _ | _⟩ := hks
    obtain ⟨m, rfl⟩ := hfin hm
    exact ⟨.month m, rfl, rfl⟩
  · cases padded <;>
      obtain _ | ⟨hd, _ | _⟩ := hks <;>
      obtain ⟨d, rfl⟩ := hfin hd
    · exact ⟨.dayOfMonth false d, rfl, rfl⟩
    · exact ⟨.dayOfMonth true d, rfl, rfl⟩
  · obtain _ | ⟨he, _ | _⟩ := hks
    obtain ⟨e, rfl⟩ := hfin he
    exact ⟨.weekday e, rfl, rfl⟩

/-- The date tables read the parts of dates and nothing else. -/
theorem exists_captures_iff {g : Granularity} {t : Text} {w : Temporal} :
    (∃ c, (Pattern.dates g).findSome? (·.read? t) = some c ∧ Temporal.ofCaptures c false = .ok w) ↔
      ∃ p : DatePart, p.pattern ∈ Pattern.dates g ∧ p.text = t ∧ p.value = w := by
  constructor
  · rintro ⟨c, hc, hw⟩
    obtain ⟨q, hq, hr⟩ :=
      (Pattern.findSome?_read?_eq_some_iff (Pattern.agrees_of_mem_dates g)).mp hc
    obtain ⟨ks, hks, rfl, rfl⟩ :=
      (Pattern.read?_eq_some_iff (Pattern.lawful_of_mem_dates hq)).mp hr
    obtain ⟨p, rfl, rfl⟩ := exists_numbers_eq hq hks hw
    exact ⟨p, hq, rfl, Except.ok.inj (p.ofCaptures_captures.symm.trans hw)⟩
  · rintro ⟨p, hp, rfl, rfl⟩
    have hc := (Pattern.findSome?_read?_eq_some_iff (Pattern.agrees_of_mem_dates g)).mpr
      ⟨p.pattern, hp, p.read?_text⟩
    exact ⟨p.captures, hc, p.ofCaptures_captures⟩

end DatePart
end Timex
