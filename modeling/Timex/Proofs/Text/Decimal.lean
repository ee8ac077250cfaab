import Mathlib.Algebra.Group.Nat.Defs
import Mathlib.Data.List.Induction
import Timex.Text.Decimal

/-!
# Numerals read back

`toNumber` undoes both ways of writing a number. In the other direction a run of digits
is determined by its number and its length, so a run of a fixed length is the number
filled up with zeros, and a run without a leading zero is the number as it stands.
-/

namespace Timex.Text

-- ---------------------------------------------------------------------------
-- Digits
-- ---------------------------------------------------------------------------

theorem isDigits_iff {t : Text} : isDigits t = true ↔ t ≠ [] ∧ ∀ c ∈ t, c.isDigit = true := by
  simp [isDigits]

theorem toNat_of_isDigit {c : Char} (h : c.isDigit = true) : 48 ≤ c.toNat ∧ c.toNat ≤ 57 := by
  simpa [Char.isDigit, UInt32.le_iff_toNat_le] using h

theorem isDigit_of_mem {t : Text} {c : Char} (h : isDigits t = true) (hc : c ∈ t) :
    c.isDigit = true :=
  (isDigits_iff.mp h).2 c hc

theorem not_mem_of_isDigits {t : Text} {c : Char} (h : isDigits t = true)
    (hc : c.isDigit = false) : c ∉ t := by
  intro hm
  have hd := isDigit_of_mem h hm
  simp [hc] at hd

-- ---------------------------------------------------------------------------
-- Writing, then reading
-- ---------------------------------------------------------------------------

theorem isDigits_decimal (n : Nat) : isDigits (decimal n) = true := by
  refine isDigits_iff.mpr ⟨Nat.toDigits_ne_nil, ?_⟩
  intro c hc
  exact Nat.isDigit_of_mem_toDigits (by decide) (by decide) hc

theorem length_decimal_pos (n : Nat) : 0 < (decimal n).length := Nat.length_toDigits_pos

theorem length_decimal_le {n k : Nat} (hk : 0 < k) (h : n < 10 ^ k) : (decimal n).length ≤ k :=
  (Nat.length_toDigits_le_iff (by decide) hk).mpr h

@[simp] theorem toNumber_decimal (n : Nat) : toNumber (decimal n) = n :=
  Nat.ofDigitChars_ten_toDigits

theorem zeroPadded_eq (width n : Nat) :
    zeroPadded width n = List.replicate (width - (decimal n).length) '0' ++ decimal n := by
  simp [zeroPadded, List.leftpad]

theorem isDigits_zeroPadded (width n : Nat) : isDigits (zeroPadded width n) = true := by
  have hd := isDigits_iff.mp (isDigits_decimal n)
  rw [zeroPadded_eq]
  refine isDigits_iff.mpr ⟨by simp [hd.1], ?_⟩
  intro c hc
  rcases List.mem_append.mp hc with hz | hc
  · rw [(List.mem_replicate.mp hz).2]
    rfl
  · exact hd.2 c hc

@[simp] theorem toNumber_zeroPadded (width n : Nat) : toNumber (zeroPadded width n) = n := by
  have hz : Nat.ofDigitChars 10 (List.replicate (width - (decimal n).length) '0') 0 = 0 := by simp
  rw [zeroPadded_eq]
  show Nat.ofDigitChars 10 _ 0 = n
  rw [Nat.ofDigitChars_append, hz]
  exact toNumber_decimal n

@[simp] theorem zeroPadded_inj {width m n : Nat} :
    zeroPadded width m = zeroPadded width n ↔ m = n := by
  constructor
  · intro h
    simpa using congrArg toNumber h
  · rintro rfl
    rfl

theorem length_zeroPadded_of_lt {width n : Nat} (hw : 0 < width) (h : n < 10 ^ width) :
    (zeroPadded width n).length = width := by
  have hl := length_decimal_le hw h
  rw [length_zeroPadded]
  omega

/-- Four digits hold every year of the calendar. -/
theorem length_zeroPadded_year {year : Nat} (h : 1 ≤ year ∧ year ≤ 9999) :
    (zeroPadded 4 year).length = 4 :=
  length_zeroPadded_of_lt (by decide) (Nat.lt_succ_of_le h.2)

theorem length_zeroPadded_month {month : Nat} (h : 1 ≤ month ∧ month ≤ 12) :
    (zeroPadded 2 month).length = 2 :=
  length_zeroPadded_of_lt (by decide) (Nat.lt_of_le_of_lt h.2 (by decide))

-- ---------------------------------------------------------------------------
-- Reading, then writing
-- ---------------------------------------------------------------------------

theorem toNumber_lt {t : Text} (h : ∀ c ∈ t, c.isDigit = true) :
    toNumber t < 10 ^ t.length := by
  induction t using List.reverseRecOn with
  | nil => simp
  | append_singleton t c ih =>
    have hc := toNat_of_isDigit (h c (by simp))
    have hz : '0'.toNat = 48 := rfl
    have ht := ih fun d hd => h d (by simp [hd])
    rw [toNumber_append_singleton, List.length_append, List.length_singleton, Nat.pow_succ, hz]
    omega

/-- Two runs of digits of one length that spell one number are the same run. -/
theorem eq_of_toNumber_eq {t u : Text} (ht : ∀ c ∈ t, c.isDigit = true)
    (hu : ∀ c ∈ u, c.isDigit = true) (hl : t.length = u.length)
    (hn : toNumber t = toNumber u) : t = u := by
  -- Both runs lose their last digit, which is the remainder of the number by ten.
  induction t using List.reverseRecOn generalizing u with
  | nil => exact (List.length_eq_zero_iff.mp hl.symm).symm
  | append_singleton t c ih =>
    cases u using List.reverseRecOn with
    | nil => simp at hl
    | append_singleton u d =>
      have hc := toNat_of_isDigit (ht c (by simp))
      have hd := toNat_of_isDigit (hu d (by simp))
      have hz : '0'.toNat = 48 := rfl
      rw [toNumber_append_singleton, toNumber_append_singleton, hz] at hn
      have hcd : c = d := by
        apply Char.ext
        apply UInt32.toNat_inj.mp
        show c.toNat = d.toNat
        omega
      have htu : t = u := by
        refine ih (fun x hx => ht x (by simp [hx])) (fun x hx => hu x (by simp [hx])) ?_ (by omega)
        simpa using hl
      rw [hcd, htu]

/-- A run of digits is its number, filled up with zeros to its length. -/
theorem eq_zeroPadded {t : Text} (h : isDigits t = true) :
    t = zeroPadded t.length (toNumber t) := by
  obtain ⟨hne, hd⟩ := isDigits_iff.mp h
  have hp := isDigits_iff.mp (isDigits_zeroPadded t.length (toNumber t))
  refine eq_of_toNumber_eq hd hp.2 ?_ (by simp)
  exact (length_zeroPadded_of_lt (List.length_pos_iff.mpr hne) (toNumber_lt hd)).symm

/-- A run of digits without a leading zero is its number as it stands. -/
theorem eq_decimal {t : Text} (h : isDigits t = true)
    (hz : t.length = 1 ∨ t.head? ≠ some '0') : t = decimal (toNumber t) := by
  have hl := length_decimal_pos (toNumber t)
  have he := eq_zeroPadded h
  rw [zeroPadded_eq] at he
  cases hk : t.length - (decimal (toNumber t)).length with
  | zero => simpa [hk] using he
  | succ k =>
    rw [hk, List.replicate_succ, List.cons_append] at he
    rcases hz with h1 | h0
    · omega
    · exact absurd (by rw [he]; rfl) h0

/-- Only zero is written with a zero in front. -/
theorem head?_decimal {n : Nat} (h : 0 < n) : (decimal n).head? ≠ some '0' := by
  induction n using Nat.strongRecOn with
  | ind n ih =>
    have he : decimal n =
        if n < 10 then [n.digitChar] else decimal (n / 10) ++ [(n % 10).digitChar] :=
      Nat.toDigits_eq_if (by decide)
    rw [he]
    split
    · simp
      omega
    · have hd := ih (n / 10) (by omega) (by omega)
      have hne : decimal (n / 10) ≠ [] := Nat.toDigits_ne_nil
      rw [List.head?_append, Option.or_of_isSome (by simpa using hne)]
      exact hd

end Timex.Text
