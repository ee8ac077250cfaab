import Mathlib.Data.List.Forall2
import Timex.Pattern
import Timex.Proofs.Text.Decimal
import Timex.Proofs.Text.Split

/-!
# Patterns as writers

A pattern can also write: it puts one number into each of its numerals. Reading accepts
exactly what writing gives for numbers within the bounds, so a text has one reading under
a pattern and the numbers read are the numbers written.
-/

namespace Timex

def Width.spell : Width → Nat → Text
  | .padded digits, k => Text.zeroPadded digits k
  | .unpadded, k => Text.decimal k

namespace Numeral

def spell (n : Numeral) (k : Nat) : Text := n.width.spell k

def Admits (n : Numeral) (k : Nat) : Prop := n.least ≤ k ∧ k ≤ n.greatest

/-- The width has room for every number within the bounds. -/
def Roomy (n : Numeral) : Prop :=
  match n.width with
  | .padded digits => 0 < digits ∧ n.greatest < 10 ^ digits
  | .unpadded => True

instance (n : Numeral) : Decidable n.Roomy := by
  unfold Roomy
  split <;> infer_instance

theorem spell_padded {n : Numeral} {digits : Nat} (h : n.width = .padded digits) (k : Nat) :
    n.spell k = Text.zeroPadded digits k := by
  rw [spell, h]
  rfl

theorem spell_unpadded {n : Numeral} (h : n.width = .unpadded) (k : Nat) :
    n.spell k = Text.decimal k := by
  rw [spell, h]
  rfl

theorem isDigits_spell (n : Numeral) (k : Nat) : Text.isDigits (n.spell k) = true := by
  cases h : n.width with
  | padded digits =>
    rw [spell_padded h]
    exact Text.isDigits_zeroPadded digits k
  | unpadded =>
    rw [spell_unpadded h]
    exact Text.isDigits_decimal k

@[simp] theorem toNumber_spell (n : Numeral) (k : Nat) : Text.toNumber (n.spell k) = k := by
  cases h : n.width with
  | padded digits => rw [spell_padded h, Text.toNumber_zeroPadded]
  | unpadded => rw [spell_unpadded h, Text.toNumber_decimal]

theorem fits_spell {n : Numeral} {k : Nat} (hn : n.Roomy) (hk : n.Admits k) :
    fits n.width (n.spell k) = true := by
  cases h : n.width with
  | padded digits =>
    simp only [Roomy, h] at hn
    have hl := Text.length_zeroPadded_of_lt hn.1 (Nat.lt_of_le_of_lt hk.2 hn.2)
    simp [spell_padded h, fits, hl]
  | unpadded =>
    simp only [spell_unpadded h, fits, Bool.or_eq_true, beq_iff_eq, bne_iff_ne]
    rcases Nat.eq_zero_or_pos k with rfl | hp
    · exact .inl rfl
    · exact .inr (Text.head?_decimal hp)

theorem exists_of_mem_zipWith {ns : List Numeral} {ks : List Nat} {g : Text}
    (h : g ∈ List.zipWith spell ns ks) : ∃ n k, spell n k = g := by
  obtain ⟨i, hi, rfl⟩ := List.mem_iff_getElem.mp h
  exact ⟨_, _, List.getElem_zipWith.symm⟩

/-- A numeral accepts the digits of the numbers within its bounds and nothing else. -/
theorem accepts_iff {n : Numeral} {t : Text} (hn : n.Roomy) :
    n.accepts t = true ↔ ∃ k, n.Admits k ∧ n.spell k = t := by
  constructor
  · intro h
    refine ⟨Text.toNumber t, toNumber_of_accepts h, ?_⟩
    have hd := isDigits_of_accepts h
    simp only [accepts, Bool.and_eq_true] at h
    have hf := h.1.1.2
    cases hw : n.width with
    | padded digits =>
      have he := Text.eq_zeroPadded hd
      simp only [hw, fits, beq_iff_eq] at hf
      rw [hf] at he
      rw [spell_padded hw, ← he]
    | unpadded =>
      simp only [hw, fits, Bool.or_eq_true, beq_iff_eq, bne_iff_ne] at hf
      rw [spell_unpadded hw, ← Text.eq_decimal hd hf]
  · rintro ⟨k, hk, rfl⟩
    simp [accepts, isDigits_spell, fits_spell hn hk, hk.1, hk.2]

end Numeral

namespace Pattern

def write (p : Pattern) (ks : List Nat) : Text :=
  Text.join p.separator (List.zipWith Numeral.spell p.numerals ks)

/-- What is read for each field where these numbers are written. -/
def capturesOf (p : Pattern) (ks : List Nat) : Captures :=
  List.zipWith (fun n k => (n.field, n.spell k)) p.numerals ks

/-- A pattern that can write and read back: groups of digits with something else between
them, and room for every number. -/
structure Lawful (p : Pattern) : Prop where
  separator : p.separator.isDigit = false
  numerals : p.numerals ≠ []
  roomy : ∀ n ∈ p.numerals, n.Roomy

theorem align?_eq_some_iff {ns : List Numeral} {gs : List Text} {c : Captures}
    (hn : ∀ n ∈ ns, n.Roomy) :
    align? ns gs = some c ↔ ∃ ks, List.Forall₂ Numeral.Admits ns ks ∧
      List.zipWith Numeral.spell ns ks = gs ∧
      List.zipWith (fun n k => (n.field, n.spell k)) ns ks = c := by
  induction ns generalizing gs c with
  | nil =>
    cases gs with
    | nil => simp [align?]
    | cons => simp [align?]
  | cons n ns ih =>
    have hr : n.Roomy := hn n (by simp)
    have hrs : ∀ n ∈ ns, n.Roomy := fun m hm => hn m (List.mem_cons_of_mem _ hm)
    constructor
    · intro h
      cases gs with
      | nil => simp [align?] at h
      | cons g gs =>
        simp only [align?] at h
        split at h
        · rename_i ha
          obtain ⟨k, hk, rfl⟩ := (Numeral.accepts_iff hr).mp ha
          obtain ⟨d, hd, rfl⟩ := Option.map_eq_some_iff.mp h
          obtain ⟨ks, hks, rfl, rfl⟩ := (ih hrs).mp hd
          exact ⟨k :: ks, .cons hk hks, rfl, rfl⟩
        · simp at h
    · rintro ⟨ks, hks, rfl, rfl⟩
      cases hks with
      | cons hk hks =>
        have ha := (Numeral.accepts_iff hr).mpr ⟨_, hk, rfl⟩
        have hd := (ih hrs).mpr ⟨_, hks, rfl, rfl⟩
        simp [align?, ha, hd]

/-- A pattern reads what it writes for numbers within its bounds and nothing else. -/
theorem read?_eq_some_iff {p : Pattern} {t : Text} {c : Captures} (hp : p.Lawful) :
    p.read? t = some c ↔
      ∃ ks, List.Forall₂ Numeral.Admits p.numerals ks ∧ p.write ks = t ∧ p.capturesOf ks = c := by
  unfold read?
  rw [align?_eq_some_iff hp.roomy]
  constructor
  · rintro ⟨ks, hks, hg, hc⟩
    exact ⟨ks, hks, by rw [write, hg, Text.join_split], hc⟩
  · rintro ⟨ks, hks, rfl, hc⟩
    refine ⟨ks, hks, ?_, hc⟩
    -- The groups hold digits alone, so the separators are where they were put.
    have hne : List.zipWith Numeral.spell p.numerals ks ≠ [] := by
      have hl := hks.length_eq
      have hpos := List.length_pos_iff.mpr hp.numerals
      rw [← List.length_pos_iff, List.length_zipWith]
      omega
    refine (Text.split_join hne ?_).symm
    intro g hg
    obtain ⟨n, k, rfl⟩ := Numeral.exists_of_mem_zipWith hg
    exact Text.not_mem_of_isDigits (Numeral.isDigits_spell n k) hp.separator

/-- The captures of a text depend on the fields of the pattern and on the text alone. -/
theorem captures_of_read? {p : Pattern} {t : Text} {c : Captures} (h : p.read? t = some c) :
    c = (p.numerals.map Numeral.field).zip (Text.split p.separator t) := by
  obtain ⟨hs, hf⟩ := align?_eq_some h
  exact List.zip_of_prod hf hs

-- ---------------------------------------------------------------------------
-- Tables
-- ---------------------------------------------------------------------------

/-- Two patterns that read the same fields in every text that both of them read. -/
def Agrees (p q : Pattern) : Prop :=
  p.separator = q.separator ∧
    (p.numerals.length = q.numerals.length →
      p.numerals.map Numeral.field = q.numerals.map Numeral.field)

instance (p q : Pattern) : Decidable (p.Agrees q) := by
  unfold Agrees
  infer_instance

theorem Agrees.captures_eq {p q : Pattern} (h : p.Agrees q) {t : Text} {c d : Captures}
    (hp : p.read? t = some c) (hq : q.read? t = some d) : c = d := by
  have hlen : p.numerals.length = q.numerals.length := by
    have h1 := congrArg List.length (align?_eq_some hp).1
    have h2 := congrArg List.length (align?_eq_some hp).2
    have h3 := congrArg List.length (align?_eq_some hq).1
    have h4 := congrArg List.length (align?_eq_some hq).2
    simp only [List.length_map, h.1] at h1 h2 h3 h4
    omega
  rw [captures_of_read? hp, captures_of_read? hq, h.1, h.2 hlen]

/-- Where all patterns of a table agree, their order does not matter. -/
theorem findSome?_read?_eq_some_iff {ps : List Pattern} (hps : ∀ p ∈ ps, ∀ q ∈ ps, p.Agrees q)
    {t : Text} {c : Captures} :
    ps.findSome? (·.read? t) = some c ↔ ∃ p ∈ ps, p.read? t = some c := by
  constructor
  · exact List.exists_of_findSome?_eq_some
  · rintro ⟨p, hp, hr⟩
    cases hf : ps.findSome? (·.read? t) with
    | none =>
      have hno := List.findSome?_eq_none_iff.mp hf p hp
      simp [hr] at hno
    | some d =>
      obtain ⟨q, hq, hd⟩ := List.exists_of_findSome?_eq_some hf
      rw [(hps q hq p hp).captures_eq hd hr]

end Pattern
end Timex
