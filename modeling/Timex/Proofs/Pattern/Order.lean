import Timex.Proofs.Normalizer.Analysis

/-!
# The order of the tables

All patterns of a table that read a text read the same fields in it, so what is read does
not hang on the order in which they are tried. A redundant pattern has the numerals of an
earlier one: it never counts in the order of the table, and without it the same is read.
-/

namespace Timex

namespace Pattern

-- ---------------------------------------------------------------------------
-- Redundant patterns
-- ---------------------------------------------------------------------------

/-- The table without the patterns that read the same texts as an earlier one. -/
def withoutRedundant (ps : List Pattern) : List Pattern := ps.filter (·.redundantWith.isNone)

theorem mem_withoutRedundant {ps : List Pattern} {p : Pattern} :
    p ∈ withoutRedundant ps ↔ p ∈ ps ∧ p.redundantWith = none := by
  rw [withoutRedundant, List.mem_filter, Option.isNone_iff_eq_none]

theorem read?_eq_of_numerals_eq {p q : Pattern} (hs : q.separator = p.separator)
    (hn : q.numerals = p.numerals) (t : Text) : q.read? t = p.read? t := by
  rw [read?, read?, hs, hn]

/-- A redundant time pattern stands behind the one that it names, which has its numerals and
is not redundant itself. -/
theorem exists_twin_before : ∀ i : Fin times.length, times[i].redundantWith.isSome = true →
    ∃ j : Fin times.length, j < i ∧ some times[j].name = times[i].redundantWith ∧
      times[j].redundantWith = none ∧ times[j].separator = times[i].separator ∧
      times[j].numerals = times[i].numerals := by
  decide

theorem redundantWith_of_mem_dates {g : Granularity} {p : Pattern} (h : p ∈ dates g) :
    p.redundantWith = none := by
  have hs : ∀ p ∈ dates g, p.redundantWith = none := by
    cases g <;> decide
  exact hs p h

/-- Every text that a pattern of the table reads is read without the redundant ones. -/
def Dispensable (ps : List Pattern) : Prop :=
  ∀ p ∈ ps, ∃ q ∈ withoutRedundant ps, ∀ t, q.read? t = p.read? t

theorem dispensable_times : Dispensable times := by
  intro p hp
  obtain ⟨i, hi, rfl⟩ := List.mem_iff_getElem.mp hp
  cases hr : times[i].redundantWith with
  | none => exact ⟨times[i], mem_withoutRedundant.mpr ⟨hp, hr⟩, fun _ => rfl⟩
  | some name =>
    obtain ⟨j, -, -, hj, hs, hn⟩ :=
      exists_twin_before ⟨i, hi⟩ (Option.isSome_iff_exists.mpr ⟨name, hr⟩)
    exact ⟨times[j], mem_withoutRedundant.mpr ⟨List.getElem_mem _, hj⟩,
      read?_eq_of_numerals_eq hs hn⟩

theorem dispensable_dates (g : Granularity) : Dispensable (dates g) := fun p hp =>
  ⟨p, mem_withoutRedundant.mpr ⟨hp, redundantWith_of_mem_dates hp⟩, fun _ => rfl⟩

-- ---------------------------------------------------------------------------
-- Rearranged tables
-- ---------------------------------------------------------------------------

/-- A table in any order, with its redundant patterns or without them. -/
def Rearranges (qs ps : List Pattern) : Prop := qs.Perm ps ∨ qs.Perm (withoutRedundant ps)

namespace Rearranges

variable {qs ps : List Pattern} (h : Rearranges qs ps)
include h

theorem mem_of_mem {q : Pattern} (hq : q ∈ qs) : q ∈ ps := by
  rcases h with h | h
  · exact h.mem_iff.mp hq
  · exact (mem_withoutRedundant.mp (h.mem_iff.mp hq)).1

theorem exists_read?_eq (hps : Dispensable ps) {p : Pattern} (hp : p ∈ ps) :
    ∃ q ∈ qs, ∀ t, q.read? t = p.read? t := by
  rcases h with h | h
  · exact ⟨p, h.mem_iff.mpr hp, fun _ => rfl⟩
  · obtain ⟨q, hq, hr⟩ := hps p hp
    exact ⟨q, h.mem_iff.mpr hq, hr⟩

/-- Where the patterns of a table agree, its rearrangements read what it reads. -/
theorem findSome?_eq (hps : Dispensable ps) (hagree : ∀ p ∈ ps, ∀ q ∈ ps, p.Agrees q) (t : Text) :
    qs.findSome? (·.read? t) = ps.findSome? (·.read? t) := by
  have hagree' : ∀ p ∈ qs, ∀ q ∈ qs, p.Agrees q := fun p hp q hq =>
    hagree p (h.mem_of_mem hp) q (h.mem_of_mem hq)
  refine Option.ext fun c => ?_
  rw [findSome?_read?_eq_some_iff hagree', findSome?_read?_eq_some_iff hagree]
  constructor
  · rintro ⟨q, hq, hr⟩
    exact ⟨q, h.mem_of_mem hq, hr⟩
  · rintro ⟨p, hp, hr⟩
    obtain ⟨q, hq, he⟩ := h.exists_read?_eq hps hp
    exact ⟨q, hq, (he t).trans hr⟩

end Rearranges

-- ---------------------------------------------------------------------------
-- The pattern that counts
-- ---------------------------------------------------------------------------

/-- The first pattern of a table that reads a text. -/
def firstReader? (ps : List Pattern) (t : Text) : Option Pattern :=
  ps.find? fun p => (p.read? t).isSome

/-- The first reader is the last pattern that is tried, and what it reads is what counts. -/
theorem firstMatch_of_firstReader? {ps : List Pattern} {t : Text} {p : Pattern}
    (h : firstReader? ps t = some p) :
    (firstMatch ps t).captures = p.read? t ∧ (firstMatch ps t).tried.getLast? = some p.name := by
  induction ps with
  | nil => simp [firstReader?] at h
  | cons q ps ih =>
    rw [firstReader?, List.find?_cons] at h
    rw [firstMatch]
    cases hq : q.read? t with
    | some c =>
      obtain rfl : q = p := by simpa [hq] using h
      exact ⟨hq.symm, rfl⟩
    | none =>
      have hps : firstReader? ps t = some p := by
        rw [firstReader?]
        simpa [hq] using h
      obtain ⟨hcaptures, hlast⟩ := ih hps
      refine ⟨hcaptures, ?_⟩
      rw [List.getLast?_cons, hlast]
      rfl

theorem redundantWith_of_firstReader? {t : Text} {p : Pattern}
    (h : firstReader? times t = some p) : p.redundantWith = none := by
  obtain ⟨hread, i, hi, rfl, hbefore⟩ := List.find?_eq_some_iff_getElem.mp h
  cases hr : times[i].redundantWith with
  | none => rfl
  | some name =>
    -- The twin stands in front and reads the text as well.
    obtain ⟨⟨j, hj'⟩, hj, -, -, hs, hn⟩ :=
      exists_twin_before ⟨i, hi⟩ (Option.isSome_iff_exists.mpr ⟨name, hr⟩)
    have hno := hbefore j hj
    have he : times[j].read? t = times[i].read? t := read?_eq_of_numerals_eq hs hn t
    rw [he, hread] at hno
    exact absurd hno Bool.false_ne_true

end Pattern

-- ---------------------------------------------------------------------------
-- Readings
-- ---------------------------------------------------------------------------

open Pattern

theorem Temporal.readWith_rearranged {times' : List Pattern}
    {dates' : Granularity → List Pattern} (ht : Rearranges times' times)
    (hd : ∀ g, Rearranges (dates' g) (dates g)) {t : Text} {g : Granularity} {synthesize : Bool}
    {v : Temporal} :
    readWith times' dates' t g synthesize = .ok v ↔ read t g synthesize = .ok v := by
  have hdate : ∀ part, partCaptures? (dates' g) part = partCaptures? (dates g) part := by
    intro part
    cases part with
    | none => rfl
    | some u => exact (hd g).findSome?_eq (dispensable_dates g) (agrees_of_mem_dates g) u
  have htime : ∀ part, partCaptures? times' part = partCaptures? times part := by
    intro part
    cases part with
    | none => rfl
    | some u => exact ht.findSome?_eq dispensable_times agrees_of_mem_times u
  rw [read, readWith_eq_ok_iff, readWith_eq_ok_iff]
  simp only [hdate, htime]

/-- Two patterns of one table read the same in every text that both of them read. So the
tables in any order, and without their redundant patterns, accept the same texts and give
the same values. In the order of the tables no redundant pattern ever counts. -/
theorem order_of_tables :
    (∀ p ∈ times, ∀ q ∈ times, ∀ s c d, p.read? s = some c → q.read? s = some d → c = d) ∧
    (∀ g, ∀ p ∈ dates g, ∀ q ∈ dates g, ∀ s c d,
      p.read? s = some c → q.read? s = some d → c = d) ∧
    (∀ times' dates', Rearranges times' times → (∀ g, Rearranges (dates' g) (dates g)) →
      ∀ t g synthesize v,
        Temporal.readWith times' dates' t g synthesize = .ok v ↔ parse t g synthesize = .ok v) ∧
    ∀ ps, (ps = times ∨ ∃ g, ps = dates g) → ∀ s p, firstReader? ps s = some p →
      (firstMatch ps s).captures = p.read? s ∧ (firstMatch ps s).tried.getLast? = some p.name ∧
        p.redundantWith = none := by
  refine ⟨?_, ?_, ?_, ?_⟩
  · intro p hp q hq s c d hc hd
    exact (agrees_of_mem_times p hp q hq).captures_eq hc hd
  · intro g p hp q hq s c d hc hd
    exact (agrees_of_mem_dates g p hp q hq).captures_eq hc hd
  · intro times' dates' ht hd t g synthesize v
    rw [parse_eq_ok_iff, Temporal.readWith_rearranged ht hd]
  · rintro ps hps s p h
    obtain ⟨hcaptures, hlast⟩ := firstMatch_of_firstReader? h
    refine ⟨hcaptures, hlast, ?_⟩
    rcases hps with rfl | ⟨g, rfl⟩
    · exact redundantWith_of_firstReader? h
    · exact redundantWith_of_mem_dates (List.mem_of_find?_eq_some h)

theorem half_past_two_in_reversed_tables :
    Rearranges times.reverse times ∧
      (∀ g, Rearranges (withoutRedundant (dates g)) (dates g)) ∧
      Temporal.readWith times.reverse (fun g => withoutRedundant (dates g))
          "2018-10-28T14:30".toList .fullDateTime true =
        .ok ⟨some 2018, some 10, some 28, some 7, some 14, some 30, none, true⟩ ∧
      ∃ p, firstReader? times "14:30".toList = some p ∧ p.redundantWith = none ∧
        ∀ q ∈ times, ∀ c d, p.read? "14:30".toList = some c → q.read? "14:30".toList = some d →
          c = d := by
  have ht : Rearranges times.reverse times := .inl (List.reverse_perm times)
  have hd : ∀ g, Rearranges (withoutRedundant (dates g)) (dates g) := fun g => .inr (.refl _)
  have hp : firstReader? times "14:30".toList = some (time24 "HH:mm" [paddedHour, minute]) := rfl
  obtain ⟨hagree, -, hread, hfirst⟩ := order_of_tables
  exact ⟨ht, hd, (hread _ _ ht hd _ _ _ _).mpr rfl, _, hp, (hfirst _ (.inl rfl) _ _ hp).2.2,
    fun q hq => hagree _ (by decide) q hq _⟩

end Timex
