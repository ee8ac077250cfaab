import Timex.Proofs.Normalizer.Analysis

/-!
# Shapes

The shape of a text has a zero in place of every digit. Texts of one length that differ in
digits alone have one shape, and nothing but the shape has a part in a class: every step of a
classification gives the same answer for a text and for its shape.
-/

namespace Timex

namespace Text

/-- A zero in place of a digit. -/
def zeroed (c : Char) : Char := if c.isDigit then '0' else c

def shape (t : Text) : Text := t.map zeroed

/-- Texts of one length that differ only where both have a digit. -/
structure SameShape (t u : Text) : Prop where
  length_eq : t.length = u.length
  isDigit_of_ne : ∀ i (ht : i < t.length) (hu : i < u.length),
    t[i] ≠ u[i] → t[i].isDigit = true ∧ u[i].isDigit = true

-- ---------------------------------------------------------------------------
-- Characters
-- ---------------------------------------------------------------------------

@[simp] theorem isDigit_zeroed (c : Char) : (zeroed c).isDigit = c.isDigit := by
  unfold zeroed
  split
  · rename_i h
    rw [h]
    rfl
  · rfl

theorem isDigit_of_zeroed_eq {c d : Char} (h : zeroed c = zeroed d) (hne : c ≠ d) :
    c.isDigit = true ∧ d.isDigit = true := by
  have hd : c.isDigit = d.isDigit := by rw [← isDigit_zeroed c, h, isDigit_zeroed d]
  cases hc : c.isDigit with
  | true => exact ⟨rfl, hd ▸ hc⟩
  | false =>
    have hcd : c = d := by simpa [zeroed, hc, ← hd] using h
    exact absurd hcd hne

section
variable {sep : Char} (hsep : sep.isDigit = false)
include hsep

theorem zeroed_eq_iff {c : Char} : zeroed c = sep ↔ c = sep := by
  unfold zeroed
  split
  · rename_i h
    refine iff_of_false ?_ ?_
    · rintro rfl
      simp at hsep
    · rintro rfl
      simp [h] at hsep
  · exact Iff.rfl

theorem mem_shape_iff {t : Text} : sep ∈ shape t ↔ sep ∈ t := by
  induction t with
  | nil => exact Iff.rfl
  | cons c cs ih =>
    have hc : sep = zeroed c ↔ sep = c := by rw [eq_comm, zeroed_eq_iff hsep, eq_comm]
    simp only [shape, List.map_cons, List.mem_cons, hc] at ih ⊢
    rw [ih]

theorem contains_shape (t : Text) : (shape t).contains sep = t.contains sep := by
  rw [Bool.eq_iff_iff, List.contains_iff_mem, List.contains_iff_mem, mem_shape_iff hsep]

-- ---------------------------------------------------------------------------
-- Groups and cuts
-- ---------------------------------------------------------------------------

theorem split_shape (t : Text) : split sep (shape t) = (split sep t).map shape := by
  induction t with
  | nil => rfl
  | cons c cs ih =>
    simp only [shape, List.map_cons] at ih ⊢
    rw [split, split]
    simp only [zeroed_eq_iff hsep, ih]
    by_cases hc : c = sep
    · rw [if_pos hc, if_pos hc]
      rfl
    · rw [if_neg hc, if_neg hc]
      cases split sep cs <;> rfl

theorem cut_shape (t : Text) :
    cut sep (shape t) = (shape (cut sep t).1, (cut sep t).2.map shape) := by
  induction t with
  | nil => rfl
  | cons c cs ih =>
    simp only [shape, List.map_cons] at ih ⊢
    rw [cut, cut]
    simp only [zeroed_eq_iff hsep, ih]
    by_cases hc : c = sep
    · rw [if_pos hc, if_pos hc]
      rfl
    · rw [if_neg hc, if_neg hc]
      rfl

end

@[simp] theorem length_shape (t : Text) : (shape t).length = t.length := List.length_map _

@[simp] theorem isDigits_shape (t : Text) : isDigits (shape t) = isDigits t := by
  have hall : (t.map zeroed).all Char.isDigit = t.all Char.isDigit := by
    rw [List.all_map]
    exact List.all_congr rfl fun c => isDigit_zeroed c
  have hempty : (t.map zeroed).isEmpty = t.isEmpty := List.isEmpty_map
  rw [isDigits, isDigits, shape, hall, hempty]

theorem sameShape_iff {t u : Text} : SameShape t u ↔ shape t = shape u := by
  constructor
  · intro h
    refine List.ext_getElem (by simpa using h.length_eq) fun i hi hi' => ?_
    rw [length_shape] at hi hi'
    simp only [shape, List.getElem_map]
    by_cases hne : t[i] = u[i]
    · rw [hne]
    · obtain ⟨ht, hu⟩ := h.isDigit_of_ne i hi hi' hne
      rw [zeroed, zeroed, if_pos ht, if_pos hu]
  · intro h
    refine ⟨by simpa using congrArg List.length h, fun i hi hi' hne => ?_⟩
    have hz : (shape t)[i]? = (shape u)[i]? := by rw [h]
    simp only [shape, List.getElem?_map, List.getElem?_eq_getElem hi, List.getElem?_eq_getElem hi',
      Option.map_some, Option.some.injEq] at hz
    exact isDigit_of_zeroed_eq hz hne

end Text

-- ---------------------------------------------------------------------------
-- Classes
-- ---------------------------------------------------------------------------

namespace Granularity

theorem hasWildcard_shape (t : Text) : hasWildcard t.shape = hasWildcard t := by
  rw [hasWildcard, hasWildcard, Text.contains_shape rfl, Text.contains_shape rfl]

theorem hasTimeSign_shape (t : Text) : hasTimeSign t.shape = hasTimeSign t := by
  rw [hasTimeSign, hasTimeSign, Text.contains_shape rfl, Text.contains_shape rfl]

theorem dateGroups_shape (t : Text) : dateGroups t.shape = (dateGroups t).map Text.shape := by
  rw [dateGroups, dateGroups, Text.cut_shape rfl, Text.split_shape rfl]

theorem all_shape (t : Text) :
    (t.shape.all fun d => d.isDigit || d == ':') = t.all fun d => d.isDigit || d == ':' := by
  rw [Text.shape, List.all_map]
  refine List.all_congr rfl fun c => ?_
  have hcolon : (Text.zeroed c == ':') = (c == ':') := by
    rw [Bool.eq_iff_iff, beq_iff_eq, beq_iff_eq, Text.zeroed_eq_iff rfl]
  simp only [Function.comp_apply, Text.isDigit_zeroed, hcolon]

theorem isTimeShape_shape (t : Text) : isTimeShape t.shape = isTimeShape t := by
  have hcons : ∀ c cs, c ≠ 'T' → isTimeShape (Text.shape (c :: cs)) = isTimeShape (c :: cs) := by
    intro c cs hc
    have hz : Text.zeroed c ≠ 'T' := fun h => hc ((Text.zeroed_eq_iff rfl).mp h)
    rw [isTimeShape_cons hc, Text.shape, List.map_cons, isTimeShape_cons hz, Text.isDigit_zeroed,
      ← Text.shape, all_shape]
  cases t with
  | nil => rfl
  | cons c cs =>
    by_cases hc : c = 'T'
    · -- Behind the designator a time begins with its hour.
      subst hc
      cases cs with
      | nil => rfl
      | cons d ds =>
        show ((Text.zeroed d).isDigit && (Text.shape ds).all fun d => d.isDigit || d == ':') =
          (d.isDigit && ds.all fun d => d.isDigit || d == ':')
        rw [Text.isDigit_zeroed, all_shape]
    · exact hcons c cs hc

theorem ofGroups?_shape (m : Markers) (timed : Bool) (gs : List Text) :
    ofGroups? m timed (gs.map Text.shape) = ofGroups? m timed gs := by
  have hall : (gs.map Text.shape).all Text.isDigits = gs.all Text.isDigits := by
    rw [List.all_map]
    exact List.all_congr rfl fun g => Text.isDigits_shape g
  unfold ofGroups?
  rw [hall]
  -- The number of groups and the length of the first one are those of the shapes.
  rcases gs with _ | ⟨a, _ | ⟨b, _ | ⟨c, _ | ⟨d, gs⟩⟩⟩⟩
  · rfl
  · rfl
  · simp only [List.map_cons, List.map_nil, Text.length_shape]
  · rfl
  · rfl

theorem ofSingle?_shape (m : Markers) (t : Text) : ofSingle? m t.shape = ofSingle? m t := by
  rw [ofSingle?, ofSingle?, Text.isDigits_shape, Text.length_shape, hasTimeSign_shape,
    isTimeShape_shape]

/-- A class is read off the shape. -/
theorem classify?_shape (t : Text) (m : Markers) : classify? t.shape m = classify? t m := by
  have hempty : t.shape.isEmpty = t.isEmpty := List.isEmpty_map
  rw [classify?, classify?, hempty, hasWildcard_shape, Text.contains_shape rfl, hasTimeSign_shape,
    dateGroups_shape, ofGroups?_shape, ofSingle?_shape]

end Granularity

/-- Texts of one shape have one class under all markers, or neither of them has one. -/
theorem classify_of_sameShape {t u : Text} (h : t.SameShape u) (m : Markers) :
    (∃ g, classify ⟨t, m⟩ = .ok g ∧ classify ⟨u, m⟩ = .ok g) ∨
      ∃ e f, classify ⟨t, m⟩ = .error e ∧ classify ⟨u, m⟩ = .error f ∧
        e.kind = .unrecognizedGranularity ∧ f.kind = .unrecognizedGranularity := by
  have hclass : Granularity.classify? t m = Granularity.classify? u m := by
    rw [← Granularity.classify?_shape t m, Text.sameShape_iff.mp h, Granularity.classify?_shape u m]
  cases ht : classify ⟨t, m⟩ with
  | ok g =>
    have hu : classify ⟨u, m⟩ = .ok g := by
      rw [classify_eq_ok_iff, ← hclass]
      exact classify_eq_ok_iff.mp ht
    exact .inl ⟨g, rfl, hu⟩
  | error e =>
    cases hu : classify ⟨u, m⟩ with
    | ok g =>
      have htg : classify ⟨t, m⟩ = .ok g := by
        rw [classify_eq_ok_iff, hclass]
        exact classify_eq_ok_iff.mp hu
      rw [ht] at htg
      simp at htg
    | error f => exact .inr ⟨e, f, rfl, rfl, kind_of_classify ht, kind_of_classify hu⟩

theorem impossible_date_has_class :
    Text.SameShape "2018-10-28".toList "0000-99-77".toList ∧
      ∃ g, classify ⟨"2018-10-28".toList, Markers.none⟩ = .ok g ∧
        classify ⟨"0000-99-77".toList, Markers.none⟩ = .ok g := by
  have h : Text.SameShape "2018-10-28".toList "0000-99-77".toList := Text.sameShape_iff.mpr (by decide)
  rcases classify_of_sameShape h Markers.none with hg | ⟨e, f, he, -⟩
  · exact ⟨h, hg⟩
  · have hok : classify ⟨"2018-10-28".toList, Markers.none⟩ = .ok .dateOnly := rfl
    rw [hok] at he
    simp at he

end Timex
