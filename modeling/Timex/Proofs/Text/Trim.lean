import Mathlib.Data.List.DropRight
import Mathlib.Data.List.TakeWhile
import Timex.Text.Blank

/-!
# Trimming

Trimming takes a class of characters away from both ends. What is left has none of them at an
end, and it is the one such part of the text with nothing but the class around it.
-/

namespace Timex.Text

/-- Neither the first nor the last character is of the class. -/
structure Trimmed (p : Char → Bool) (t : Text) : Prop where
  head : ∀ c, t.head? = some c → p c = false
  last : ∀ c, t.getLast? = some c → p c = false

variable {p : Char → Bool} {t u w : Text}

theorem Trimmed.of_forall (h : ∀ c ∈ t, p c = false) : Trimmed p t where
  head c hc := h c (List.mem_of_head? hc)
  last c hc := h c (List.mem_of_getLast? hc)

theorem dropWhile_of_head (h : ∀ c, t.head? = some c → p c = false) : t.dropWhile p = t := by
  cases t with
  | nil => rfl
  | cons c t => rw [List.dropWhile_cons, h c rfl, if_neg Bool.false_ne_true]

theorem dropRightWhile_of_last (h : ∀ c, t.getLast? = some c → p c = false) :
    dropRightWhile p t = t := by
  rw [dropRightWhile, dropWhile_of_head, List.reverse_reverse]
  intro c hc
  exact h c (by rwa [List.head?_reverse] at hc)

theorem dropRightWhile_append (h : ∀ c ∈ w, p c = true) :
    dropRightWhile p (t ++ w) = dropRightWhile p t := by
  have hr : ∀ c ∈ w.reverse, p c = true := fun c hc => h c (List.mem_reverse.mp hc)
  rw [dropRightWhile, List.reverse_append, List.dropWhile_append_of_pos hr, dropRightWhile]

theorem exists_dropRightWhile (p : Char → Bool) (t : Text) :
    ∃ w, (∀ c ∈ w, p c = true) ∧ dropRightWhile p t ++ w = t :=
  ⟨t.rtakeWhile p, fun _ hc => List.mem_rtakeWhile_imp hc, List.rdropWhile_append_rtakeWhile⟩

theorem dropRightWhile_sublist (p : Char → Bool) (t : Text) : (dropRightWhile p t).Sublist t :=
  (List.rdropWhile_prefix p t).sublist

/-- What a smaller class takes away at the end, a larger one would take away too. -/
theorem dropRightWhile_dropRightWhile {q : Char → Bool} (h : ∀ c, q c = true → p c = true) :
    dropRightWhile p (dropRightWhile q t) = dropRightWhile p t := by
  obtain ⟨w, hw, he⟩ := exists_dropRightWhile q t
  calc dropRightWhile p (dropRightWhile q t)
      = dropRightWhile p (dropRightWhile q t ++ w) :=
        (dropRightWhile_append fun c hc => h c (hw c hc)).symm
    _ = dropRightWhile p t := by rw [he]

theorem head?_dropRightWhile {c : Char} (h : (dropRightWhile p t).head? = some c) :
    t.head? = some c := by
  obtain ⟨w, -, he⟩ := exists_dropRightWhile p t
  rw [← he, List.head?_append, h]
  rfl

theorem getLast?_dropRightWhile {c : Char} (h : (dropRightWhile p t).getLast? = some c) :
    p c = false := by
  have hne : dropRightWhile p t ≠ [] := by
    intro he
    simp [he] at h
  obtain rfl := Option.some.inj ((List.getLast?_eq_some_getLast hne).symm.trans h)
  exact Bool.eq_false_iff.mpr (List.rdropWhile_last_not p t hne)

/-- What is trimmed stands in the middle of what was. -/
theorem trimBy_append (ht : Trimmed p t) (hu : ∀ c ∈ u, p c = true) (hw : ∀ c ∈ w, p c = true) :
    trimBy p (u ++ (t ++ w)) = t := by
  rw [trimBy, List.dropWhile_append_of_pos hu]
  cases t with
  | nil =>
    rw [List.nil_append, List.dropWhile_eq_nil_iff.mpr hw]
    rfl
  | cons c t =>
    rw [List.cons_append, dropWhile_of_head (by simpa using ht.head c), ← List.cons_append,
      dropRightWhile_append hw, dropRightWhile_of_last ht.last]

theorem trimmed_trimBy (p : Char → Bool) (t : Text) : Trimmed p (trimBy p t) where
  head c h := by
    have hd := head?_dropRightWhile h
    cases hc : p c with
    | false => rfl
    | true =>
      have hn := List.head?_dropWhile_not p t
      rw [hd] at hn
      simp [hc] at hn
  last c h := getLast?_dropRightWhile h

theorem trimBy_sublist (p : Char → Bool) (t : Text) : (trimBy p t).Sublist t :=
  (dropRightWhile_sublist p _).trans (List.dropWhile_sublist p)

theorem trimBy_eq_self_iff : trimBy p t = t ↔ Trimmed p t := by
  refine ⟨fun h => h ▸ trimmed_trimBy p t, fun h => ?_⟩
  simpa using trimBy_append (u := []) (w := []) h (by simp) (by simp)

theorem trim_eq_self (h : Trimmed isBlank t) : trim t = t := trimBy_eq_self_iff.mpr h

theorem exists_trimBy (p : Char → Bool) (t : Text) :
    ∃ u w, (∀ c ∈ u, p c = true) ∧ (∀ c ∈ w, p c = true) ∧ u ++ (trimBy p t ++ w) = t := by
  obtain ⟨w, hw, he⟩ := exists_dropRightWhile p (t.dropWhile p)
  refine ⟨t.takeWhile p, w, fun c hc => List.mem_takeWhile_imp hc, hw, ?_⟩
  rw [trimBy, he, List.takeWhile_append_dropWhile]

end Timex.Text
