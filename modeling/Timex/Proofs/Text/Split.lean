import Timex.Text.Basic

/-!
# Groups and cuts

`split` undoes `join` on groups that are free of the separator. A cut gives back the text in
front of the first separator and the text after it.
-/

namespace Timex.Text

-- ---------------------------------------------------------------------------
-- Groups
-- ---------------------------------------------------------------------------

section
variable {sep : α}

theorem join_cons {g : List α} {gs : List (List α)} (h : gs ≠ []) :
    join sep (g :: gs) = g ++ sep :: join sep gs := by
  cases gs with
  | nil => exact absurd rfl h
  | cons => rfl

theorem mem_join {c : α} {gs : List (List α)} (h : c ∈ join sep gs) :
    c = sep ∨ ∃ g ∈ gs, c ∈ g := by
  induction gs with
  | nil => simp [join] at h
  | cons g gs ih =>
    by_cases hgs : gs = []
    · subst hgs
      exact .inr ⟨g, by simp, h⟩
    · rw [join_cons hgs, List.mem_append, List.mem_cons] at h
      rcases h with hg | rfl | h
      · exact .inr ⟨g, by simp, hg⟩
      · exact .inl rfl
      · rcases ih h with he | ⟨x, hx, hc⟩
        · exact .inl he
        · exact .inr ⟨x, List.mem_cons_of_mem _ hx, hc⟩

end

section
variable [DecidableEq α] {sep : α}

theorem split_of_not_mem {g : List α} (h : sep ∉ g) : split sep g = [g] := by
  induction g with
  | nil => rfl
  | cons c cs ih =>
    have hc : c ≠ sep := fun he => h (by simp [he])
    have hcs : sep ∉ cs := fun hm => h (List.mem_cons_of_mem _ hm)
    rw [split, if_neg hc, ih hcs]

theorem split_append {g : List α} (h : sep ∉ g) (rest : List α) :
    split sep (g ++ sep :: rest) = g :: split sep rest := by
  induction g with
  | nil => simp [split]
  | cons c cs ih =>
    have hc : c ≠ sep := fun he => h (by simp [he])
    have hcs : sep ∉ cs := fun hm => h (List.mem_cons_of_mem _ hm)
    rw [List.cons_append, split, if_neg hc, ih hcs]

theorem split_join {gs : List (List α)} (hne : gs ≠ []) (h : ∀ g ∈ gs, sep ∉ g) :
    split sep (join sep gs) = gs := by
  induction gs with
  | nil => exact absurd rfl hne
  | cons g gs ih =>
    have hg : sep ∉ g := h g (by simp)
    by_cases hgs : gs = []
    · subst hgs
      exact split_of_not_mem hg
    · rw [join_cons hgs, split_append hg, ih hgs fun x hx => h x (List.mem_cons_of_mem _ hx)]

end

-- ---------------------------------------------------------------------------
-- Cuts
-- ---------------------------------------------------------------------------

section
variable {sep : Char} {t a b : Text}

theorem cut_of_not_mem (h : sep ∉ t) : cut sep t = (t, none) := by
  induction t with
  | nil => rfl
  | cons c cs ih =>
    have hc : c ≠ sep := fun he => h (by simp [he])
    have hcs : sep ∉ cs := fun hm => h (List.mem_cons_of_mem _ hm)
    rw [cut, if_neg hc, ih hcs]

theorem cut_append (h : sep ∉ a) (b : Text) : cut sep (a ++ sep :: b) = (a, some b) := by
  induction a with
  | nil => simp [cut]
  | cons c cs ih =>
    have hc : c ≠ sep := fun he => h (by simp [he])
    have hcs : sep ∉ cs := fun hm => h (List.mem_cons_of_mem _ hm)
    rw [List.cons_append, cut, if_neg hc, ih hcs]

theorem append_sep_inj {a' b' : Text} (ha : sep ∉ a) (ha' : sep ∉ a') :
    a ++ sep :: b = a' ++ sep :: b' ↔ a = a' ∧ b = b' := by
  constructor
  · intro h
    have hc := congrArg (cut sep) h
    rw [cut_append ha, cut_append ha'] at hc
    simpa using hc
  · rintro ⟨rfl, rfl⟩
    rfl

/-- The text is what the cut gave, put together again. -/
theorem eq_of_cut {after : Option Text} (h : cut sep t = (a, after)) :
    sep ∉ a ∧ t = a ++ (after.map (sep :: ·)).getD [] := by
  induction t generalizing a with
  | nil =>
    simp only [cut, Prod.mk.injEq] at h
    obtain ⟨rfl, rfl⟩ := h
    simp
  | cons c cs ih =>
    rw [cut] at h
    split at h
    · rename_i hc
      simp only [Prod.mk.injEq] at h
      obtain ⟨rfl, rfl⟩ := h
      simp [hc]
    · rename_i hc
      cases hr : cut sep cs with
      | mk before after' =>
        simp only [hr, Prod.mk.injEq] at h
        obtain ⟨rfl, rfl⟩ := h
        obtain ⟨hm, he⟩ := ih hr
        refine ⟨?_, by rw [List.cons_append, ← he]⟩
        intro hm'
        rcases List.mem_cons.mp hm' with he' | hm'
        · exact hc he'.symm
        · exact hm hm'

end

end Timex.Text
