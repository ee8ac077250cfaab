import Mathlib.Data.List.Infix
import Timex.Text.Basic

/-!
# Replacing a part

A part that holds its first character only once does not overlap itself, so a text may be
cut in front of that character and the pieces replaced one by one. An occurrence of the
part gives way to what is put in, and anything else stays. So a text stays as a whole only if
there is no occurrence in it, or what is put in is the part itself.
-/

namespace Timex.Text

theorem replaceFrom_length_append (part new u w : Text) :
    replaceFrom part new u.length (u ++ w) = replaceFrom part new 0 w := by
  induction u with
  | nil => rfl
  | cons d u ih => exact ih

@[simp] theorem replaceAll_nil (part new : Text) : replaceAll part new [] = [] := by
  unfold replaceAll
  split <;> rfl

section
variable {c d : Char} {cs new u w : Text}

/-- What does not hold a character begins a text in front of that character or nowhere. -/
theorem prefix_append_cons_iff (h : c ∉ cs) : cs <+: u ++ c :: w ↔ cs <+: u := by
  refine ⟨fun hp => ?_, fun hp => hp.trans (List.prefix_append u _)⟩
  rcases List.prefix_or_prefix_of_prefix hp (List.prefix_append u _) with hu | ⟨more, rfl⟩
  · exact hu
  · rw [List.prefix_append_right_inj] at hp
    cases more with
    | nil => simp
    | cons e more => exact absurd (by simp [(List.cons_prefix_cons.mp hp).1]) h

theorem replaceFrom_append_cons (h : c ∉ cs) {skip : Nat} (hs : skip ≤ u.length) :
    replaceFrom (c :: cs) new skip (u ++ c :: w) =
      replaceFrom (c :: cs) new skip u ++ replaceFrom (c :: cs) new 0 (c :: w) := by
  induction u generalizing skip with
  | nil =>
    obtain rfl := Nat.le_zero.mp hs
    rfl
  | cons d u ih =>
    cases skip with
    | succ skip => exact ih (Nat.le_of_succ_le_succ hs)
    | zero =>
      have hp : (c :: cs).isPrefixOf (d :: (u ++ c :: w)) = (c :: cs).isPrefixOf (d :: u) := by
        rw [Bool.eq_iff_iff, List.isPrefixOf_iff_prefix, List.isPrefixOf_iff_prefix,
          List.cons_prefix_cons, List.cons_prefix_cons, prefix_append_cons_iff h]
      rw [List.cons_append, replaceFrom, replaceFrom, hp]
      split
      · rename_i hpre
        -- The occurrence ends in front of the cut, and so does what is passed over.
        have hcs := (List.cons_prefix_cons.mp (List.isPrefixOf_iff_prefix.mp hpre)).2
        rw [ih (by simpa using hcs.length_le), List.append_assoc]
      · rw [ih (Nat.zero_le _), List.cons_append]

theorem replaceAll_append_cons (h : c ∉ cs) :
    replaceAll (c :: cs) new (u ++ c :: w) =
      replaceAll (c :: cs) new u ++ replaceAll (c :: cs) new (c :: w) :=
  replaceFrom_append_cons h (Nat.zero_le _)

theorem replaceAll_part_append :
    replaceAll (c :: cs) new (c :: cs ++ w) = new ++ replaceAll (c :: cs) new w := by
  have hp : (c :: cs).isPrefixOf (c :: (cs ++ w)) = true :=
    List.isPrefixOf_iff_prefix.mpr (List.prefix_append (c :: cs) w)
  have hr := replaceFrom_length_append (c :: cs) new cs w
  simp [replaceAll, replaceFrom, hp, hr]

theorem replaceAll_cons_of_not_begins (h : ¬ c :: cs <+: d :: w) :
    replaceAll (c :: cs) new (d :: w) = d :: replaceAll (c :: cs) new w := by
  have hp : (c :: cs).isPrefixOf (d :: w) = false := by
    rw [← Bool.not_eq_true, List.isPrefixOf_iff_prefix]
    exact h
  simp [replaceAll, replaceFrom, hp]

/-- Text without the first character of the part stays. -/
theorem replaceAll_append_of_not_mem (h : c ∉ u) :
    replaceAll (c :: cs) new (u ++ w) = u ++ replaceAll (c :: cs) new w := by
  induction u with
  | nil => rfl
  | cons d u ih =>
    have hd : c ≠ d := fun he => h (by simp [he])
    have hu : c ∉ u := fun hm => h (List.mem_cons_of_mem _ hm)
    have hp : ¬ c :: cs <+: d :: (u ++ w) := fun hp => hd (List.cons_prefix_cons.mp hp).1
    rw [List.cons_append, replaceAll_cons_of_not_begins hp, ih hu, List.cons_append]

-- ---------------------------------------------------------------------------
-- Occurrence by occurrence
-- ---------------------------------------------------------------------------

/-- A text is read from its start, past a part where one begins and past a character elsewhere. -/
theorem replace_induction (c : Char) (cs : Text) {motive : Text → Prop} (nil : motive [])
    (part : ∀ w, motive w → motive (c :: cs ++ w))
    (other : ∀ d w, ¬ c :: cs <+: d :: w → motive w → motive (d :: w)) (t : Text) : motive t := by
  by_cases hp : c :: cs <+: t
  · obtain ⟨w, rfl⟩ := hp
    exact part w (replace_induction c cs nil part other w)
  · cases t with
    | nil => exact nil
    | cons d w => exact other d w hp (replace_induction c cs nil part other w)
termination_by t.length
decreasing_by
  · rename_i he
    rw [← he, List.length_append, List.length_cons]
    omega
  · exact Nat.lt_succ_self _

theorem replaceAll_of_not_infix {t : Text} (h : ¬ c :: cs <:+: t) :
    replaceAll (c :: cs) new t = t := by
  induction t using replace_induction c cs with
  | nil => rfl
  | part w ih => exact absurd (List.prefix_append _ w).isInfix h
  | other d w hp ih =>
    rw [replaceAll_cons_of_not_begins hp, ih fun hw => h (hw.trans (List.suffix_cons d w).isInfix)]

theorem replaceAll_self (t : Text) : replaceAll (c :: cs) (c :: cs) t = t := by
  induction t using replace_induction c cs with
  | nil => rfl
  | part w ih => rw [replaceAll_part_append, ih]
  | other d w hp ih => rw [replaceAll_cons_of_not_begins hp, ih]

/-- Each of the occurrences takes its own length away and brings in that of what is new. -/
theorem exists_length_replaceAll (c : Char) (cs new t : Text) :
    ∃ k, (replaceAll (c :: cs) new t).length + k * (c :: cs).length =
      t.length + k * new.length := by
  induction t using replace_induction c cs with
  | nil => exact ⟨0, by simp⟩
  | part w ih =>
    obtain ⟨k, hk⟩ := ih
    refine ⟨k + 1, ?_⟩
    rw [replaceAll_part_append, List.length_append, List.length_append, Nat.succ_mul, Nat.succ_mul]
    omega
  | other d w hp ih =>
    obtain ⟨k, hk⟩ := ih
    refine ⟨k, ?_⟩
    simp only [replaceAll_cons_of_not_begins hp, List.length_cons] at hk ⊢
    omega

/-- A text stays as it is if there is nothing to replace, or what is put in is the part again. -/
theorem replaceAll_eq_self_iff {t : Text} :
    replaceAll (c :: cs) new t = t ↔ ¬ c :: cs <:+: t ∨ new = c :: cs := by
  constructor
  · induction t using replace_induction c cs with
    | nil => exact fun _ => .inl (by simp)
    | part w ih =>
      intro h
      rw [replaceAll_part_append] at h
      -- The lengths of all the occurrences agree, so those of the first one do.
      obtain ⟨k, hk⟩ := exists_length_replaceAll c cs new w
      have hl := congrArg List.length h
      rw [List.length_append, List.length_append] at hl
      have hmul : (k + 1) * new.length = (k + 1) * (c :: cs).length := by
        rw [Nat.succ_mul, Nat.succ_mul]
        omega
      exact .inr (List.append_inj_left h (Nat.eq_of_mul_eq_mul_left (Nat.succ_pos k) hmul))
    | other d w hp ih =>
      intro h
      rw [replaceAll_cons_of_not_begins hp] at h
      refine (ih (List.cons.inj h).2).imp_left fun hw hi => ?_
      rcases List.infix_cons_iff.mp hi with hpre | hi
      · exact hp hpre
      · exact hw hi
  · rintro (h | rfl)
    · exact replaceAll_of_not_infix h
    · exact replaceAll_self t

/-- A character that does not end the part stays behind a text. -/
theorem replaceAll_concat (hlast : ∀ front, c :: cs ≠ front ++ [d]) (u : Text) :
    replaceAll (c :: cs) new (u ++ [d]) = replaceAll (c :: cs) new u ++ [d] := by
  have hno : ∀ w, ¬ c :: cs <+: w → ¬ c :: cs <+: w ++ [d] := by
    intro w hw hp
    rcases List.prefix_concat_iff.mp hp with he | hp
    · exact hlast w he
    · exact hw hp
  induction u using replace_induction c cs with
  | nil =>
    have hd := hno [] (by simp)
    rw [List.nil_append, replaceAll_cons_of_not_begins hd, replaceAll_nil, List.nil_append]
  | part w ih =>
    rw [List.append_assoc, replaceAll_part_append, replaceAll_part_append, ih, List.append_assoc]
  | other x w hp ih =>
    have hx : ¬ c :: cs <+: x :: (w ++ [d]) := hno (x :: w) hp
    rw [List.cons_append, replaceAll_cons_of_not_begins hx, replaceAll_cons_of_not_begins hp, ih,
      List.cons_append]

end
end Timex.Text
