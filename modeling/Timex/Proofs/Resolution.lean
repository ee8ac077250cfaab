import Mathlib.Data.List.Basic
import Timex.Proofs.Text.Trim
import Timex.Resolution

/-!
# Marks

Every canonical token has at most one mark for its week, its month or its year. A filling
decides what stands in the place of the mark; the rest of the token and the markers are
the same for all fillings.
-/

namespace Timex

-- ---------------------------------------------------------------------------
-- Searching
-- ---------------------------------------------------------------------------

namespace Text

theorem eraseFirst?_append {part : Text} (h : part ≠ []) (rest : Text) :
    eraseFirst? part (part ++ rest) = some rest := by
  obtain ⟨c, cs, rfl⟩ := List.exists_cons_of_ne_nil h
  have hp : (c :: cs).isPrefixOf? (c :: (cs ++ rest)) = some rest :=
    List.isPrefixOf?_eq_some_iff_append_eq.mpr rfl
  rw [List.cons_append, eraseFirst?, hp]

theorem isPrefixOf?_eq_none_iff {part t : Text} : part.isPrefixOf? t = none ↔ ¬ part <+: t := by
  rw [← Option.not_isSome_iff_eq_none, Option.isSome_iff_exists]
  simp only [List.isPrefixOf?_eq_some_iff_append_eq]
  rfl

theorem eraseFirst?_of_not_infix {part t : Text} (h : ¬ part <:+: t) :
    eraseFirst? part t = none := by
  induction t with
  | nil =>
    have hne : part ≠ [] := fun he => h (he ▸ List.nil_infix)
    simp [eraseFirst?, hne]
  | cons c cs ih =>
    have hp : ¬ part <+: c :: cs := fun hp => h hp.isInfix
    have hcs : ¬ part <:+: cs := fun hcs => h (List.infix_cons hcs)
    rw [eraseFirst?, isPrefixOf?_eq_none_iff.mpr hp, ih hcs]
    rfl

end Text

-- ---------------------------------------------------------------------------
-- Canonical tokens
-- ---------------------------------------------------------------------------

namespace Token

theorem dropZoneDesignator_of_last {t : Text}
    (h : ∀ c, t.getLast? = some c → ¬ (c = 'Z' ∨ c = 'z')) : dropZoneDesignator t = t := by
  unfold dropZoneDesignator
  split
  · rename_i c hc
    rw [if_neg (h c hc)]
  · rfl

/-- A token without blanks and without a final designator of a zone is canonical. -/
theorem canonical_eq_self {t : Text} (hb : ∀ c ∈ t, Text.isBlank c = false)
    (hz : t.getLast? ≠ some 'Z' ∧ t.getLast? ≠ some 'z') : canonical t = t := by
  have htrim : Text.trim t = t := Text.trim_eq_self (.of_forall hb)
  have hdrop : dropZoneDesignator t = t := by
    refine dropZoneDesignator_of_last fun c hc => ?_
    rintro (rfl | rfl)
    · exact hz.1 hc
    · exact hz.2 hc
  have hrest : t.dropWhile (fun c => !Text.isBlank c) = [] := by
    rw [List.dropWhile_eq_nil_iff]
    intro c hc
    simp [hb c hc]
  rw [canonical, htrim, hdrop, joinDateAndTime]
  simp [hrest]

end Token

namespace Resolution

-- ---------------------------------------------------------------------------
-- Marks in front
-- ---------------------------------------------------------------------------

/-- The unknown that a token declares. -/
inductive Mark where
  | week
  | yearMonth
  | year

namespace Mark

def markers : Mark → Markers
  | .week => Markers.none.insert .weekReference
  | .yearMonth => (Markers.none.insert .unspecifiedYear).insert .unspecifiedMonth
  | .year => Markers.none.insert .unspecifiedYear

/-- What is filled in on a day. A week is not. -/
def filled (today : Date) : Mark → Text
  | .week => []
  | .yearMonth => yearDigits today ++ '-' :: monthDigits today ++ ['-']
  | .year => yearDigits today ++ ['-']

/-- Whether the mark is taken out of the rest of the token for every filling. -/
def isDropped (rest : Text) : Mark → Bool
  | .week => true
  | .yearMonth => ['X', 'X'].isPrefixOf rest
  | .year => false

theorem isDropped_yearMonth_eq_false_iff {rest : Text} :
    Mark.yearMonth.isDropped rest = false ↔ ¬ ['X', 'X'] <+: rest := by
  rw [← List.isPrefixOf_iff_prefix, Bool.not_eq_true]
  rfl

end Mark

/-- The mark of a canonical token and what is left without it. -/
def takeMark? (t : Text) : Option (Mark × Text) :=
  match Text.eraseFirst? weekMark t with
  | some rest => some (.week, rest)
  | none =>
    match yearMonthMark.isPrefixOf? t with
    | some rest => some (.yearMonth, rest)
    | none => (yearMark.isPrefixOf? t).map fun rest => (.year, rest)

/-- The resolution of a token before its day mark is dropped. -/
def unfinished (filling : Filling) (today : Date) (t : Text) : Resolution :=
  match takeMark? t with
  | none => ⟨t, Markers.none⟩
  | some (mark, rest) =>
    if filling = .strip ∨ mark.isDropped rest then ⟨rest, mark.markers⟩
    else ⟨mark.filled today ++ rest, mark.markers⟩

theorem ofMark_on (filling : Filling) (today : Date) (t : Text) :
    (ofMark filling t).on today = unfinished filling today t := by
  unfold ofMark unfinished takeMark?
  cases hw : Text.eraseFirst? weekMark t with
  | some rest => simp [Mark.markers, Mark.isDropped]
  | none =>
    cases hym : yearMonthMark.isPrefixOf? t with
    | some rest =>
      by_cases hf : filling = .strip ∨ ['X', 'X'].isPrefixOf rest
      · simp only [hf, if_true, Mark.isDropped, Mark.markers, Dated.on_settled]
      · simp only [hf, if_false, Mark.isDropped, Mark.markers, Mark.filled, Dated.on_asksToday,
          List.append_assoc, List.cons_append, List.nil_append]
    | none =>
      cases hy : yearMark.isPrefixOf? t with
      | some rest => cases filling <;> simp [Mark.isDropped, Mark.markers, Mark.filled]
      | none => rfl

theorem resolve_eq (filling : Filling) (today : Date) (token : Text) :
    resolve filling today token =
      dropDayMark (unfinished filling today (Token.canonical token)) := by
  rw [resolve, ofToken, Dated.on_map, ofMark_on]

section
variable {t rest : Text}

theorem takeMark?_eq_week_iff :
    takeMark? t = some (.week, rest) ↔ Text.eraseFirst? weekMark t = some rest := by
  unfold takeMark?
  cases Text.eraseFirst? weekMark t with
  | some more => simp
  | none => cases yearMonthMark.isPrefixOf? t <;> simp

theorem takeMark?_eq_yearMonth_iff :
    takeMark? t = some (.yearMonth, rest) ↔
      Text.eraseFirst? weekMark t = none ∧ yearMonthMark ++ rest = t := by
  rw [← List.isPrefixOf?_eq_some_iff_append_eq]
  unfold takeMark?
  cases Text.eraseFirst? weekMark t with
  | some more => simp
  | none => cases yearMonthMark.isPrefixOf? t <;> simp

theorem takeMark?_eq_year_iff :
    takeMark? t = some (.year, rest) ↔
      Text.eraseFirst? weekMark t = none ∧ ¬ yearMonthMark <+: t ∧ yearMark ++ rest = t := by
  rw [← Text.isPrefixOf?_eq_none_iff, ← List.isPrefixOf?_eq_some_iff_append_eq]
  unfold takeMark?
  cases Text.eraseFirst? weekMark t with
  | some more => simp
  | none => cases yearMonthMark.isPrefixOf? t <;> simp

end

theorem takeMark?_week (rest : Text) : takeMark? (weekMark ++ rest) = some (.week, rest) :=
  takeMark?_eq_week_iff.mpr (Text.eraseFirst?_append (by decide) rest)

theorem eraseFirst?_weekMark {t : Text} (h : 'W' ∉ t) : Text.eraseFirst? weekMark t = none :=
  Text.eraseFirst?_of_not_infix fun hi => h (hi.subset (by decide))

theorem takeMark?_yearMonth {rest : Text} (h : 'W' ∉ rest) :
    takeMark? (yearMonthMark ++ rest) = some (.yearMonth, rest) := by
  have hw : 'W' ∉ yearMonthMark ++ rest := by simp [yearMonthMark, h]
  exact takeMark?_eq_yearMonth_iff.mpr ⟨eraseFirst?_weekMark hw, rfl⟩

theorem takeMark?_year {rest : Text} (h : 'W' ∉ rest) (hx : rest.head? ≠ some 'X') :
    takeMark? (yearMark ++ rest) = some (.year, rest) := by
  have hw : 'W' ∉ yearMark ++ rest := by simp [yearMark, h]
  have hym : ¬ yearMonthMark <+: yearMark ++ rest := by
    rintro ⟨more, he⟩
    have hr : ['X', 'X', '-'] ++ more = rest := by simpa [yearMonthMark, yearMark] using he
    exact absurd (by rw [← hr]; rfl) hx
  exact takeMark?_eq_year_iff.mpr ⟨eraseFirst?_weekMark hw, hym, rfl⟩

theorem takeMark?_of_head {t : Text} (h : 'W' ∉ t) (hx : t.head? ≠ some 'X') :
    takeMark? t = none := by
  have hp : ∀ {cs : Text}, ('X' :: cs).isPrefixOf? t = none := by
    intro cs
    refine Text.isPrefixOf?_eq_none_iff.mpr ?_
    rintro ⟨more, he⟩
    exact absurd (by rw [← he]; rfl) hx
  rw [takeMark?, eraseFirst?_weekMark h, yearMonthMark, hp, yearMark, hp]
  rfl

-- ---------------------------------------------------------------------------
-- Day marks
-- ---------------------------------------------------------------------------

theorem dropDayMark_append (t : Text) {m : Markers} (h : m.weekReference = false) :
    dropDayMark ⟨t ++ dayMark, m⟩ = ⟨t, m.insert .unspecifiedDay⟩ := by
  have hs : dayMark.isSuffixOf? (t ++ dayMark) = some t :=
    List.isSuffixOf?_eq_some_iff_append_eq.mpr rfl
  simp only [dropDayMark, hs, h, Bool.false_eq_true, if_false]

theorem dropDayMark_of_not_mem {t : Text} (h : 'X' ∉ t) (m : Markers) :
    dropDayMark ⟨t, m⟩ = ⟨t, m⟩ := by
  unfold dropDayMark
  cases hs : dayMark.isSuffixOf? t with
  | none => rfl
  | some rest =>
    have he := List.isSuffixOf?_eq_some_iff_append_eq.mp hs
    exact absurd (he ▸ by simp [dayMark]) h

/-- What is filled in stays in front when the day mark is dropped. -/
theorem dropDayMark_filled {front rest : Text} (hr : rest ≠ ['X', 'X']) (m : Markers) :
    dropDayMark ⟨front ++ ['-'] ++ rest, m⟩ =
      ⟨front ++ ['-'] ++ (dropDayMark ⟨rest, m⟩).text, (dropDayMark ⟨rest, m⟩).markers⟩ := by
  cases hs : dayMark.isSuffixOf? rest with
  | some more =>
    have he := List.isSuffixOf?_eq_some_iff_append_eq.mp hs
    have hs' : dayMark.isSuffixOf? (front ++ ['-'] ++ rest) = some (front ++ ['-'] ++ more) :=
      List.isSuffixOf?_eq_some_iff_append_eq.mpr (by rw [← he]; simp)
    cases hw : m.weekReference <;>
      simp only [dropDayMark, hs, hs', hw, Bool.false_eq_true, if_true, if_false]
  | none =>
    have hs' : dayMark.isSuffixOf? (front ++ ['-'] ++ rest) = none := by
      cases hs' : dayMark.isSuffixOf? (front ++ ['-'] ++ rest) with
      | none => rfl
      | some more =>
        have he := List.isSuffixOf?_eq_some_iff_append_eq.mp hs'
        have hno : ∀ u, u ++ dayMark ≠ rest := fun u hu => by
          rw [List.isSuffixOf?_eq_some_iff_append_eq.mpr hu] at hs
          simp at hs
        rcases List.append_eq_append_iff.mp he with ⟨a, h1, h2⟩ | ⟨a, -, h2⟩
        · -- The mark would begin in what is filled in, which ends in a hyphen.
          have hlast := congrArg List.getLast? h1
          rcases a with _ | ⟨x, _ | ⟨y, _ | ⟨z, a⟩⟩⟩
          · exact absurd h2 (hno [])
          · simp only [dayMark, List.cons_append, List.nil_append, List.cons.injEq] at h2
            exact absurd h2.2.symm hr
          · simp only [dayMark, List.cons_append, List.nil_append, List.cons.injEq] at h2
            simp [← h2.2.1] at hlast
          · simp [dayMark] at h2
            simp [← h2.2.2.1, h2.2.2.2] at hlast
        · exact absurd h2.symm (hno a)
    simp only [dropDayMark, hs, hs']

theorem markers_dropDayMark (r : Resolution) :
    (dropDayMark r).markers = r.markers ∨
      (dropDayMark r).markers = r.markers.insert .unspecifiedDay := by
  unfold dropDayMark
  split
  · split
    · exact .inl rfl
    · exact .inr rfl
  · exact .inl rfl

end Resolution
end Timex
