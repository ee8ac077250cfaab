import Timex.Proofs.Resolution

/-!
# Fillings side by side

Stripping and substituting take the same mark out of a token. What a mark is filled with
stands in front of the text that stripping leaves, under the markers that stripping
records. The one exception is `XXXX-XX`, whose day mark begins in what is filled in.
-/

namespace Timex

-- ---------------------------------------------------------------------------
-- Searching
-- ---------------------------------------------------------------------------

namespace Text

/-- What is erased stood somewhere in the text. -/
theorem exists_of_eraseFirst? {part t rest : Text} (h : eraseFirst? part t = some rest) :
    ∃ before after, t = before ++ (part ++ after) ∧ rest = before ++ after := by
  induction t generalizing rest with
  | nil =>
    simp only [eraseFirst?] at h
    split at h
    · rename_i he
      refine ⟨[], [], by simpa using he, (Option.some.inj h).symm⟩
    · simp at h
  | cons c cs ih =>
    rw [eraseFirst?] at h
    split at h
    · rename_i more hp
      exact ⟨[], more, (List.isPrefixOf?_eq_some_iff_append_eq.mp hp).symm,
        (Option.some.inj h).symm⟩
    · obtain ⟨more, hm, rfl⟩ := Option.map_eq_some_iff.mp h
      obtain ⟨before, after, rfl, rfl⟩ := ih hm
      exact ⟨c :: before, after, rfl, rfl⟩

/-- A part is found behind text that is free of its first character. -/
theorem eraseFirst?_behind {c : Char} {cs before : Text} (h : c ∉ before) (after : Text) :
    eraseFirst? (c :: cs) (before ++ (c :: cs ++ after)) = some (before ++ after) := by
  induction before with
  | nil => exact eraseFirst?_append (List.cons_ne_nil c cs) after
  | cons d ds ih =>
    have hd : d ≠ c := fun he => h (by simp [he])
    have hds : c ∉ ds := fun hm => h (List.mem_cons_of_mem _ hm)
    have hp : ¬ (c :: cs) <+: d :: (ds ++ (c :: cs ++ after)) := fun hp =>
      hd (List.cons_prefix_cons.mp hp).1.symm
    rw [List.cons_append, eraseFirst?, isPrefixOf?_eq_none_iff.mpr hp, ih hds]
    rfl

end Text

namespace Resolution

-- ---------------------------------------------------------------------------
-- Day marks
-- ---------------------------------------------------------------------------

@[simp] theorem dropDayMark_week (t : Text) :
    dropDayMark ⟨t, Mark.week.markers⟩ = ⟨t, Mark.week.markers⟩ := by
  unfold dropDayMark
  cases dayMark.isSuffixOf? t <;> rfl

/-- A text keeps its first character, unless that begins the day mark. -/
theorem mem_text_dropDayMark {c : Char} (hc : c ≠ '-') (rest : Text) (m : Markers) :
    c ∈ (dropDayMark ⟨c :: rest, m⟩).text := by
  unfold dropDayMark
  cases hs : dayMark.isSuffixOf? (c :: rest) with
  | none => simp
  | some front =>
    cases m.weekReference with
    | true => simp
    | false =>
      have he := List.isSuffixOf?_eq_some_iff_append_eq.mp hs
      cases front with
      | nil => exact absurd (List.cons.inj he).1.symm hc
      | cons d ds =>
        rw [(List.cons.inj he).1]
        simp

/-- A day mark that is recorded anew stood at the end of a token that refers to no week. -/
theorem eq_of_unspecifiedDay {r : Resolution} (hr : r.markers.unspecifiedDay = false)
    (h : (dropDayMark r).markers.unspecifiedDay = true) :
    r.markers.weekReference = false ∧ r.text = (dropDayMark r).text ++ dayMark := by
  unfold dropDayMark at h ⊢
  cases hs : dayMark.isSuffixOf? r.text with
  | none => simp [hs, hr] at h
  | some rest =>
    cases hw : r.markers.weekReference with
    | true => simp [hs, hw, hr] at h
    | false => exact ⟨rfl, (List.isSuffixOf?_eq_some_iff_append_eq.mp hs).symm⟩

theorem unspecifiedYear_dropDayMark (r : Resolution) :
    (dropDayMark r).markers.unspecifiedYear = r.markers.unspecifiedYear := by
  rcases markers_dropDayMark r with h | h
  · rw [h]
  · rw [h]
    rfl

theorem weekReference_dropDayMark (r : Resolution) :
    (dropDayMark r).markers.weekReference = r.markers.weekReference := by
  rcases markers_dropDayMark r with h | h
  · rw [h]
  · rw [h]
    rfl

-- ---------------------------------------------------------------------------
-- Both fillings
-- ---------------------------------------------------------------------------

section
variable {today : Date} {token rest : Text} {mark : Mark}

theorem resolve_of_unmarked (h : takeMark? (Token.canonical token) = none) (filling : Filling) :
    resolve filling today token = dropDayMark ⟨Token.canonical token, Markers.none⟩ := by
  rw [resolve_eq, unfinished, h]

theorem resolve_strip_of_mark (h : takeMark? (Token.canonical token) = some (mark, rest)) :
    resolve .strip today token = dropDayMark ⟨rest, mark.markers⟩ := by
  rw [resolve_eq, unfinished, h]
  simp only [true_or, if_true]

theorem resolve_of_dropped (h : takeMark? (Token.canonical token) = some (mark, rest))
    (hd : mark.isDropped rest = true) (filling : Filling) :
    resolve filling today token = dropDayMark ⟨rest, mark.markers⟩ := by
  rw [resolve_eq, unfinished, h]
  simp only [hd, or_true, if_true]

/-- A mark is filled in front of what stripping leaves. -/
theorem resolve_substitute_of_mark (h : takeMark? (Token.canonical token) = some (mark, rest))
    (hd : mark.isDropped rest = false) (hne : rest ≠ ['X', 'X']) :
    resolve .substitute today token =
      ⟨mark.filled today ++ (resolve .strip today token).text,
        (resolve .strip today token).markers⟩ := by
  have hif : ¬ (Filling.substitute = .strip ∨ mark.isDropped rest = true) := by simp [hd]
  rw [resolve_strip_of_mark h, resolve_eq, unfinished, h]
  simp only [if_neg hif]
  cases mark with
  | week => simp [Mark.isDropped] at hd
  | yearMonth => exact dropDayMark_filled hne _
  | year => exact dropDayMark_filled hne _

/-- `XXXX-XX` filled in is a year alone. -/
theorem resolve_substitute_of_no_month
    (h : takeMark? (Token.canonical token) = some (.year, ['X', 'X'])) :
    resolve .substitute today token =
      ⟨yearDigits today, Mark.year.markers.insert .unspecifiedDay⟩ := by
  have hif : ¬ (Filling.substitute = .strip ∨ Mark.year.isDropped ['X', 'X'] = true) := by decide
  have ht : Mark.year.filled today ++ ['X', 'X'] = yearDigits today ++ dayMark := by
    simp [Mark.filled, dayMark]
  rw [resolve_eq, unfinished, h]
  simp only [if_neg hif, ht]
  exact dropDayMark_append _ rfl

theorem Mark.eq_year_of_isDropped (h : mark.isDropped ['X', 'X'] = false) : mark = .year := by
  cases mark with
  | week => simp [isDropped] at h
  | yearMonth => simp [isDropped] at h
  | year => rfl

/-- How the two fillings of a token compare. -/
theorem resolve_substitute_cases (today : Date) (token : Text) :
    resolve .substitute today token = resolve .strip today token ∨
      (∃ mark rest, takeMark? (Token.canonical token) = some (mark, rest) ∧
        mark.isDropped rest = false ∧
        resolve .substitute today token =
          ⟨mark.filled today ++ (resolve .strip today token).text,
            (resolve .strip today token).markers⟩) ∨
      takeMark? (Token.canonical token) = some (.year, ['X', 'X']) := by
  cases h : takeMark? (Token.canonical token) with
  | none => exact .inl (by rw [resolve_of_unmarked h, resolve_of_unmarked h])
  | some k =>
    obtain ⟨mark, rest⟩ := k
    cases hd : mark.isDropped rest with
    | true => exact .inl (by rw [resolve_of_dropped h hd, resolve_of_dropped h hd])
    | false =>
      by_cases hne : rest = ['X', 'X']
      · subst hne
        obtain rfl := Mark.eq_year_of_isDropped hd
        exact .inr (.inr rfl)
      · exact .inr (.inl ⟨mark, rest, rfl, hd, resolve_substitute_of_mark h hd hne⟩)

end

-- ---------------------------------------------------------------------------
-- What is recorded
-- ---------------------------------------------------------------------------

theorem markers_unfinished {t rest : Text} {mark : Mark} (h : takeMark? t = some (mark, rest))
    (filling : Filling) (today : Date) : (unfinished filling today t).markers = mark.markers := by
  rw [unfinished, h]
  simp only
  split <;> rfl

section
variable {filling : Filling} {today : Date} {token : Text}

theorem of_unspecifiedDay_strip
    (h : (resolve .strip today token).markers.unspecifiedDay = true) :
    (resolve .strip today token).markers.weekReference = false ∧
      dayMark <:+ Token.canonical token := by
  cases hk : takeMark? (Token.canonical token) with
  | none =>
    rw [resolve_of_unmarked hk] at h ⊢
    obtain ⟨hw, ht⟩ := eq_of_unspecifiedDay rfl h
    exact ⟨(weekReference_dropDayMark _).trans hw, ⟨_, ht.symm⟩⟩
  | some k =>
    obtain ⟨mark, rest⟩ := k
    rw [resolve_strip_of_mark hk] at h ⊢
    obtain ⟨hw, ht⟩ := eq_of_unspecifiedDay (by cases mark <;> rfl) h
    have hrest : rest <:+ Token.canonical token := by
      cases mark with
      | week => exact absurd hw.symm Bool.false_ne_true
      | yearMonth => exact ⟨yearMonthMark, (takeMark?_eq_yearMonth_iff.mp hk).2⟩
      | year => exact ⟨yearMark, (takeMark?_eq_year_iff.mp hk).2.2⟩
    exact ⟨(weekReference_dropDayMark _).trans hw, List.IsSuffix.trans ⟨_, ht.symm⟩ hrest⟩

/-- A recorded day mark stood at the end of a token that refers to no week. -/
theorem of_unspecifiedDay (h : (resolve filling today token).markers.unspecifiedDay = true) :
    (resolve filling today token).markers.weekReference = false ∧
      dayMark <:+ Token.canonical token := by
  cases filling with
  | strip => exact of_unspecifiedDay_strip h
  | substitute =>
    rcases resolve_substitute_cases today token with he | ⟨mark, rest, -, -, he⟩ | hk
    · rw [he] at h ⊢
      exact of_unspecifiedDay_strip h
    · rw [he] at h ⊢
      exact of_unspecifiedDay_strip h
    · rw [resolve_substitute_of_no_month hk, ← (takeMark?_eq_year_iff.mp hk).2.2]
      exact ⟨rfl, ['X', 'X', 'X', 'X'], rfl⟩

/-- A recorded week mark stood somewhere in the token, and nothing else was taken out. -/
theorem of_weekReference (h : (resolve filling today token).markers.weekReference = true) :
    ∃ before after, Token.canonical token = before ++ (weekMark ++ after) ∧
      resolve filling today token = ⟨before ++ after, Mark.week.markers⟩ := by
  cases hk : takeMark? (Token.canonical token) with
  | none =>
    rw [resolve_of_unmarked hk, weekReference_dropDayMark] at h
    exact absurd h Bool.false_ne_true
  | some k =>
    obtain ⟨mark, rest⟩ := k
    cases mark with
    | week =>
      obtain ⟨before, after, hc, rfl⟩ := Text.exists_of_eraseFirst? (takeMark?_eq_week_iff.mp hk)
      exact ⟨before, after, hc, by rw [resolve_of_dropped hk rfl, dropDayMark_week]⟩
    | yearMonth =>
      rw [resolve_eq, weekReference_dropDayMark, markers_unfinished hk] at h
      exact absurd h Bool.false_ne_true
    | year =>
      rw [resolve_eq, weekReference_dropDayMark, markers_unfinished hk] at h
      exact absurd h Bool.false_ne_true

/-- A week mark is taken out wherever it stands. -/
theorem resolve_of_weekMark {before after : Text}
    (h : Token.canonical token = before ++ (weekMark ++ after)) (hX : 'X' ∉ before) :
    resolve filling today token = ⟨before ++ after, Mark.week.markers⟩ := by
  have hk : takeMark? (Token.canonical token) = some (.week, before ++ after) := by
    rw [takeMark?_eq_week_iff, h]
    exact Text.eraseFirst?_behind hX after
  rw [resolve_of_dropped hk rfl, dropDayMark_week]

end

end Resolution
end Timex
