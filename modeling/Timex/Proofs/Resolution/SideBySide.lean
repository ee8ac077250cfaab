import Timex.Proofs.Resolution.Filling
import Timex.Proofs.Text.Decimal

/-!
# Stripping and substituting

Both fillings record the same markers, and the substituted text is the stripped one behind
the year, or behind the year and the month, of today. What stands in front is read off the
canonical token and the markers alone. `XXXX-XX` is the one token where they part: only
the year in front of `-XX` makes that a day mark. A week is never recorded beside another
marker, nor an unknown month without an unknown year.
-/

namespace Timex.Resolution

-- ---------------------------------------------------------------------------
-- Markers that go together
-- ---------------------------------------------------------------------------

section
variable {filling : Filling} {today : Date} {token : Text}

/-- A week refers to no calendar date, so nothing of a date is recorded beside it. -/
theorem markers_of_weekReference
    (h : (resolve filling today token).markers.weekReference = true) :
    (resolve filling today token).markers = Markers.none.insert .weekReference := by
  obtain ⟨before, after, -, hr⟩ := of_weekReference h
  rw [hr]
  rfl

theorem unspecifiedMonth_dropDayMark (r : Resolution) :
    (dropDayMark r).markers.unspecifiedMonth = r.markers.unspecifiedMonth := by
  rcases markers_dropDayMark r with h | h
  · rw [h]
  · rw [h]
    rfl

theorem unspecifiedYear_of_unspecifiedMonth
    (h : (resolve filling today token).markers.unspecifiedMonth = true) :
    (resolve filling today token).markers.unspecifiedYear = true := by
  rw [resolve_eq, unspecifiedMonth_dropDayMark] at h
  rw [resolve_eq, unspecifiedYear_dropDayMark]
  cases hk : takeMark? (Token.canonical token) with
  | none =>
    rw [unfinished, hk] at h
    exact absurd h Bool.false_ne_true
  | some k =>
    obtain ⟨mark, rest⟩ := k
    rw [markers_unfinished hk] at h ⊢
    cases mark with
    | week => exact absurd h Bool.false_ne_true
    | yearMonth => rfl
    | year => exact absurd h Bool.false_ne_true

end

-- ---------------------------------------------------------------------------
-- What stands in front
-- ---------------------------------------------------------------------------

/-- What substituting puts in front of the text that stripping leaves of a canonical token
with these markers. Where month and day are unknown it puts nothing there. -/
def filledFront (today : Date) (c : Text) (m : Markers) : Text :=
  if m.unspecifiedYear = false ∨ yearMonthMark ++ ['X', 'X'] <+: c then []
  else if m.unspecifiedMonth = false then Text.zeroPadded 4 today.year ++ ['-']
  else Text.zeroPadded 4 today.year ++ '-' :: Text.zeroPadded 2 today.month ++ ['-']

section
variable {today : Date} {token rest : Text} {mark : Mark}

theorem filledFront_of_unmarked (h : takeMark? (Token.canonical token) = none) :
    filledFront today (Token.canonical token) (resolve .strip today token).markers = [] := by
  have hy : (resolve .strip today token).markers.unspecifiedYear = false := by
    rw [resolve_of_unmarked h, unspecifiedYear_dropDayMark]
    rfl
  exact if_pos (.inl hy)

/-- The front is that of the mark, unless the mark is dropped for every filling. -/
theorem filledFront_of_mark (h : takeMark? (Token.canonical token) = some (mark, rest)) :
    filledFront today (Token.canonical token) (resolve .strip today token).markers =
      if mark.isDropped rest then [] else mark.filled today := by
  have hyear : (resolve .strip today token).markers.unspecifiedYear =
      mark.markers.unspecifiedYear := by
    rw [resolve_strip_of_mark h, unspecifiedYear_dropDayMark]
  have hmonth : (resolve .strip today token).markers.unspecifiedMonth =
      mark.markers.unspecifiedMonth := by
    rw [resolve_strip_of_mark h, unspecifiedMonth_dropDayMark]
  rw [filledFront, hyear, hmonth]
  cases mark with
  | week => rfl
  | yearMonth =>
    have hrest : yearMonthMark ++ ['X', 'X'] <+: Token.canonical token ↔ ['X', 'X'] <+: rest := by
      rw [← (takeMark?_eq_yearMonth_iff.mp h).2, List.prefix_append_right_inj]
    simp only [hrest]
    cases hd : Mark.yearMonth.isDropped rest with
    | true =>
      have hXX : ['X', 'X'] <+: rest := List.isPrefixOf_iff_prefix.mp hd
      exact if_pos (.inr hXX)
    | false =>
      have hXX := Mark.isDropped_yearMonth_eq_false_iff.mp hd
      simp only [hXX, or_false]
      rfl
  | year =>
    have hno : ¬ yearMonthMark ++ ['X', 'X'] <+: Token.canonical token := fun hp =>
      (takeMark?_eq_year_iff.mp h).2.1 ((List.prefix_append _ _).trans hp)
    simp only [hno, or_false]
    rfl

end

-- ---------------------------------------------------------------------------
-- Both fillings
-- ---------------------------------------------------------------------------

/-- `XXXX-XX` -/
def noMonth : Text := yearMark ++ ['X', 'X']

theorem takeMark?_eq_noMonth_iff {t : Text} :
    takeMark? t = some (.year, ['X', 'X']) ↔ t = noMonth := by
  constructor
  · intro h
    exact (takeMark?_eq_year_iff.mp h).2.2.symm
  · rintro rfl
    rfl

section
variable {today : Date} {token : Text}

theorem resolve_substitute_eq (h : Token.canonical token ≠ noMonth) :
    resolve .substitute today token =
      ⟨filledFront today (Token.canonical token) (resolve .strip today token).markers ++
          (resolve .strip today token).text,
        (resolve .strip today token).markers⟩ := by
  cases hk : takeMark? (Token.canonical token) with
  | none =>
    rw [filledFront_of_unmarked hk, resolve_of_unmarked hk, resolve_of_unmarked hk]
    rfl
  | some k =>
    obtain ⟨mark, rest⟩ := k
    rw [filledFront_of_mark hk]
    cases hd : mark.isDropped rest with
    | true =>
      rw [resolve_of_dropped hk hd, resolve_of_dropped hk hd]
      rfl
    | false =>
      have hne : rest ≠ ['X', 'X'] := by
        rintro rfl
        obtain rfl := Mark.eq_year_of_isDropped hd
        exact h (takeMark?_eq_noMonth_iff.mp hk)
      exact resolve_substitute_of_mark hk hd hne

theorem resolve_noMonth (h : Token.canonical token = noMonth) :
    resolve .strip today token = ⟨['X', 'X'], Markers.none.insert .unspecifiedYear⟩ ∧
      resolve .substitute today token =
        ⟨Text.zeroPadded 4 today.year,
          (Markers.none.insert .unspecifiedYear).insert .unspecifiedDay⟩ := by
  have hk := takeMark?_eq_noMonth_iff.mpr h
  exact ⟨resolve_strip_of_mark hk, resolve_substitute_of_no_month hk⟩

end

/-- Substituting differs from stripping in what stands in front of the text, which has the
year in four digits and the month in two, and in nothing else; `XXXX-XX` alone has other
markers, a day mark, when its year is filled in. -/
theorem strip_and_substitute_alike (today : Date) (token : Text) :
    let c := Token.canonical token
    let stripped := resolve .strip today token
    let substituted := resolve .substitute today token
    (c ≠ noMonth → substituted.markers = stripped.markers ∧
      substituted.text = filledFront today c stripped.markers ++ stripped.text) ∧
    (substituted.markers ≠ stripped.markers ↔ c = noMonth) ∧
    (c = noMonth → stripped.markers.unspecifiedDay = false ∧
      substituted.markers = stripped.markers.insert .unspecifiedDay) ∧
    (Text.zeroPadded 4 today.year).length = 4 ∧ (Text.zeroPadded 2 today.month).length = 2 ∧
    ∀ filling, let r := resolve filling today token
      (r.markers.weekReference = true → r.markers = Markers.none.insert .weekReference) ∧
        (r.markers.unspecifiedMonth = true → r.markers.unspecifiedYear = true) := by
  refine ⟨fun h => ?_, ⟨fun h => ?_, fun h => ?_⟩, fun h => ?_,
    Text.length_zeroPadded_year today.year_bounds, Text.length_zeroPadded_month today.month_bounds,
    fun filling => ⟨markers_of_weekReference, unspecifiedYear_of_unspecifiedMonth⟩⟩
  · rw [resolve_substitute_eq h]
    exact ⟨rfl, rfl⟩
  · by_contra hc
    exact h (by rw [resolve_substitute_eq hc])
  · have hne : (Markers.none.insert .unspecifiedYear).insert .unspecifiedDay ≠
        Markers.none.insert .unspecifiedYear := by decide
    rw [(resolve_noMonth h).1, (resolve_noMonth h).2]
    exact hne
  · rw [(resolve_noMonth h).1, (resolve_noMonth h).2]
    exact ⟨rfl, rfl⟩

/-- A month without a day, the token without a month, a week and a day by itself. -/
theorem march_filled_in_without_day :
    ∃ today : Date,
      (resolve .strip today "XXXX-03-XX".toList).text = "03".toList ∧
      (resolve .substitute today "XXXX-03-XX".toList).text = "2024-03".toList ∧
      (resolve .substitute today "XXXX-XX".toList).markers =
        (resolve .strip today "XXXX-XX".toList).markers.insert .unspecifiedDay ∧
      (resolve .substitute today "XXXX-WXX-3".toList).markers =
        Markers.none.insert .weekReference ∧
      (resolve .substitute today "XXXX-XX-15".toList).markers.unspecifiedYear = true := by
  have h := strip_and_substitute_alike ⟨2024, 5, 20, by decide, by decide, by decide⟩
  have hmonth := (h "XXXX-03-XX".toList).1 (by decide)
  have hnone := (h "XXXX-XX".toList).2.2.1 rfl
  have hweek := (h "XXXX-WXX-3".toList).2.2.2.2.2 .substitute
  have hday := (h "XXXX-XX-15".toList).2.2.2.2.2 .substitute
  exact ⟨_, rfl, hmonth.2, hnone.2, hweek.1 rfl, hday.2 rfl⟩

end Timex.Resolution
