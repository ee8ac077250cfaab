import Timex.Normalizer.Batch
import Timex.Proofs.Normalizer.Analysis
import Timex.Proofs.Resolution.Filling
import Timex.Proofs.Token.Groups

/-!
# What depends on today's date

Only a token whose unknown year is to be filled in asks for today's date. The answer
matters through its year, and through its month where that is filled in as well. So a facet
that strips is the same on every day, and every facet is the same on all days of a month.
-/

namespace Timex

-- ---------------------------------------------------------------------------
-- Questions
-- ---------------------------------------------------------------------------

namespace Dated

/-- Whether the result is a question about today's date. -/
def asks : Dated α → Bool
  | .settled _ => false
  | .asksToday _ => true

@[simp] theorem asks_map (f : α → β) (d : Dated α) : (d.map f).asks = d.asks := by
  cases d <;> rfl

theorem on_of_not_asks {d : Dated α} (h : d.asks = false) (today other : Date) :
    d.on today = d.on other := by
  cases d with
  | settled result => rfl
  | asksToday result => simp [asks] at h

end Dated

namespace Text

theorem eraseFirst?_eq_none_iff {part t : Text} : eraseFirst? part t = none ↔ ¬ part <:+: t := by
  refine ⟨?_, eraseFirst?_of_not_infix⟩
  induction t with
  | nil =>
    intro h hi
    simp [eraseFirst?, List.infix_nil.mp hi] at h
  | cons c cs ih =>
    intro h hi
    rw [eraseFirst?] at h
    split at h
    · simp at h
    · rename_i hp
      rcases List.infix_cons_iff.mp hi with hpre | hcs
      · exact isPrefixOf?_eq_none_iff.mp hp hpre
      · exact ih (Option.map_eq_none_iff.mp h) hcs

end Text

namespace Resolution

section
variable {filling : Filling} {today other : Date} {token t : Text}

theorem asks_ofMark_iff :
    (ofMark filling t).asks = true ↔
      filling = .substitute ∧
        ∃ mark rest, takeMark? t = some (mark, rest) ∧ mark.isDropped rest = false := by
  unfold ofMark takeMark?
  cases Text.eraseFirst? weekMark t with
  | some rest => simp [Dated.asks, Mark.isDropped]
  | none =>
    cases yearMonthMark.isPrefixOf? t with
    | some rest =>
      cases hX : ['X', 'X'].isPrefixOf rest <;> cases filling <;>
        simp [hX, Dated.asks, Mark.isDropped]
    | none =>
      cases yearMark.isPrefixOf? t <;> cases filling <;> simp [Dated.asks, Mark.isDropped]

/-- The marks that are filled in, read off the front of a token. -/
theorem exists_filled_mark_iff :
    (∃ mark rest, takeMark? t = some (mark, rest) ∧ mark.isDropped rest = false) ↔
      yearMark <+: t ∧ ¬ weekMark <:+: t ∧ ¬ yearMonthMark ++ ['X', 'X'] <+: t := by
  have hym : yearMonthMark = yearMark ++ ['X', 'X', '-'] := rfl
  constructor
  · rintro ⟨mark, rest, hk, hd⟩
    cases mark with
    | week => simp [Mark.isDropped] at hd
    | yearMonth =>
      obtain ⟨hw, rfl⟩ := takeMark?_eq_yearMonth_iff.mp hk
      refine ⟨⟨['X', 'X', '-'] ++ rest, by simp [hym]⟩, Text.eraseFirst?_eq_none_iff.mp hw, ?_⟩
      rw [List.prefix_append_right_inj]
      exact Mark.isDropped_yearMonth_eq_false_iff.mp hd
    | year =>
      obtain ⟨hw, hno, rfl⟩ := takeMark?_eq_year_iff.mp hk
      exact ⟨⟨rest, rfl⟩, Text.eraseFirst?_eq_none_iff.mp hw,
        fun hp => hno ((List.prefix_append _ _).trans hp)⟩
  · rintro ⟨⟨rest, hr⟩, hw, hno⟩
    have hw := Text.eraseFirst?_eq_none_iff.mpr hw
    by_cases hp : yearMonthMark <+: t
    · obtain ⟨day, rfl⟩ := hp
      refine ⟨.yearMonth, day, takeMark?_eq_yearMonth_iff.mpr ⟨hw, rfl⟩, ?_⟩
      rw [List.prefix_append_right_inj] at hno
      exact Mark.isDropped_yearMonth_eq_false_iff.mpr hno
    · exact ⟨.year, rest, takeMark?_eq_year_iff.mpr ⟨hw, hp, hr⟩, rfl⟩

/-- Today's date is asked for exactly to fill in a year, unless neither month nor day is known. -/
theorem asks_ofToken_iff :
    (ofToken filling token).asks = true ↔
      filling = .substitute ∧ yearMark <+: Token.canonical token ∧
        ¬ weekMark <:+: Token.canonical token ∧
        ¬ yearMonthMark ++ ['X', 'X'] <+: Token.canonical token := by
  rw [ofToken, Dated.asks_map, asks_ofMark_iff, exists_filled_mark_iff]

-- ---------------------------------------------------------------------------
-- Answers
-- ---------------------------------------------------------------------------

theorem filled_inj {mark : Mark} {rest : Text} (h : mark.isDropped rest = false) :
    mark.filled today = mark.filled other ↔
      today.year = other.year ∧ (mark = .yearMonth → today.month = other.month) := by
  have hz := Token.hyphen_not_mem_zeroPadded
  cases mark with
  | week => simp [Mark.isDropped] at h
  | yearMonth =>
    simp [Mark.filled, yearDigits, monthDigits, Text.append_sep_inj (hz _ _) (hz _ _)]
  | year => simp [Mark.filled, yearDigits, Text.append_sep_inj (hz _ _) (hz _ _)]

theorem yearMonthMark_prefix_iff {mark : Mark} {rest : Text} (hk : takeMark? t = some (mark, rest))
    (hd : mark.isDropped rest = false) : yearMonthMark <+: t ↔ mark = .yearMonth := by
  cases mark with
  | week => simp [Mark.isDropped] at hd
  | yearMonth => simp [← (takeMark?_eq_yearMonth_iff.mp hk).2]
  | year => simp [(takeMark?_eq_year_iff.mp hk).2.1]

theorem resolve_of_not_asks (h : (ofToken filling token).asks = false) :
    resolve filling today token = resolve filling other token :=
  Dated.on_of_not_asks h today other

theorem resolve_strip_eq (today other : Date) (token : Text) :
    resolve .strip today token = resolve .strip other token := by
  apply resolve_of_not_asks
  simp [Bool.eq_false_iff, asks_ofToken_iff]

theorem resolve_eq_iff_of_asks (h : (ofToken filling token).asks = true) :
    resolve filling today token = resolve filling other token ↔
      today.year = other.year ∧
        (yearMonthMark <+: Token.canonical token → today.month = other.month) := by
  rw [ofToken, Dated.asks_map, asks_ofMark_iff] at h
  obtain ⟨rfl, mark, rest, hk, hd⟩ := h
  rw [yearMonthMark_prefix_iff hk hd]
  by_cases hne : rest = ['X', 'X']
  · -- `XXXX-XX` becomes the year alone.
    subst hne
    obtain rfl := Mark.eq_year_of_isDropped hd
    rw [resolve_substitute_of_no_month hk, resolve_substitute_of_no_month hk]
    simp [yearDigits]
  · rw [resolve_substitute_of_mark hk hd hne, resolve_substitute_of_mark hk hd hne,
      resolve_strip_eq today other, Resolution.mk.injEq,
      List.append_left_inj, filled_inj hd]
    simp

end
end Resolution

-- ---------------------------------------------------------------------------
-- Normalizations
-- ---------------------------------------------------------------------------

theorem Facet.filling_eq_strip_iff {facet : Facet} :
    facet.filling = .strip ↔ facet ≠ .localizedDate ∧ facet ≠ .localizedDateTime := by
  cases facet <;> simp [Facet.filling, Facet.needsFullDate]

/-- Two days are the same to a facet if it strips, or if they lie in one month of one year. -/
def Facet.Same (facet : Facet) (today other : Date) : Prop :=
  facet.filling = .strip ∨ today.year = other.year ∧ today.month = other.month

section
variable {facet : Facet} {today other : Date}

theorem resolve_eq_of_sameMonth (hy : today.year = other.year) (hm : today.month = other.month)
    (filling : Filling) (token : Text) :
    resolve filling today token = resolve filling other token := by
  cases h : (Resolution.ofToken filling token).asks with
  | false => exact Resolution.resolve_of_not_asks h
  | true => exact (Resolution.resolve_eq_iff_of_asks h).mpr ⟨hy, fun _ => hm⟩

theorem analyze_eq_of_same (h : facet.Same today other) (token : Text) :
    analyze facet.filling today token = analyze facet.filling other token := by
  unfold analyze
  rcases h with hf | ⟨hy, hm⟩
  · rw [hf, Resolution.resolve_strip_eq today other]
  · rw [resolve_eq_of_sameMonth hy hm]

variable [LocaleLibrary] (s : Settings)

theorem normalize_eq_of_same (h : facet.Same today other) (token : Text) :
    normalize s today token facet = normalize s other token facet := by
  rw [normalize, normalize, analyze_eq_of_same h]

theorem normalizeMany_eq_of_same (h : facet.Same today other) (tokens : List Text) :
    normalizeMany s today tokens facet = normalizeMany s other tokens facet := by
  rw [normalizeMany, normalizeMany, funext (normalize_eq_of_same s h)]

theorem combine_eq_of_same (h : facet.Same today other) (dateToken timeToken : Text) :
    combine s today dateToken timeToken facet = combine s other dateToken timeToken facet := by
  -- The time token is stripped for every facet.
  have ht : analyze .strip today timeToken = analyze .strip other timeToken := by
    rw [analyze, analyze, Resolution.resolve_strip_eq today other]
  rw [combine, combine, analyze_eq_of_same h, ht]

end

/-- Today's date is asked for exactly to fill in an unknown year. The answer matters through
its year, and through its month exactly if that is filled in too. Apart from the two facets
that show a year nothing depends on the day, and those depend on its year and its month. -/
theorem today_matters_to_fill_in [LocaleLibrary] (s : Settings) (filling : Filling)
    (facet : Facet) (token : Text) (today other : Date) :
    ((Resolution.ofToken filling token).asks = true ↔
      filling = .substitute ∧ Resolution.yearMark <+: Token.canonical token ∧
        ¬ Resolution.weekMark <:+: Token.canonical token ∧
        ¬ Resolution.yearMonthMark ++ ['X', 'X'] <+: Token.canonical token) ∧
    ((Resolution.ofToken filling token).asks = true →
      (resolve filling today token = resolve filling other token ↔
        today.year = other.year ∧
          (Resolution.yearMonthMark <+: Token.canonical token → today.month = other.month))) ∧
    (facet ≠ .localizedDate ∧ facet ≠ .localizedDateTime ∨
        today.year = other.year ∧ today.month = other.month →
      normalize s today token facet = normalize s other token facet ∧
      (∀ tokens, normalizeMany s today tokens facet = normalizeMany s other tokens facet) ∧
      ∀ dateToken timeToken,
        combine s today dateToken timeToken facet = combine s other dateToken timeToken facet) := by
  refine ⟨Resolution.asks_ofToken_iff, Resolution.resolve_eq_iff_of_asks, ?_⟩
  rw [← Facet.filling_eq_strip_iff]
  intro h
  exact ⟨normalize_eq_of_same s h token, normalizeMany_eq_of_same s h, combine_eq_of_same s h⟩

theorem fifteenth_of_this_month :
    (Resolution.ofToken .substitute "XXXX-XX-15".toList).asks = true ∧
      resolve .substitute exampleDay "XXXX-XX-15".toList =
        resolve .substitute ⟨2024, 5, 1, by decide, by decide, by decide⟩ "XXXX-XX-15".toList ∧
      resolve .substitute exampleDay "XXXX-XX-15".toList ≠
        resolve .substitute ⟨2024, 6, 20, by decide, by decide, by decide⟩ "XXXX-XX-15".toList ∧
      normalize Settings.default exampleDay "XXXX-XX-15".toList .zeroPaddedDay =
        normalize Settings.default ⟨1999, 12, 31, by decide, by decide, by decide⟩
          "XXXX-XX-15".toList .zeroPaddedDay := by
  have hasks : (Resolution.ofToken .substitute "XXXX-XX-15".toList).asks = true := rfl
  obtain ⟨-, hmay, -⟩ := today_matters_to_fill_in Settings.default .substitute .zeroPaddedDay
    "XXXX-XX-15".toList exampleDay ⟨2024, 5, 1, by decide, by decide, by decide⟩
  obtain ⟨-, hjune, -⟩ := today_matters_to_fill_in Settings.default .substitute .zeroPaddedDay
    "XXXX-XX-15".toList exampleDay ⟨2024, 6, 20, by decide, by decide, by decide⟩
  obtain ⟨-, -, hday⟩ := today_matters_to_fill_in Settings.default .substitute .zeroPaddedDay
    "XXXX-XX-15".toList exampleDay ⟨1999, 12, 31, by decide, by decide, by decide⟩
  refine ⟨hasks, (hmay hasks).mpr ⟨rfl, fun _ => rfl⟩, fun he => ?_, (hday (.inl (by decide))).1⟩
  exact absurd (((hjune hasks).mp he).2 (by decide)) (by decide)

end Timex
