import Timex.Proofs.Pattern.Tables

/-!
# Classes of shapes

A row of digit groups with hyphens between them, a single group and a time each have a
class of their own. A time behind a row of groups makes it a full one. Read the other way, a
class says of its texts what they are made of (`classify?_cases`).
-/

namespace Timex

open Token (TimeSpelling timePart)

-- ---------------------------------------------------------------------------
-- Plain texts
-- ---------------------------------------------------------------------------

/-- Text of a token without marks: digits, their separators and the designator of a time. -/
def Text.IsPlain (t : Text) : Prop := ∀ c ∈ t, c.isDigit = true ∨ c = '-' ∨ c = ':' ∨ c = 'T'

namespace Text.IsPlain

theorem append {t u : Text} (ht : IsPlain t) (hu : IsPlain u) : IsPlain (t ++ u) := by
  intro c hc
  rcases List.mem_append.mp hc with h | h
  · exact ht c h
  · exact hu c h

theorem of_isDigits {t : Text} (h : isDigits t = true) : IsPlain t :=
  fun _ hc => .inl (isDigit_of_mem h hc)

theorem join {gs : List Text} (h : ∀ g ∈ gs, isDigits g = true) : IsPlain (Text.join '-' gs) := by
  intro c hc
  rcases mem_join hc with he | ⟨g, hg, hc⟩
  · exact .inr (.inl he)
  · exact .inl (isDigit_of_mem (h g hg) hc)

theorem text (τ : TimeSpelling) : IsPlain τ.text := by
  intro c hc
  rcases TimeSpelling.char_of_mem_text hc with h | h
  · exact .inr (.inr (.inl h))
  · exact .inl h

theorem timePart (time : Option TimeSpelling) : IsPlain (timePart time) := by
  cases time with
  | none => intro c hc; simp [Token.timePart] at hc
  | some τ =>
    intro c hc
    rcases List.mem_cons.mp hc with rfl | hc
    · exact .inr (.inr (.inr rfl))
    · exact text τ c hc

theorem hasWildcard {t : Text} (h : IsPlain t) : Granularity.hasWildcard t = false := by
  have hX : 'X' ∉ t := fun hm => by simpa using h _ hm
  have hx : 'x' ∉ t := fun hm => by simpa using h _ hm
  simp [Granularity.hasWildcard, hX, hx]

end Text.IsPlain

namespace Granularity

-- ---------------------------------------------------------------------------
-- Rows of groups
-- ---------------------------------------------------------------------------

section
variable {gs : List Text} (hd : ∀ g ∈ gs, Text.isDigits g = true) (time : Option TimeSpelling)
include hd

theorem designator_not_mem_join : 'T' ∉ Text.join '-' gs := by
  intro h
  rcases Text.mem_join h with he | ⟨g, hg, hc⟩
  · simp at he
  · simpa using Text.isDigit_of_mem (hd g hg) hc

theorem hasTimeSign_join : hasTimeSign (Text.join '-' gs ++ timePart time) = time.isSome := by
  have hT := designator_not_mem_join hd
  have hc : ':' ∉ Text.join '-' gs := by
    intro h
    rcases Text.mem_join h with he | ⟨g, hg, hc⟩
    · simp at he
    · simpa using Text.isDigit_of_mem (hd g hg) hc
  cases time <;> simp [hasTimeSign, timePart, hT, hc]

theorem dateGroups_join (hne : gs ≠ []) : dateGroups (Text.join '-' gs ++ timePart time) = gs := by
  have hT := designator_not_mem_join hd
  have hcut : (Text.cut 'T' (Text.join '-' gs ++ timePart time)).1 = Text.join '-' gs := by
    cases time with
    | none => rw [timePart, List.append_nil, Text.cut_of_not_mem hT]
    | some τ => rw [timePart, Text.cut_append hT]
  rw [dateGroups, hcut]
  exact Text.split_join hne fun g hg => Text.not_mem_of_isDigits (hd g hg) (by simp)

/-- The class of two or more groups is decided by their number, by the time and by the
length of the first one. -/
theorem classify?_join (h2 : 2 ≤ gs.length) (m : Markers) :
    classify? (Text.join '-' gs ++ timePart time) m = ofGroups? m time.isSome gs := by
  obtain ⟨g, g', gs, rfl⟩ : ∃ g g' gs', gs = g :: g' :: gs' := by
    match gs, h2 with
    | g :: g' :: gs', _ => exact ⟨g, g', gs', rfl⟩
  have hne : Text.join '-' (g :: g' :: gs) ++ timePart time ≠ [] := by
    simp [Text.join]
  have hw := ((Text.IsPlain.join hd).append (.timePart time)).hasWildcard
  have hh : '-' ∈ Text.join '-' (g :: g' :: gs) ++ timePart time := by
    simp [Text.join]
  have hs := hasTimeSign_join hd time
  have hg := dateGroups_join hd time (List.cons_ne_nil _ _)
  simp [classify?, hne, hw, hh, hs, hg]

end

section
variable {a b c : Text} (ha : Text.isDigits a = true) (hb : Text.isDigits b = true)
include ha hb

theorem classify?_pair (time : Option TimeSpelling) (m : Markers) :
    classify? (a ++ '-' :: b ++ timePart time) m =
      if time.isSome then some .fullDateTime
      else if m.unspecifiedYear && a.length != 4 then some .monthDay
      else some .yearMonth := by
  have hd : ∀ g ∈ [a, b], Text.isDigits g = true := by simp [ha, hb]
  have hc := classify?_join hd time (Nat.le_refl 2) m
  rw [ofGroups?, List.all_eq_true.mpr hd] at hc
  exact hc

theorem classify?_triple (hc : Text.isDigits c = true) (time : Option TimeSpelling) (m : Markers) :
    classify? (a ++ '-' :: b ++ '-' :: c ++ timePart time) m =
      if time.isSome then some .fullDateTime else some .dateOnly := by
  have hd : ∀ g ∈ [a, b, c], Text.isDigits g = true := by simp [ha, hb, hc]
  have hj : Text.join '-' [a, b, c] = a ++ '-' :: b ++ '-' :: c := by simp [Text.join]
  have hs := classify?_join hd time (Nat.le_succ 2) m
  rw [hj, ofGroups?, List.all_eq_true.mpr hd] at hs
  exact hs

end

-- ---------------------------------------------------------------------------
-- Single groups and times
-- ---------------------------------------------------------------------------

theorem classify?_of_not_mem {t : Text} (hne : t ≠ []) (hp : t.IsPlain) (hh : '-' ∉ t)
    (m : Markers) : classify? t m = ofSingle? m t := by
  simp [classify?, hne, hp.hasWildcard, hh]

theorem ofSingle?_of_isDigits {t : Text} (h : Text.isDigits t = true) (m : Markers) :
    ofSingle? m t =
      if m.unspecifiedYear && !m.unspecifiedMonth && t.length == 2 then some .monthOnly
      else if m.unspecifiedYear && m.unspecifiedMonth then some .dayOfMonth
      else if m.weekReference then some .weekdayOnly
      else none := by
  have hT : 'T' ∉ t := Text.not_mem_of_isDigits h rfl
  have hc : ':' ∉ t := Text.not_mem_of_isDigits h rfl
  simp [ofSingle?, h, hasTimeSign, hT, hc]

theorem ofSingle?_of_not_isDigits {t : Text} (h : Text.isDigits t = false) (m : Markers) :
    ofSingle? m t =
      if m.weekReference then some .weekdayOnly
      else if hasTimeSign t && isTimeShape t then some .timeOnly
      else none := by
  simp [ofSingle?, h]

theorem isDigits_eq_false {t : Text} {c : Char} (hm : c ∈ t) (hc : c.isDigit = false) :
    Text.isDigits t = false := by
  cases h : Text.isDigits t with
  | false => rfl
  | true => exact absurd hm (Text.not_mem_of_isDigits h hc)

theorem exists_text_eq_cons (τ : TimeSpelling) :
    ∃ c cs, τ.text = c :: cs ∧ c.isDigit = true := by
  have hs : ∀ padded n, ∃ c cs, Token.shortNumber padded n = c :: cs ∧ c.isDigit = true := by
    intro padded n
    have hd := Token.isDigits_shortNumber padded n
    cases h : Token.shortNumber padded n with
    | nil => simp [h, Text.isDigits] at hd
    | cons c cs => exact ⟨c, cs, rfl, Text.isDigit_of_mem hd (by simp [h])⟩
  cases τ with
  | hour padded h => exact hs padded h
  | minute padded h m =>
    obtain ⟨c, cs, he, hc⟩ := hs padded h
    exact ⟨c, _, by rw [TimeSpelling.text, he]; rfl, hc⟩
  | second padded h m s =>
    obtain ⟨c, cs, he, hc⟩ := hs padded h
    exact ⟨c, _, by rw [TimeSpelling.text, he]; rfl, hc⟩

/-- A digit, then digits and colons. -/
theorem isTimeShape_cons {c : Char} (hc : c ≠ 'T') (cs : Text) :
    isTimeShape (c :: cs) = (c.isDigit && cs.all fun d => d.isDigit || d == ':') := by
  rw [isTimeShape.eq_def]
  split
  · rename_i he
    exact absurd (List.cons.inj he).1 hc
  · rfl

theorem isTimeShape_text (τ : TimeSpelling) :
    isTimeShape τ.text = true ∧ isTimeShape (timePart (some τ)) = true := by
  obtain ⟨c, cs, he, hc⟩ := exists_text_eq_cons τ
  have hT : c ≠ 'T' := by
    rintro rfl
    simp at hc
  have hcs : ∀ x ∈ cs, x.isDigit || x == ':' := by
    intro x hx
    have hm : x ∈ τ.text := by simp [he, hx]
    rcases TimeSpelling.char_of_mem_text hm with h | h <;> simp [h]
  have hall := List.all_eq_true.mpr hcs
  constructor
  · rw [he, isTimeShape_cons hT]
    simp [hc, hall]
  · simp [timePart, he, isTimeShape, hc, hall]

theorem hasTimeSign_text_iff {τ : TimeSpelling} :
    hasTimeSign τ.text = true ↔ τ.hasMinute = true := by
  rw [← TimeSpelling.colon_mem_text_iff]
  simp [hasTimeSign, τ.designator_not_mem_text]

-- ---------------------------------------------------------------------------
-- What a class says of its texts
-- ---------------------------------------------------------------------------

/-- The classes of rows of digit groups. -/
def isRow : Granularity → Bool
  | .fullDateTime | .dateOnly | .yearMonth | .monthDay => true
  | _ => false

section
variable {t : Text} {m : Markers} {g : Granularity}

theorem ofGroups?_cases {timed : Bool} {gs : List Text} (h : ofGroups? m timed gs = some g) :
    (∀ d ∈ gs, Text.isDigits d = true) ∧ g.isRow = true ∧ (g = .fullDateTime ↔ timed = true) := by
  unfold ofGroups? at h
  split at h
  · simp at h
  · rename_i hall
    refine ⟨by simpa using hall, ?_⟩
    split at h
    · rename_i htimed
      obtain rfl := Option.some.inj h
      exact ⟨rfl, by simp [htimed]⟩
    · rename_i htimed
      repeat' split at h
      all_goals cases h
      all_goals exact ⟨rfl, by simp [htimed]⟩

theorem ofSingle?_cases (h : ofSingle? m t = some g) :
    g.isRow = false ∧ (g.hasTimePart = true ∨ Text.isDigits t = true) ∧
      (g = .timeOnly → hasTimeSign t = true) := by
  unfold ofSingle? at h
  repeat' split at h
  all_goals cases h
  all_goals simp_all [isRow, hasTimePart]

/-- Digit groups hold no colon, so the sign of a time beside them is a `T`. -/
theorem designator_mem_of_hasTimeSign (hd : ∀ d ∈ dateGroups t, Text.isDigits d = true)
    (h : hasTimeSign t = true) : 'T' ∈ t := by
  by_contra hT
  have hgroups : dateGroups t = Text.split '-' t := by rw [dateGroups, Text.cut_of_not_mem hT]
  rw [hgroups] at hd
  have hno := hasTimeSign_join hd none
  rw [timePart, List.append_nil, Text.join_split, h] at hno
  simp at hno

theorem hasTimeSign_of_designator_mem (h : 'T' ∈ t) : hasTimeSign t = true := by
  simp [hasTimeSign, h]

theorem classify?_cases (h : classify? t m = some g) :
    g.isRow = true ∧ (∀ d ∈ dateGroups t, Text.isDigits d = true) ∧
        (g = .fullDateTime ↔ 'T' ∈ t) ∨
      g.isRow = false ∧ (g.hasTimePart = true ∨ 'T' ∉ t) ∧
        (g = .timeOnly → hasTimeSign t = true) := by
  unfold classify? at h
  split at h
  · simp at h
  · split at h
    · obtain ⟨hd, hrow, htimed⟩ := ofGroups?_cases h
      have hT : hasTimeSign t = true ↔ 'T' ∈ t :=
        ⟨designator_mem_of_hasTimeSign hd, hasTimeSign_of_designator_mem⟩
      exact .inl ⟨hrow, hd, htimed.trans hT⟩
    · obtain ⟨hrow, hpart, hsign⟩ := ofSingle?_cases h
      exact .inr ⟨hrow, hpart.imp_right fun hdigits => Text.not_mem_of_isDigits hdigits rfl, hsign⟩

/-- Only text with the sign of a time is a time alone. -/
theorem hasTimeSign_of_classify? (h : classify? t m = some .timeOnly) : hasTimeSign t = true := by
  rcases classify?_cases h with ⟨hrow, -⟩ | ⟨-, -, hsign⟩
  · simp [isRow] at hrow
  · exact hsign rfl

end

end Granularity
end Timex
