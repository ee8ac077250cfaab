import Timex.Proofs.Resolution
import Timex.Proofs.Token.Unmarked

/-!
# Marks of spellings

A spelling is its unmarked text with a mark in front and perhaps a day mark behind it.
Resolution takes both out, and the markers tell which granularity the spelling has.
-/

namespace Timex

open Token (TimeSpelling shortNumber timePart)

-- ---------------------------------------------------------------------------
-- Texts without marks
-- ---------------------------------------------------------------------------

/-- A text without marks is resolved to itself, whatever the filling. -/
theorem Text.IsPlain.resolve {t : Text} (h : t.IsPlain) (filling : Filling) (today : Date) :
    resolve filling today t = ⟨t, Markers.none⟩ := by
  have hX : 'X' ∉ t := fun hm => by simpa using h _ hm
  have hW : 'W' ∉ t := fun hm => by simpa using h _ hm
  have hb : ∀ c ∈ t, Text.isBlank c = false := by
    intro c hc
    rcases h c hc with hd | rfl | rfl | rfl
    · exact Text.isBlank_of_isDigit hd
    all_goals rfl
  have hz : t.getLast? ≠ some 'Z' ∧ t.getLast? ≠ some 'z' :=
    ⟨fun hl => by simpa using h _ (List.mem_of_getLast? hl),
      fun hl => by simpa using h _ (List.mem_of_getLast? hl)⟩
  have hk : Resolution.takeMark? t = none :=
    Resolution.takeMark?_of_head hW fun hx => hX (List.mem_of_head? hx)
  rw [Resolution.resolve_eq, Token.canonical_eq_self hb hz, Resolution.unfinished, hk]
  exact Resolution.dropDayMark_of_not_mem hX Markers.none

-- ---------------------------------------------------------------------------
-- Marks of spellings
-- ---------------------------------------------------------------------------

namespace Resolution.Mark

def text : Mark → Text
  | .week => weekMark
  | .yearMonth => yearMonthMark
  | .year => yearMark

end Resolution.Mark

namespace Token.Spelling

open Resolution (Mark)

def mark? : Spelling → Option Mark
  | .monthDay .. | .month .. => some .year
  | .dayOfMonth .. => some .yearMonth
  | .weekday .. => some .week
  | _ => none

def isDayMarked : Spelling → Bool
  | .yearMonth _ marked | .month _ marked => marked
  | _ => false

/-- The text of the mark in front. -/
def front (s : Spelling) : Text := (s.mark?.map Mark.text).getD []

def markers (s : Spelling) : Markers :=
  let front := (s.mark?.map Mark.markers).getD Markers.none
  if s.isDayMarked then front.insert .unspecifiedDay else front

theorem text_eq (s : Spelling) : s.text = s.front ++ (s.unmarked ++ dayMarkIf s.isDayMarked) := by
  have hf : dayMarkIf false = [] := rfl
  cases s <;> simp [text, front, mark?, Mark.text, unmarked, isDayMarked, hf]

theorem isPlain_unmarked (s : Spelling) : s.unmarked.IsPlain := by
  have hz : ∀ w n, (Text.zeroPadded w n).IsPlain := fun w n =>
    .of_isDigits (Text.isDigits_zeroPadded w n)
  have hh : ∀ {t : Text}, t.IsPlain → Text.IsPlain ('-' :: t) := fun ht =>
    .append (t := ['-']) (fun c hc => by simp_all) ht
  cases s with
  | date d time => exact (((hz _ _).append (hh (hz _ _))).append (hh (hz _ _))).append (.timePart _)
  | yearMonth ym marked => exact (hz _ _).append (hh (hz _ _))
  | monthDay md time => exact ((hz _ _).append (hh (hz _ _))).append (.timePart _)
  | month m marked => exact hz _ _
  | dayOfMonth padded d => exact .of_isDigits (isDigits_shortNumber padded _)
  | weekday e time =>
    exact (Text.IsPlain.of_isDigits (Text.isDigits_decimal _)).append (.timePart _)
  | timeAlone τ => exact Text.IsPlain.timePart (some τ)
  | bareTime τ => exact .text τ

theorem not_mem_unmarked (s : Spelling) : 'X' ∉ s.unmarked ∧ 'W' ∉ s.unmarked :=
  ⟨fun h => by simpa using s.isPlain_unmarked _ h, fun h => by simpa using s.isPlain_unmarked _ h⟩

-- ---------------------------------------------------------------------------
-- Resolution
-- ---------------------------------------------------------------------------

theorem char_of_mem_text {s : Spelling} {c : Char} (h : c ∈ s.text) :
    c.isDigit = true ∨ c ∈ ['-', ':', 'T', 'X', 'W'] := by
  have hfront : s.front.all (['-', ':', 'T', 'X', 'W'].contains ·) = true := by
    unfold front
    cases s.mark? with
    | none => rfl
    | some mark => cases mark <;> rfl
  have hday : (dayMarkIf s.isDayMarked).all (['-', ':', 'T', 'X', 'W'].contains ·) = true := by
    cases s.isDayMarked <;> rfl
  rw [text_eq, List.mem_append, List.mem_append] at h
  rcases h with h | h | h
  · exact .inr (List.contains_iff_mem.mp (List.all_eq_true.mp hfront c h))
  · rcases s.isPlain_unmarked c h with hd | rfl | rfl | rfl
    · exact .inl hd
    · exact .inr (by simp)
    · exact .inr (by simp)
    · exact .inr (by simp)
  · exact .inr (List.contains_iff_mem.mp (List.all_eq_true.mp hday c h))

theorem canonical_text (s : Spelling) : canonical s.text = s.text := by
  have hmark : ['-', ':', 'T', 'X', 'W'].all (fun c => !Text.isBlank c) = true := rfl
  have hz : ∀ {c : Char}, c.isDigit = false → c ∉ ['-', ':', 'T', 'X', 'W'] →
      s.text.getLast? ≠ some c := by
    intro c hd hc h
    rcases char_of_mem_text (List.mem_of_getLast? h) with h | h
    · simp [hd] at h
    · exact hc h
  refine canonical_eq_self ?_ ⟨hz rfl (by simp), hz rfl (by simp)⟩
  intro c hc
  rcases char_of_mem_text hc with h | h
  · exact Text.isBlank_of_isDigit h
  · simpa using List.all_eq_true.mp hmark c h

theorem takeMark?_text (s : Spelling) :
    Resolution.takeMark? s.text =
      s.mark?.map fun mark => (mark, s.unmarked ++ dayMarkIf s.isDayMarked) := by
  have hW : 'W' ∉ s.unmarked ++ dayMarkIf s.isDayMarked := by
    cases s.isDayMarked <;> simp [s.not_mem_unmarked, dayMarkIf, Resolution.dayMark]
  have hX : (s.unmarked ++ dayMarkIf s.isDayMarked).head? ≠ some 'X' := by
    intro h
    cases hu : s.unmarked with
    | nil => cases hm : s.isDayMarked <;> simp [hu, hm, dayMarkIf, Resolution.dayMark] at h
    | cons c cs =>
      have hx := s.not_mem_unmarked.1
      simp [hu] at h hx
      exact hx.1 h.symm
  rw [text_eq, front]
  cases s.mark? with
  | none => exact Resolution.takeMark?_of_head hW hX
  | some mark =>
    cases mark with
    | week => exact Resolution.takeMark?_week _
    | yearMonth => exact Resolution.takeMark?_yearMonth hW
    | year => exact Resolution.takeMark?_year hW hX

/-- A spelling is resolved to its unmarked text and its markers. -/
theorem resolve_strip_text (s : Spelling) (today : Date) :
    resolve .strip today s.text = ⟨s.unmarked, s.markers⟩ := by
  have hweek : s.isDayMarked = true → ∀ mark, s.mark? = some mark →
      mark.markers.weekReference = false := by
    intro hm mark hk
    cases s with
    | month m marked =>
      obtain rfl := Option.some.inj hk
      rfl
    | yearMonth ym marked => simp [mark?] at hk
    | _ => simp [isDayMarked] at hm
  have hdrop : ∀ m : Markers, (s.isDayMarked = true → m.weekReference = false) →
      Resolution.dropDayMark ⟨s.unmarked ++ dayMarkIf s.isDayMarked, m⟩ =
        ⟨s.unmarked, if s.isDayMarked then m.insert .unspecifiedDay else m⟩ := by
    intro m hm
    cases hd : s.isDayMarked with
    | false =>
      rw [dayMarkIf, if_neg (by decide), List.append_nil]
      exact Resolution.dropDayMark_of_not_mem s.not_mem_unmarked.1 m
    | true => exact Resolution.dropDayMark_append _ (hm hd)
  rw [Resolution.resolve_eq, canonical_text, Resolution.unfinished, takeMark?_text]
  cases hk : s.mark? with
  | none =>
    have ht : s.text = s.unmarked ++ dayMarkIf s.isDayMarked := by
      rw [text_eq, front, hk]
      rfl
    simp only [Option.map_none, ht, hdrop Markers.none (fun _ => rfl), markers, hk]
    rfl
  | some mark =>
    simp only [Option.map_some, true_or, if_true, hdrop mark.markers (hweek · mark hk), markers, hk]
    rfl

theorem fits_markers (s : Spelling) : s.fits s.markers = true := by
  cases s with
  | monthDay md time => cases time <;> rfl
  | yearMonth ym marked => rfl
  | month m marked => cases marked <;> rfl
  | weekday e time => cases time <;> rfl
  | _ => rfl

end Token.Spelling

end Timex
