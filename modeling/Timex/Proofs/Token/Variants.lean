import Timex.Proofs.Resolution
import Timex.Proofs.Text.Split
import Timex.Proofs.Text.Trim

/-!
# Variants of a token

A date and a time may stand apart, with spaces between them, and a token may have blanks and the
designator of universal time around it. `canonical` makes one token of all these. Inside of a
token it changes nothing but the spaces between a date and a time.
-/

namespace Timex.Token

-- ---------------------------------------------------------------------------
-- Groups
-- ---------------------------------------------------------------------------

/-- A text without blanks that ends in a hyphen and one or two digits. -/
def IsDatePart (t : Text) : Prop :=
  ∃ front digits, front ≠ [] ∧ (∀ c ∈ front, Text.isBlank c = false) ∧
    isShortGroup digits = true ∧ t = front ++ '-' :: digits

/-- One to three groups of one or two digits, with colons between them. -/
def IsTimePart (t : Text) : Prop :=
  ∃ groups, groups ≠ [] ∧ groups.length ≤ 3 ∧ (∀ g ∈ groups, isShortGroup g = true) ∧
    t = Text.join ':' groups

theorem isShortGroup_iff {t : Text} :
    isShortGroup t = true ↔ (∀ c ∈ t, c.isDigit = true) ∧ (t.length = 1 ∨ t.length = 2) := by
  simp [isShortGroup]

theorem ne_nil_of_isShortGroup {t : Text} (h : isShortGroup t = true) : t ≠ [] := by
  rintro rfl
  simp [isShortGroup] at h

theorem endsInShortGroup_iff {t : Text} :
    endsInShortGroup t = true ↔
      ∃ front digits, front ≠ [] ∧ isShortGroup digits = true ∧ t = front ++ '-' :: digits := by
  constructor
  · intro h
    simp only [endsInShortGroup, Bool.and_eq_true, Bool.or_eq_true, beq_iff_eq] at h
    obtain ⟨hl, hm⟩ := h
    split at hm
    · rename_i c cs hd
      refine ⟨(c :: cs).reverse, (t.reverse.takeWhile Char.isDigit).reverse, by simp, ?_, ?_⟩
      · rw [isShortGroup_iff, List.length_reverse]
        exact ⟨fun d hd => List.mem_takeWhile_imp (List.mem_reverse.mp hd), hl⟩
      · have ht := List.takeWhile_append_dropWhile (p := Char.isDigit) (l := t.reverse)
        rw [hd] at ht
        calc t = t.reverse.reverse := (List.reverse_reverse t).symm
          _ = (t.reverse.takeWhile Char.isDigit ++ '-' :: c :: cs).reverse := by rw [ht]
          _ = _ := by simp
    · simp at hm
  · rintro ⟨front, digits, hne, hg, rfl⟩
    obtain ⟨hd, hl⟩ := isShortGroup_iff.mp hg
    have hd' : ∀ c ∈ digits.reverse, c.isDigit = true := fun c hc => hd c (List.mem_reverse.mp hc)
    have hr : (front ++ '-' :: digits).reverse = digits.reverse ++ '-' :: front.reverse := by simp
    have htake : (front ++ '-' :: digits).reverse.takeWhile Char.isDigit = digits.reverse := by
      rw [hr, List.takeWhile_append_of_pos hd']
      simp
    have hdrop :
        (front ++ '-' :: digits).reverse.dropWhile Char.isDigit = '-' :: front.reverse := by
      rw [hr, List.dropWhile_append_of_pos hd']
      simp
    obtain ⟨c, cs, hf⟩ := List.exists_cons_of_ne_nil (List.reverse_ne_nil_iff.mpr hne)
    simp only [endsInShortGroup, htake, hdrop, hf, List.length_reverse]
    simpa using hl

theorem isColonGroups_iff {t : Text} : isColonGroups t = true ↔ IsTimePart t := by
  constructor
  · intro h
    simp only [isColonGroups, Bool.and_eq_true, decide_eq_true_eq, List.all_eq_true] at h
    exact ⟨_, Text.split_ne_nil ':' t, h.1, h.2, (Text.join_split ':' t).symm⟩
  · rintro ⟨groups, hne, hl, hg, rfl⟩
    have hc : ∀ g ∈ groups, ':' ∉ g := by
      intro g hm hc
      exact absurd ((isShortGroup_iff.mp (hg g hm)).1 ':' hc) (by decide)
    simpa [isColonGroups, Text.split_join hne hc] using ⟨hl, hg⟩

theorem not_blank_of_isDatePart {t : Text} (h : IsDatePart t) : ∀ c ∈ t, Text.isBlank c = false := by
  obtain ⟨front, digits, -, hb, hg, rfl⟩ := h
  intro c hc
  rcases List.mem_append.mp hc with hc | hc
  · exact hb c hc
  · rcases List.mem_cons.mp hc with rfl | hc
    · decide
    · exact Text.isBlank_of_isDigit ((isShortGroup_iff.mp hg).1 c hc)

theorem ne_nil_of_isTimePart {t : Text} (h : IsTimePart t) : t ≠ [] := by
  obtain ⟨groups, hne, -, hg, rfl⟩ := h
  obtain ⟨g, gs, rfl⟩ := List.exists_cons_of_ne_nil hne
  cases gs with
  | nil => exact ne_nil_of_isShortGroup (hg g (by simp))
  | cons => simp [Text.join]

theorem char_of_isTimePart {t : Text} (h : IsTimePart t) {c : Char} (hc : c ∈ t) :
    c.isDigit = true ∨ c = ':' := by
  obtain ⟨groups, -, -, hg, rfl⟩ := h
  rcases Text.mem_join hc with rfl | ⟨g, hm, hc⟩
  · exact .inr rfl
  · exact .inl ((isShortGroup_iff.mp (hg g hm)).1 c hc)

theorem not_blank_of_isTimePart {t : Text} (h : IsTimePart t) {c : Char} (hc : c ∈ t) :
    Text.isBlank c = false := by
  rcases char_of_isTimePart h hc with hd | rfl
  · exact Text.isBlank_of_isDigit hd
  · decide

theorem not_zone_of_isTimePart {t : Text} (h : IsTimePart t) {c : Char} (hc : c ∈ t) :
    ¬ (c = 'Z' ∨ c = 'z') := by
  rintro (rfl | rfl) <;> exact absurd (char_of_isTimePart h hc) (by decide)

-- ---------------------------------------------------------------------------
-- A date and a time apart
-- ---------------------------------------------------------------------------

/-- A date and a time with spaces between them. -/
structure Apart where
  date : Text
  time : Text
  spaces : Nat
  date_part : IsDatePart date
  time_part : IsTimePart time
  spaces_pos : 1 ≤ spaces

namespace Apart

variable (a : Apart)

def text : Text := a.date ++ (List.replicate a.spaces ' ' ++ a.time)

/-- The date and the time in one. -/
def joined : Text := a.date ++ 'T' :: a.time

theorem joinDateAndTime_text : joinDateAndTime a.text = a.joined := by
  have hdate : ∀ c ∈ a.date, (!Text.isBlank c) = true := by
    intro c hc
    simp [not_blank_of_isDatePart a.date_part c hc]
  obtain ⟨n, hn⟩ : ∃ n, a.spaces = n + 1 := ⟨a.spaces - 1, by have := a.spaces_pos; omega⟩
  have htake : a.text.takeWhile (fun c => !Text.isBlank c) = a.date := by
    rw [text, List.takeWhile_append_of_pos hdate, hn, List.replicate_succ]
    simp [Text.isBlank, Text.isWhiteSpace]
  have hdrop : a.text.dropWhile (fun c => !Text.isBlank c) =
      List.replicate a.spaces ' ' ++ a.time := by
    rw [text, List.dropWhile_append_of_pos hdate, hn, List.replicate_succ]
    simp [Text.isBlank, Text.isWhiteSpace]
  have htime : (List.replicate a.spaces ' ' ++ a.time).dropWhile (· = ' ') = a.time := by
    rw [List.dropWhile_append_of_pos fun c hc => by simpa using List.eq_of_mem_replicate hc]
    refine Text.dropWhile_of_head fun c hc => ?_
    have hb := not_blank_of_isTimePart a.time_part (List.mem_of_head? hc)
    have hne : c ≠ ' ' := by
      rintro rfl
      exact absurd hb (by decide)
    simpa using hne
  have hends : endsInShortGroup a.date = true := by
    obtain ⟨front, digits, hne, -, hg, hd⟩ := a.date_part
    exact endsInShortGroup_iff.mpr ⟨front, digits, hne, hg, hd⟩
  have hhead : (List.replicate a.spaces ' ' ++ a.time).head? = some ' ' := by
    rw [hn, List.replicate_succ]
    rfl
  simp only [joinDateAndTime, htake, hdrop, htime, hends, hhead,
    isColonGroups_iff.mpr a.time_part, BEq.rfl, Bool.and_self, if_true, joined]

theorem mem_time_of_last_text {c : Char} (h : a.text.getLast? = some c) : c ∈ a.time := by
  rw [text, ← List.append_assoc,
    List.getLast?_append_of_ne_nil _ (ne_nil_of_isTimePart a.time_part)] at h
  exact List.mem_of_getLast? h

theorem mem_time_of_last_joined {c : Char} (h : a.joined.getLast? = some c) : c ∈ a.time := by
  obtain ⟨d, ds, he⟩ := List.exists_cons_of_ne_nil (ne_nil_of_isTimePart a.time_part)
  rw [joined, List.getLast?_append_of_ne_nil _ (by simp), he, List.getLast?_cons_cons, ← he] at h
  exact List.mem_of_getLast? h

theorem trimmed_text : Text.Trimmed Text.isBlank a.text where
  head c h := by
    obtain ⟨front, digits, hne, -, -, hd⟩ := a.date_part
    obtain ⟨d, ds, he⟩ := List.exists_cons_of_ne_nil (l := a.date) (by simp [hd])
    obtain rfl : d = c := by simpa [text, he] using h
    exact not_blank_of_isDatePart a.date_part d (by simp [he])
  last _ h := not_blank_of_isTimePart a.time_part (a.mem_time_of_last_text h)

theorem not_blank_of_mem_joined {c : Char} (h : c ∈ a.joined) : Text.isBlank c = false := by
  rcases List.mem_append.mp h with h | h
  · exact not_blank_of_isDatePart a.date_part c h
  · rcases List.mem_cons.mp h with rfl | h
    · decide
    · exact not_blank_of_isTimePart a.time_part h

end Apart

/-- Nothing but the spaces between a date and a time is changed. -/
theorem joinDateAndTime_cases (t : Text) :
    joinDateAndTime t = t ∨ ∃ a : Apart, t = a.text ∧ joinDateAndTime t = a.joined := by
  unfold joinDateAndTime
  simp only
  split
  · rename_i h
    simp only [Bool.and_eq_true, beq_iff_eq] at h
    obtain ⟨⟨hends, hhead⟩, htime⟩ := h
    have ht := List.takeWhile_append_dropWhile (p := fun c => !Text.isBlank c) (l := t)
    generalize hdate : t.takeWhile (fun c => !Text.isBlank c) = date at *
    generalize t.dropWhile (fun c => !Text.isBlank c) = rest at *
    have hrest := List.takeWhile_append_dropWhile (p := fun c => decide (c = ' ')) (l := rest)
    have hspaces : rest.takeWhile (fun c => decide (c = ' ')) =
        List.replicate (rest.takeWhile fun c => decide (c = ' ')).length ' ' := by
      refine List.eq_replicate_iff.mpr ⟨rfl, fun c hc => ?_⟩
      simpa using List.mem_takeWhile_imp hc
    obtain ⟨front, digits, hne, hg, hd⟩ := endsInShortGroup_iff.mp hends
    have hblank : ∀ c ∈ front, Text.isBlank c = false := by
      intro c hc
      have hc : c ∈ t.takeWhile fun c => !Text.isBlank c := by
        rw [hdate, hd]
        exact List.mem_append_left _ hc
      simpa using List.mem_takeWhile_imp hc
    have hpos : 1 ≤ (rest.takeWhile fun c => decide (c = ' ')).length := by
      cases rest with
      | nil => simp at hhead
      | cons c cs =>
        obtain rfl : c = ' ' := by simpa using hhead
        simp
    refine .inr ⟨⟨date, _, _, ⟨front, digits, hne, hblank, hg, hd⟩, isColonGroups_iff.mp htime,
      hpos⟩, ?_, rfl⟩
    rw [Apart.text, ← hspaces, hrest, ht]
  · exact .inl rfl

-- ---------------------------------------------------------------------------
-- What stands around a token
-- ---------------------------------------------------------------------------

/-- Blanks on both sides, and behind the token perhaps the designator of universal time. -/
structure Wrapping where
  before : Text
  gap : Text
  designator : Text
  after : Text
  before_blank : ∀ c ∈ before, Text.isBlank c = true
  gap_blank : ∀ c ∈ gap, Text.isBlank c = true
  designator_eq : designator = [] ∨ designator = ['Z'] ∨ designator = ['z']
  after_blank : ∀ c ∈ after, Text.isBlank c = true

/-- The token with what stands around it. -/
def Wrapping.wrap (x : Wrapping) (t : Text) : Text :=
  x.before ++ (t ++ (x.gap ++ (x.designator ++ x.after)))

theorem dropZoneDesignator_append {t : Text} {c : Char} (h : c = 'Z' ∨ c = 'z') :
    dropZoneDesignator (t ++ [c]) = Text.dropRightWhile Text.isBlank t := by
  simp only [dropZoneDesignator, List.getLast?_append, List.getLast?_singleton, Option.some_or,
    if_pos h, List.dropLast_concat]

/-- What is inside comes out, if it begins and ends with what is neither blank nor a designator. -/
theorem dropZoneDesignator_trim_wrap {t : Text} (ht : Text.Trimmed Text.isBlank t) (hne : t ≠ [])
    (hz : ∀ c, t.getLast? = some c → ¬ (c = 'Z' ∨ c = 'z')) (x : Wrapping) :
    dropZoneDesignator (Text.trim (x.wrap t)) = t := by
  have hd : ∀ z, x.designator = [z] → (z = 'Z' ∨ z = 'z') →
      dropZoneDesignator (Text.trim (x.wrap t)) = t := by
    intro z he hz
    have htz : Text.Trimmed Text.isBlank (t ++ x.gap ++ [z]) := by
      constructor
      · intro c hc
        obtain ⟨d, ds, rfl⟩ := List.exists_cons_of_ne_nil hne
        exact ht.head c (by simpa using hc)
      · intro c hc
        obtain rfl : z = c := by simpa using hc
        rcases hz with rfl | rfl <;> decide
    have hw : x.wrap t = x.before ++ ((t ++ x.gap ++ [z]) ++ x.after) := by
      simp [Wrapping.wrap, he]
    rw [hw, Text.trim, Text.trimBy_append htz x.before_blank x.after_blank,
      dropZoneDesignator_append hz, Text.dropRightWhile_append x.gap_blank,
      Text.dropRightWhile_of_last ht.last]
  rcases x.designator_eq with he | he | he
  · have hb : ∀ c ∈ x.gap ++ x.after, Text.isBlank c = true := by
      intro c hc
      rcases List.mem_append.mp hc with hc | hc
      · exact x.gap_blank c hc
      · exact x.after_blank c hc
    rw [Wrapping.wrap, he, List.nil_append, Text.trim, Text.trimBy_append ht x.before_blank hb,
      dropZoneDesignator_of_last hz]
  · exact hd 'Z' he (.inl rfl)
  · exact hd 'z' he (.inr rfl)

/-- Every token is what is left of it, with what was dropped around it. -/
theorem exists_wrapping (token : Text) :
    ∃ x : Wrapping, token = x.wrap (dropZoneDesignator (Text.trim token)) := by
  obtain ⟨u, w, hu, hw, he⟩ := Text.exists_trimBy Text.isBlank token
  change u ++ (Text.trim token ++ w) = token at he
  generalize Text.trim token = t at he
  unfold dropZoneDesignator
  split
  · rename_i c hc
    split
    · rename_i hz
      obtain ⟨v, hv, hd⟩ := Text.exists_dropRightWhile Text.isBlank t.dropLast
      have hz : [c] = [] ∨ [c] = ['Z'] ∨ [c] = ['z'] := by simpa using hz
      refine ⟨⟨u, v, [c], w, hu, hv, hz, hw⟩, ?_⟩
      have ht : t.dropLast ++ [c] = t := List.dropLast_append_getLast? c hc
      rw [Wrapping.wrap, ← List.append_assoc _ v, hd, ← List.append_assoc _ [c], ht, he]
    · exact ⟨⟨u, [], [], w, hu, nofun, .inl rfl, hw⟩, by simp [Wrapping.wrap, he]⟩
  · exact ⟨⟨u, [], [], w, hu, nofun, .inl rfl, hw⟩, by simp [Wrapping.wrap, he]⟩

-- ---------------------------------------------------------------------------
-- Canonical tokens
-- ---------------------------------------------------------------------------

theorem canonical_wrap_text (x : Wrapping) (a : Apart) : canonical (x.wrap a.text) = a.joined := by
  have hne : a.text ≠ [] := by
    simp [Apart.text, ne_nil_of_isTimePart a.time_part]
  have hz : ∀ c, a.text.getLast? = some c → ¬ (c = 'Z' ∨ c = 'z') := fun c h =>
    not_zone_of_isTimePart a.time_part (a.mem_time_of_last_text h)
  rw [canonical, dropZoneDesignator_trim_wrap a.trimmed_text hne hz, a.joinDateAndTime_text]

/-- A Sunday afternoon with the designator of universal time. -/
example : canonical " 2018-10-28 14:00:00 Z\n".toList = "2018-10-28T14:00:00".toList := by
  decide

theorem canonical_joined (a : Apart) : canonical a.joined = a.joined := by
  refine canonical_eq_self (fun _ => a.not_blank_of_mem_joined) ⟨fun h => ?_, fun h => ?_⟩
  · exact not_zone_of_isTimePart a.time_part (a.mem_time_of_last_joined h) (.inl rfl)
  · exact not_zone_of_isTimePart a.time_part (a.mem_time_of_last_joined h) (.inr rfl)

theorem canonical_cases (token : Text) :
    canonical token = dropZoneDesignator (Text.trim token) ∨
      ∃ a : Apart, dropZoneDesignator (Text.trim token) = a.text ∧ canonical token = a.joined :=
  joinDateAndTime_cases _

end Timex.Token
