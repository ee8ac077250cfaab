import Timex.Proofs.Pattern.Written
import Timex.Temporal.Reading
import Timex.Token.Spelling

/-!
# What the tables read

The time table reads the times of day in every spelling that a token may have, once the
minutes that an hour alone lacks are there. The date tables read their own numbers.
-/

namespace Timex

open Token (shortNumber TimeSpelling)

namespace Token

theorem isDigits_shortNumber (padded : Bool) (n : Nat) :
    Text.isDigits (shortNumber padded n) = true := by
  cases padded
  · exact Text.isDigits_decimal n
  · exact Text.isDigits_zeroPadded 2 n

@[simp] theorem toNumber_shortNumber (padded : Bool) (n : Nat) :
    Text.toNumber (shortNumber padded n) = n := by
  cases padded <;> simp [shortNumber]

end Token

namespace Pattern

/-- The numeral of an hour. -/
def hourOf (padded : Bool) : Numeral := if padded then paddedHour else unpaddedHour

@[simp] theorem spell_hourOf (padded : Bool) (h : Nat) :
    (hourOf padded).spell h = shortNumber padded h := by
  cases padded <;> rfl

@[simp] theorem field_hourOf (padded : Bool) : (hourOf padded).field = .hour := by
  cases padded <;> rfl

@[simp] theorem field_minute : minute.field = .minute := rfl

@[simp] theorem field_second : second.field = .second := rfl

@[simp] theorem spell_minute (m : Nat) : minute.spell m = Text.zeroPadded 2 m := rfl

@[simp] theorem spell_second (s : Nat) : second.spell s = Text.zeroPadded 2 s := rfl

theorem admits_hourOf {padded : Bool} {h : Nat} : (hourOf padded).Admits h ↔ h < 24 := by
  cases padded <;> simp [hourOf, paddedHour, unpaddedHour, Numeral.Admits] <;> omega

theorem admits_minute {m : Nat} : minute.Admits m ↔ m < 60 := by
  simp [minute, Numeral.Admits]
  omega

theorem admits_second {s : Nat} : second.Admits s ↔ s < 60 := by
  simp [second, Numeral.Admits]
  omega

-- ---------------------------------------------------------------------------
-- Laws of the tables
-- ---------------------------------------------------------------------------

theorem lawful_of_mem_times {p : Pattern} (h : p ∈ times) : p.Lawful := by
  have hs : ∀ p ∈ times, p.separator.isDigit = false ∧ p.numerals ≠ [] ∧
      ∀ n ∈ p.numerals, n.Roomy := by decide
  obtain ⟨h1, h2, h3⟩ := hs p h
  exact ⟨h1, h2, h3⟩

theorem lawful_of_mem_dates {g : Granularity} {p : Pattern} (h : p ∈ dates g) : p.Lawful := by
  have hs : ∀ p ∈ dates g, p.separator.isDigit = false ∧ p.numerals ≠ [] ∧
      ∀ n ∈ p.numerals, n.Roomy := by
    cases g <;> decide
  obtain ⟨h1, h2, h3⟩ := hs p h
  exact ⟨h1, h2, h3⟩

theorem agrees_of_mem_times : ∀ p ∈ times, ∀ q ∈ times, p.Agrees q := by decide

theorem agrees_of_mem_dates (g : Granularity) : ∀ p ∈ dates g, ∀ q ∈ dates g, p.Agrees q := by
  cases g <;> decide

/-- Twins of the two clocks have the same numerals. -/
theorem numerals_of_mem_times {p : Pattern} (h : p ∈ times) :
    p.separator = ':' ∧ ∃ padded, p.numerals = [hourOf padded, minute, second] ∨
      p.numerals = [hourOf padded, minute] ∨ p.numerals = [hourOf padded] := by
  have hs : ∀ p ∈ times, p.separator = ':' ∧ ∃ padded,
      p.numerals = [hourOf padded, minute, second] ∨
        p.numerals = [hourOf padded, minute] ∨ p.numerals = [hourOf padded] := by decide
  exact hs p h

end Pattern

-- ---------------------------------------------------------------------------
-- Missing minutes
-- ---------------------------------------------------------------------------

theorem addMissingMinutes_of_mem {t : Text} (h : ':' ∈ t) : addMissingMinutes t = t := by
  simp [addMissingMinutes, h]

theorem addMissingMinutes_of_not_mem {t : Text} (hne : t ≠ []) (h : ':' ∉ t) :
    addMissingMinutes t = t ++ [':', '0', '0'] := by
  simp [addMissingMinutes, hne, h]

/-- The groups are those of the text, or the text is one group and its minutes are added. -/
theorem groups_of_addMissingMinutes {t : Text} {gs : List Text}
    (h : gs = Text.split ':' (addMissingMinutes t)) :
    (t = Text.join ':' gs ∧ (t = [] ∨ ':' ∈ t)) ∨ gs = [t, Text.zeroPadded 2 0] := by
  subst h
  by_cases hne : t = []
  · subst hne
    exact .inl ⟨rfl, .inl rfl⟩
  · by_cases h : ':' ∈ t
    · rw [addMissingMinutes_of_mem h, Text.join_split]
      exact .inl ⟨rfl, .inr h⟩
    · rw [addMissingMinutes_of_not_mem hne h, Text.split_append h]
      exact .inr rfl

-- ---------------------------------------------------------------------------
-- Times of day
-- ---------------------------------------------------------------------------

namespace Token.TimeSpelling

/-- What the time table reads. An hour alone has its minutes by then. -/
def captures : TimeSpelling → Captures
  | .hour padded h => [(.hour, shortNumber padded h), (.minute, Text.zeroPadded 2 0)]
  | .minute padded h m => [(.hour, shortNumber padded h), (.minute, Text.zeroPadded 2 m)]
  | .second padded h m s =>
    [(.hour, shortNumber padded h), (.minute, Text.zeroPadded 2 m),
     (.second, Text.zeroPadded 2 s)]

/-- What the time table reads, with or without the minutes of an hour alone. -/
def capturesAs (synthesize : Bool) (τ : TimeSpelling) : Captures :=
  if synthesize || τ.hasMinute then τ.captures else [(.hour, τ.text)]

/-- Sets the time of a value. An hour alone has no minute unless that is synthesized. -/
def setAs (synthesize : Bool) (v : Temporal) (τ : TimeSpelling) : Temporal :=
  if synthesize || τ.hasMinute then τ.setOn v else { τ.setOn v with minute := none }

theorem colon_not_mem_shortNumber (padded : Bool) (n : Nat) : ':' ∉ shortNumber padded n :=
  Text.not_mem_of_isDigits (isDigits_shortNumber padded n) rfl

theorem char_of_mem_text {τ : TimeSpelling} {c : Char} (h : c ∈ τ.text) :
    c = ':' ∨ c.isDigit = true := by
  have hs : ∀ {padded n}, c ∈ shortNumber padded n → c.isDigit = true := fun hc =>
    Text.isDigit_of_mem (isDigits_shortNumber _ _) hc
  have hp : ∀ {k}, c ∈ Text.zeroPadded 2 k → c.isDigit = true := fun hc =>
    Text.isDigit_of_mem (Text.isDigits_zeroPadded 2 _) hc
  cases τ with
  | hour padded h' => exact .inr (hs h)
  | minute padded h' m =>
    simp only [text, List.mem_append, List.mem_cons] at h
    rcases h with h | h | h
    · exact .inr (hs h)
    · exact .inl h
    · exact .inr (hp h)
  | second padded h' m s =>
    simp only [text, List.mem_append, List.mem_cons] at h
    rcases h with (h | h | h) | h | h
    · exact .inr (hs h)
    · exact .inl h
    · exact .inr (hp h)
    · exact .inl h
    · exact .inr (hp h)

theorem designator_not_mem_text (τ : TimeSpelling) : 'T' ∉ τ.text := by
  intro h
  rcases char_of_mem_text h with h | h <;> simp at h

/-- Colons stand between the numbers of a time, so an hour alone has none. -/
theorem colon_mem_text_iff {τ : TimeSpelling} : ':' ∈ τ.text ↔ τ.hasMinute = true := by
  cases τ with
  | hour padded h => simp [text, hasMinute, colon_not_mem_shortNumber]
  | minute padded h m => simp [text, hasMinute]
  | second padded h m s => simp [text, hasMinute]

theorem addMissingMinutes_text (τ : TimeSpelling) :
    addMissingMinutes τ.text = Text.join ':' (τ.captures.map Prod.snd) := by
  cases τ with
  | hour padded h =>
    have hne := (Text.isDigits_iff.mp (isDigits_shortNumber padded h)).1
    exact addMissingMinutes_of_not_mem hne (colon_not_mem_shortNumber padded h)
  | minute padded h m =>
    rw [addMissingMinutes_of_mem (by simp [text])]
    rfl
  | second padded h m s =>
    rw [addMissingMinutes_of_mem (by simp [text])]
    simp [text, captures, Text.join]

end Token.TimeSpelling

namespace Token

/-- Sets the time of a value, if there is one, with or without the minutes of an hour alone. -/
def withTimePartAs (synthesize : Bool) (v : Temporal) : Option TimeSpelling → Temporal
  | none => v
  | some τ => τ.setAs synthesize v

@[simp] theorem withTimePartAs_true (v : Temporal) (time : Option TimeSpelling) :
    withTimePartAs true v time = withTimePart v time := by
  cases time <;> rfl

end Token

namespace Pattern

/-- No text is left without minutes, so a pattern of an hour alone reads none. -/
theorem read?_addMissingMinutes_of_hour {p : Pattern} (hp : p ∈ times) {padded : Bool}
    (hn : p.numerals = [hourOf padded]) (t : Text) : p.read? (addMissingMinutes t) = none := by
  cases h : p.read? (addMissingMinutes t) with
  | none => rfl
  | some c =>
    rw [read?, (numerals_of_mem_times hp).1] at h
    obtain ⟨ks, hk, hg, -⟩ := (align?_eq_some_iff (lawful_of_mem_times hp).roomy).mp h
    rw [hn] at hk hg
    simp only [List.forall₂_cons_left_iff, List.forall₂_nil_left_iff] at hk
    obtain ⟨hh, _, -, rfl, rfl⟩ := hk
    rcases groups_of_addMissingMinutes hg with ⟨ht, hm⟩ | hgs
    · simp only [List.zipWith_cons_cons, List.zipWith_nil_left, spell_hourOf, Text.join] at ht
      subst ht
      rcases hm with hm | hm
      · exact absurd hm (Text.isDigits_iff.mp (Token.isDigits_shortNumber padded hh)).1
      · exact absurd hm (TimeSpelling.colon_not_mem_shortNumber padded hh)
    · simp at hgs

/-- A pattern of the time table reads spelled times of day alone. -/
theorem spelled_of_read? {p : Pattern} {t : Text} {c : Captures} (hp : p ∈ times)
    (h : p.read? (addMissingMinutes t) = some c) :
    ∃ τ : TimeSpelling, τ.text = t ∧ τ.captures = c := by
  obtain ⟨hsep, padded, hn⟩ := numerals_of_mem_times hp
  have hread := h
  rw [read?, hsep] at h
  obtain ⟨ks, hk, hg, hc⟩ := (align?_eq_some_iff (lawful_of_mem_times hp).roomy).mp h
  have hgroups := groups_of_addMissingMinutes hg
  rcases hn with hn | hn | hn
  · -- Three groups: the text had its minutes.
    rw [hn] at hk hgroups hc
    simp only [List.forall₂_cons_left_iff, List.forall₂_nil_left_iff] at hk
    obtain ⟨hh, _, hk1, ⟨mm, _, hk2, ⟨ss, _, hk3, rfl, rfl⟩, rfl⟩, rfl⟩ := hk
    rcases hgroups with ⟨ht, -⟩ | hgs
    · refine ⟨.second padded ⟨hh, admits_hourOf.mp hk1⟩ ⟨mm, admits_minute.mp hk2⟩
        ⟨ss, admits_second.mp hk3⟩, ?_, ?_⟩
      · rw [ht]
        simp [TimeSpelling.text, Text.join]
      · simp [← hc, TimeSpelling.captures]
    · simp at hgs
  · -- Two groups: an hour with its minutes, or an hour alone.
    rw [hn] at hk hgroups hc
    simp only [List.forall₂_cons_left_iff, List.forall₂_nil_left_iff] at hk
    obtain ⟨hh, _, hk1, ⟨mm, _, hk2, rfl, rfl⟩, rfl⟩ := hk
    rcases hgroups with ⟨ht, -⟩ | hgs
    · refine ⟨.minute padded ⟨hh, admits_hourOf.mp hk1⟩ ⟨mm, admits_minute.mp hk2⟩, ?_, ?_⟩
      · rw [ht]
        simp [TimeSpelling.text, Text.join]
      · simp [← hc, TimeSpelling.captures]
    · simp only [List.zipWith_cons_cons, List.zipWith_nil_left, List.cons.injEq, and_true] at hgs
      obtain ⟨ht, hm⟩ := hgs
      have hm0 : mm = 0 := by
        have := congrArg Text.toNumber hm
        rwa [spell_minute, Text.toNumber_zeroPadded] at this
      subst hm0
      refine ⟨.hour padded ⟨hh, admits_hourOf.mp hk1⟩, ?_, ?_⟩
      · rw [← ht, spell_hourOf]
        rfl
      · simp [← hc, TimeSpelling.captures]
  · rw [read?_addMissingMinutes_of_hour hp hn] at hread
    simp at hread

/-- Every spelled time of day is read by a pattern of the time table. -/
theorem exists_read?_text (τ : TimeSpelling) :
    ∃ p ∈ times, p.read? (addMissingMinutes τ.text) = some τ.captures := by
  have h2 : ∀ padded, ∃ p ∈ times, p.separator = ':' ∧ p.numerals = [hourOf padded, minute] := by
    decide
  have h3 : ∀ padded, ∃ p ∈ times, p.separator = ':' ∧
      p.numerals = [hourOf padded, minute, second] := by decide
  rw [TimeSpelling.addMissingMinutes_text]
  cases τ with
  | hour padded h =>
    obtain ⟨p, hp, hsep, hn⟩ := h2 padded
    refine ⟨p, hp, (read?_eq_some_iff (lawful_of_mem_times hp)).mpr ⟨[h, 0], ?_, ?_, ?_⟩⟩
    · rw [hn]
      exact .cons (admits_hourOf.mpr h.isLt) (.cons (admits_minute.mpr (by omega)) .nil)
    · simp [write, hsep, hn, TimeSpelling.captures]
    · simp [capturesOf, hn, TimeSpelling.captures]
  | minute padded h m =>
    obtain ⟨p, hp, hsep, hn⟩ := h2 padded
    refine ⟨p, hp, (read?_eq_some_iff (lawful_of_mem_times hp)).mpr ⟨[h, m], ?_, ?_, ?_⟩⟩
    · rw [hn]
      exact .cons (admits_hourOf.mpr h.isLt) (.cons (admits_minute.mpr m.isLt) .nil)
    · simp [write, hsep, hn, TimeSpelling.captures]
    · simp [capturesOf, hn, TimeSpelling.captures]
  | second padded h m s =>
    obtain ⟨p, hp, hsep, hn⟩ := h3 padded
    refine ⟨p, hp, (read?_eq_some_iff (lawful_of_mem_times hp)).mpr ⟨[h, m, s], ?_, ?_, ?_⟩⟩
    · rw [hn]
      exact .cons (admits_hourOf.mpr h.isLt)
        (.cons (admits_minute.mpr m.isLt) (.cons (admits_second.mpr s.isLt) .nil))
    · simp [write, hsep, hn, TimeSpelling.captures]
    · simp [capturesOf, hn, TimeSpelling.captures]

/-- The time table reads the spelled times of day and nothing else. -/
theorem findSome?_times_eq_some_iff {t : Text} {c : Captures} :
    times.findSome? (·.read? (addMissingMinutes t)) = some c ↔
      ∃ τ : TimeSpelling, τ.text = t ∧ τ.captures = c := by
  rw [findSome?_read?_eq_some_iff agrees_of_mem_times]
  constructor
  · rintro ⟨p, hp, hr⟩
    exact spelled_of_read? hp hr
  · rintro ⟨τ, rfl, rfl⟩
    exact exists_read?_text τ

-- ---------------------------------------------------------------------------
-- Times as they are written
-- ---------------------------------------------------------------------------

/-- Without colons a text is one group, which patterns of an hour alone read. -/
theorem exists_hour_of_read? {p : Pattern} {t : Text} {c : Captures} (hp : p ∈ times)
    (hcolon : ':' ∉ t) (h : p.read? t = some c) :
    ∃ padded hour, (TimeSpelling.hour padded hour).text = t ∧ c = [(.hour, t)] := by
  obtain ⟨hsep, padded, hn⟩ := numerals_of_mem_times hp
  rw [read?, hsep, Text.split_of_not_mem hcolon] at h
  rcases hn with hn | hn | hn
  · simp [hn, align?] at h
  · simp [hn, align?] at h
  · have hroomy := (lawful_of_mem_times hp).roomy
    rw [hn] at h hroomy
    simp only [align?] at h
    split at h
    · rename_i ha
      obtain ⟨k, hk, rfl⟩ := (Numeral.accepts_iff (hroomy _ (by simp))).mp ha
      refine ⟨padded, ⟨k, admits_hourOf.mp hk⟩, (spell_hourOf padded k).symm, ?_⟩
      simpa using h.symm
    · simp at h

theorem exists_read?_hour (padded : Bool) (h : Fin 24) :
    ∃ p ∈ times, p.read? (shortNumber padded h) = some [(.hour, shortNumber padded h)] := by
  have h1 : ∀ padded, ∃ p ∈ times, p.separator = ':' ∧ p.numerals = [hourOf padded] := by
    decide
  obtain ⟨p, hp, hsep, hn⟩ := h1 padded
  refine ⟨p, hp, (read?_eq_some_iff (lawful_of_mem_times hp)).mpr ⟨[h], ?_, ?_, ?_⟩⟩
  · rw [hn]
    exact .cons (admits_hourOf.mpr h.isLt) .nil
  · simp [write, hn, Text.join]
  · simp [capturesOf, hn]

/-- Without minutes added the time table reads the same times of day. -/
theorem findSome?_times_written_iff {t : Text} {c : Captures} :
    times.findSome? (·.read? t) = some c ↔
      ∃ τ : TimeSpelling, τ.text = t ∧ τ.capturesAs false = c := by
  by_cases hcolon : ':' ∈ t
  · -- The minutes are there, so adding them changes nothing.
    have ht := addMissingMinutes_of_mem hcolon
    have hsame : ∀ τ : TimeSpelling, τ.text = t → τ.capturesAs false = τ.captures := by
      rintro τ rfl
      exact if_pos (TimeSpelling.colon_mem_text_iff.mp hcolon)
    rw [← ht, findSome?_times_eq_some_iff, ht]
    constructor
    · rintro ⟨τ, hτ, rfl⟩
      exact ⟨τ, hτ, hsame τ hτ⟩
    · rintro ⟨τ, hτ, rfl⟩
      exact ⟨τ, hτ, (hsame τ hτ).symm⟩
  · rw [findSome?_read?_eq_some_iff agrees_of_mem_times]
    constructor
    · rintro ⟨p, hp, hr⟩
      obtain ⟨padded, hour, rfl, rfl⟩ := exists_hour_of_read? hp hcolon hr
      exact ⟨.hour padded hour, rfl, rfl⟩
    · rintro ⟨τ, rfl, rfl⟩
      cases τ with
      | hour padded h => exact exists_read?_hour padded h
      | minute => exact absurd (TimeSpelling.colon_mem_text_iff.mpr rfl) hcolon
      | second => exact absurd (TimeSpelling.colon_mem_text_iff.mpr rfl) hcolon

end Pattern
end Timex
