import Timex.Proofs.Pattern.Tables

/-!
# What a reading reads

A text with a date part is read if it is a date that its table reads, with a spelled time
of day after a `T` where the granularity takes one. The time only adds to the value of
the date. A time alone is a spelled time of day, with or without the `T`. All this holds
whether the minutes of an hour alone are synthesized or not.
-/

namespace Timex

open Token (TimeSpelling timePart withTimePart withTimePartAs)

-- ---------------------------------------------------------------------------
-- Captures
-- ---------------------------------------------------------------------------

namespace Captures

@[simp] theorem number?_nil (f : Field) : number? [] f = none := rfl

@[simp] theorem number?_cons (e : Field) (t : Text) (c : Captures) (f : Field) :
    number? ((e, t) :: c) f = if f = e then some (Text.toNumber t) else number? c f := by
  unfold number?
  rw [List.lookup_cons]
  by_cases h : f = e
  · simp [h]
  · rw [if_neg h, beq_false_of_ne h]

theorem number?_append (c d : Captures) (f : Field) :
    number? (c ++ d) f = (c.number? f).or (d.number? f) := by
  unfold number?
  rw [List.lookup_append]
  cases c.lookup f <;> rfl

theorem number?_eq_none {c : Captures} {f : Field} (h : f ∉ c.map Prod.fst) :
    c.number? f = none := by
  unfold number?
  rw [Option.map_eq_none_iff, List.lookup_eq_none_iff]
  intro e he
  simp only [bne_iff_ne, ne_eq]
  rintro rfl
  exact h (List.mem_map_of_mem he)

/-- No number of a time of day. -/
structure Timeless (c : Captures) : Prop where
  hour : c.number? .hour = none
  minute : c.number? .minute = none
  second : c.number? .second = none

end Captures

namespace Pattern

theorem char_of_read? {p : Pattern} {t : Text} {c : Captures} (hp : p.Lawful)
    (h : p.read? t = some c) {x : Char} (hx : x ∈ t) : x = p.separator ∨ x.isDigit = true := by
  obtain ⟨ks, -, rfl, -⟩ := (read?_eq_some_iff hp).mp h
  rcases Text.mem_join hx with he | ⟨g, hg, hx⟩
  · exact .inl he
  · obtain ⟨n, k, rfl⟩ := Numeral.exists_of_mem_zipWith hg
    exact .inr (Text.isDigit_of_mem (Numeral.isDigits_spell n k) hx)

theorem timeless_of_read? {g : Granularity} {p : Pattern} {t : Text} {c : Captures}
    (hp : p ∈ dates g) (h : p.read? t = some c) : c.Timeless := by
  have hf : ∀ p ∈ dates g, ∀ f ∈ p.numerals.map Numeral.field,
      f ≠ .hour ∧ f ≠ .minute ∧ f ≠ .second := by
    cases g <;> decide
  have hn : ∀ f, (f = .hour ∨ f = .minute ∨ f = .second) → c.number? f = none := by
    intro f hf'
    apply Captures.number?_eq_none
    rw [(align?_eq_some h).2]
    intro hm
    have hne := hf p hp f hm
    rcases hf' with rfl | rfl | rfl
    · exact hne.1 rfl
    · exact hne.2.1 rfl
    · exact hne.2.2 rfl
  exact ⟨hn _ (by simp), hn _ (by simp), hn _ (by simp)⟩

theorem designator_not_mem_of_read? {g : Granularity} {p : Pattern} {t : Text} {c : Captures}
    (hp : p ∈ dates g) (h : p.read? t = some c) : 'T' ∉ t := by
  have hs : ∀ p ∈ dates g, p.separator = '-' := by
    cases g <;> decide
  intro hT
  rcases char_of_read? (lawful_of_mem_dates hp) h hT with he | hd
  · rw [hs p hp] at he
    simp at he
  · simp at hd

/-- The date tables read no number of a time, and no text with the designator of one. -/
theorem timeless_of_findSome? {g : Granularity} {t : Text} {c : Captures}
    (h : (dates g).findSome? (·.read? t) = some c) : c.Timeless ∧ 'T' ∉ t := by
  obtain ⟨p, hp, hr⟩ := List.exists_of_findSome?_eq_some h
  exact ⟨timeless_of_read? hp hr, designator_not_mem_of_read? hp hr⟩

end Pattern

namespace Temporal

-- ---------------------------------------------------------------------------
-- Values of captures
-- ---------------------------------------------------------------------------

theorem ofCaptures_append_time {c : Captures} (hc : c.Timeless) (synthesize : Bool)
    (τ : TimeSpelling) :
    ofCaptures (c ++ τ.capturesAs synthesize) true =
      (ofCaptures c false).map fun v => τ.setAs synthesize v := by
  have hh : Captures.number? (c ++ τ.capturesAs synthesize) .hour =
      (τ.capturesAs synthesize).number? .hour := by
    rw [Captures.number?_append, hc.hour, Option.none_or]
  have hm : Captures.number? (c ++ τ.capturesAs synthesize) .minute =
      (τ.capturesAs synthesize).number? .minute := by
    rw [Captures.number?_append, hc.minute, Option.none_or]
  have hs : Captures.number? (c ++ τ.capturesAs synthesize) .second =
      (τ.capturesAs synthesize).number? .second := by
    rw [Captures.number?_append, hc.second, Option.none_or]
  have hd : ∀ f, (f = .year ∨ f = .month ∨ f = .day ∨ f = .weekday) →
      Captures.number? (c ++ τ.capturesAs synthesize) f = c.number? f := by
    intro f hf
    have hn : (τ.capturesAs synthesize).number? f = none := by
      rcases hf with rfl | rfl | rfl | rfl <;> cases τ <;> cases synthesize <;> rfl
    rw [Captures.number?_append, hn, Option.or_none]
  have hset : ∀ v : Temporal, τ.setAs synthesize v =
      { v with
        hour := ((τ.capturesAs synthesize).number? .hour).map Int.ofNat
        minute := ((τ.capturesAs synthesize).number? .minute).map Int.ofNat
        second := ((τ.capturesAs synthesize).number? .second).map Int.ofNat
        hadExplicitTime := true } := by
    intro v
    cases τ <;> cases synthesize <;>
      simp [TimeSpelling.setAs, TimeSpelling.setOn, TimeSpelling.hasMinute,
        TimeSpelling.capturesAs, TimeSpelling.captures, TimeSpelling.text]
  simp only [ofCaptures, hh, hm, hs, hd .year (by simp), hd .month (by simp), hd .day (by simp),
    hd .weekday (by simp), hc.hour, hc.minute, hc.second, hset]
  cases c.number? .day <;> cases c.number? .month
  case some.some d m =>
    simp only
    split
    · rfl
    · cases c.number? .year <;> rfl
  all_goals rfl

-- ---------------------------------------------------------------------------
-- Parts
-- ---------------------------------------------------------------------------

/-- What a table reads in a part. No part has nothing to read. -/
def partCaptures? (ps : List Pattern) : Option Text → Option Captures
  | none => some []
  | some t => ps.findSome? (·.read? t)

theorem matchPart_eq_ok_iff {ps : List Pattern} (mark : String) {part : Option Text}
    {c : Captures} :
    (∃ tried, matchPart ps mark part = .ok (tried, c)) ↔ partCaptures? ps part = some c := by
  cases part with
  | none => simp [matchPart, partCaptures?, eq_comm]
  | some t =>
    have hc := Pattern.captures_firstMatch ps t
    simp only [matchPart, partCaptures?]
    rw [← hc]
    cases (Pattern.firstMatch ps t).captures <;> simp

/-- The time part as the time table sees it. -/
def Parts.seenTime (parts : Parts) (synthesize : Bool) : Option Text :=
  if synthesize then parts.time.map addMissingMinutes else parts.time

theorem readWith_eq_ok_iff {times : List Pattern} {dates : Granularity → List Pattern} {t : Text}
    {g : Granularity} {synthesize : Bool} {v : Temporal} :
    readWith times dates t g synthesize = .ok v ↔
      ((Parts.ofText g t).time.isSome → g.hasTimePart = true) ∧
        (g = .fullDateTime → (Parts.ofText g t).time.isSome) ∧
        ∃ c d, partCaptures? (dates g) (Parts.ofText g t).date = some c ∧
          partCaptures? times ((Parts.ofText g t).seenTime synthesize) = some d ∧
          ofCaptures (c ++ d) (Parts.ofText g t).time.isSome = .ok v := by
  simp only [readWith, ← Parts.seenTime.eq_def]
  generalize Parts.ofText g t = parts
  constructor
  · intro h
    split at h
    · simp at h
    · rename_i h1
      split at h
      · simp at h
      · rename_i h2
        split at h
        · simp at h
        · rename_i triedDates c hc
          split at h
          · simp at h
          · rename_i triedTimes d hd
            split at h
            · simp at h
            · rename_i hv
              refine ⟨?_, ?_, c, d, (matchPart_eq_ok_iff _).mp ⟨_, hc⟩,
                (matchPart_eq_ok_iff _).mp ⟨_, hd⟩, by rw [hv, Except.ok.inj h]⟩
              · intro hs
                simpa [hs] using h1
              · intro hg
                rw [Option.isSome_iff_ne_none]
                exact fun hn => h2 ⟨hg, hn⟩
  · rintro ⟨h1, h2, c, d, hc, hd, hv⟩
    obtain ⟨triedDates, hc⟩ := (matchPart_eq_ok_iff "").mpr hc
    obtain ⟨triedTimes, hd⟩ := (matchPart_eq_ok_iff "T").mpr hd
    rw [if_neg (by simpa using h1), if_neg (by simpa [Option.isSome_iff_ne_none] using h2)]
    simp only [hc, hd, hv]

/-- The time table reads no time, or a spelled one. -/
theorem partCaptures?_times_eq_some_iff {parts : Parts} {synthesize : Bool} {c : Captures} :
    partCaptures? Pattern.times (parts.seenTime synthesize) = some c ↔
      ∃ time : Option TimeSpelling, time.map TimeSpelling.text = parts.time ∧
        (time.map (TimeSpelling.capturesAs synthesize)).getD [] = c := by
  have hspelled : ∀ t, partCaptures? Pattern.times
      (if synthesize then (some t).map addMissingMinutes else some t) = some c ↔
        ∃ τ : TimeSpelling, τ.text = t ∧ τ.capturesAs synthesize = c := by
    intro t
    cases synthesize with
    | true => exact Pattern.findSome?_times_eq_some_iff
    | false => exact Pattern.findSome?_times_written_iff
  unfold Parts.seenTime
  cases parts.time with
  | none => cases synthesize <;> simp [partCaptures?]
  | some t =>
    rw [hspelled]
    constructor
    · rintro ⟨τ, rfl, rfl⟩
      exact ⟨some τ, rfl, rfl⟩
    · rintro ⟨_ | τ, ht, rfl⟩
      · simp at ht
      · exact ⟨τ, Option.some.inj ht, rfl⟩

theorem ofCaptures_append_timePart {c : Captures} (hc : c.Timeless) (synthesize : Bool)
    (time : Option TimeSpelling) :
    ofCaptures (c ++ (time.map (TimeSpelling.capturesAs synthesize)).getD []) time.isSome =
      (ofCaptures c false).map fun v => withTimePartAs synthesize v time := by
  cases time with
  | none =>
    simp only [Option.map_none, Option.getD_none, List.append_nil, Option.isSome_none]
    cases ofCaptures c false <;> rfl
  | some τ => exact ofCaptures_append_time hc synthesize τ

-- ---------------------------------------------------------------------------
-- Readings
-- ---------------------------------------------------------------------------

theorem ofText_of_ne {g : Granularity} (hg : g ≠ .timeOnly) (t : Text) :
    Parts.ofText g t = ⟨some (Text.cut 'T' t).1, (Text.cut 'T' t).2⟩ := by
  cases g <;> first | rfl | exact absurd rfl hg

theorem ofText_append_timePart {g : Granularity} (hg : g ≠ .timeOnly) {d : Text} (hd : 'T' ∉ d)
    (time : Option TimeSpelling) :
    Parts.ofText g (d ++ timePart time) = ⟨some d, time.map TimeSpelling.text⟩ := by
  rw [ofText_of_ne hg]
  cases time with
  | none => simp [timePart, Text.cut_of_not_mem hd]
  | some τ => simp [timePart, Text.cut_append hd]

/-- A text with a date part is read if the date table reads the date and the time, which
not every granularity takes, is a spelled one. -/
theorem readAs_eq_ok_iff {g : Granularity} (hg : g ≠ .timeOnly) {t : Text} {synthesize : Bool}
    {v : Temporal} :
    read t g synthesize = .ok v ↔
      ∃ d time c w, t = d ++ timePart time ∧ (time.isSome → g.hasTimePart = true) ∧
        (g = .fullDateTime → time.isSome) ∧
        (Pattern.dates g).findSome? (·.read? d) = some c ∧
        ofCaptures c false = .ok w ∧ withTimePartAs synthesize w time = v := by
  unfold read
  rw [readWith_eq_ok_iff]
  constructor
  · cases hcut : Text.cut 'T' t with
    | mk before after =>
      rw [ofText_of_ne hg, hcut]
      rintro ⟨h1, h2, c, d, hc, hd, hv⟩
      obtain ⟨time, rfl, rfl⟩ := partCaptures?_times_eq_some_iff.mp hd
      have ht : t = before ++ timePart time := by
        rw [(Text.eq_of_cut hcut).2]
        cases time <;> rfl
      simp only [Option.isSome_map] at h1 h2 hv
      rw [ofCaptures_append_timePart (Pattern.timeless_of_findSome? hc).1] at hv
      cases hw : ofCaptures c false with
      | error e => simp [hw, Except.map] at hv
      | ok w =>
        simp only [hw, Except.map, Except.ok.injEq] at hv
        exact ⟨before, time, c, w, ht, h1, h2, hc, hw, hv⟩
  · rintro ⟨d, time, c, w, rfl, h1, h2, hc, hw, rfl⟩
    obtain ⟨htl, hT⟩ := Pattern.timeless_of_findSome? hc
    rw [ofText_append_timePart hg hT]
    refine ⟨by simpa using h1, by simpa using h2, c, _, hc,
      partCaptures?_times_eq_some_iff.mpr ⟨time, rfl, rfl⟩, ?_⟩
    simp only [Option.isSome_map]
    rw [ofCaptures_append_timePart htl, hw]
    rfl

theorem read_eq_ok_iff {g : Granularity} (hg : g ≠ .timeOnly) {t : Text} {v : Temporal} :
    read t g true = .ok v ↔
      ∃ d time c w, t = d ++ timePart time ∧ (time.isSome → g.hasTimePart = true) ∧
        (g = .fullDateTime → time.isSome) ∧
        (Pattern.dates g).findSome? (·.read? d) = some c ∧
        ofCaptures c false = .ok w ∧ withTimePart w time = v := by
  simp only [readAs_eq_ok_iff hg, Token.withTimePartAs_true]

/-- The time part of a time alone is the text behind a leading designator, else the text. -/
theorem exists_ofText_timeOnly (t : Text) :
    ∃ u, Parts.ofText .timeOnly t = ⟨none, some u⟩ ∧
      ∀ τ : TimeSpelling, τ.text = u ↔ t = timePart (some τ) ∨ t = τ.text := by
  cases t with
  | nil =>
    refine ⟨[], rfl, fun τ => ⟨fun h => .inr h.symm, ?_⟩⟩
    rintro (h | h)
    · exact absurd h.symm (List.cons_ne_nil _ _)
    · exact h.symm
  | cons x xs =>
    by_cases hx : x = 'T'
    · subst hx
      refine ⟨xs, rfl, fun τ => ⟨fun h => .inl (by rw [timePart, h]), ?_⟩⟩
      rintro (h | h)
      · exact (List.cons.inj h).2.symm
      · have hm : 'T' ∈ τ.text := by simp [← h]
        exact absurd hm τ.designator_not_mem_text
    · have hu : Parts.ofText .timeOnly (x :: xs) = ⟨none, some (x :: xs)⟩ := by
        simp only [Parts.ofText]
        split
        · rename_i he
          exact absurd (List.cons.inj he).1 hx
        · rfl
      refine ⟨x :: xs, hu, fun τ => ⟨fun h => .inr h.symm, ?_⟩⟩
      rintro (h | h)
      · exact absurd (List.cons.inj h).1 hx
      · exact h.symm

/-- A time alone is read if it is a spelled one, with the designator or without it. -/
theorem readAs_timeOnly_eq_ok_iff {t : Text} {synthesize : Bool} {v : Temporal} :
    read t .timeOnly synthesize = .ok v ↔
      ∃ τ : TimeSpelling, (t = timePart (some τ) ∨ t = τ.text) ∧ τ.setAs synthesize empty = v := by
  have hv : ∀ τ : TimeSpelling, ofCaptures ([] ++ τ.capturesAs synthesize) true =
      .ok (τ.setAs synthesize empty) :=
    fun τ => ofCaptures_append_time ⟨rfl, rfl, rfl⟩ synthesize τ
  obtain ⟨u, hu, ht⟩ := exists_ofText_timeOnly t
  simp only [← ht]
  unfold read
  rw [readWith_eq_ok_iff, hu]
  constructor
  · rintro ⟨-, -, c, d, hc, hd, h⟩
    obtain ⟨_ | τ, hτ, rfl⟩ := partCaptures?_times_eq_some_iff.mp hd
    · simp at hτ
    · simp only [partCaptures?, Option.some.injEq] at hc
      subst hc
      have he := (hv τ).symm.trans h
      exact ⟨τ, Option.some.inj hτ, Except.ok.inj he⟩
  · rintro ⟨τ, rfl, rfl⟩
    exact ⟨fun _ => rfl, fun h => by simp at h, [], _, rfl,
      partCaptures?_times_eq_some_iff.mpr ⟨some τ, rfl, rfl⟩, hv τ⟩

theorem read_timeOnly_eq_ok_iff {t : Text} {v : Temporal} :
    read t .timeOnly true = .ok v ↔
      ∃ τ : TimeSpelling, (t = timePart (some τ) ∨ t = τ.text) ∧ τ.setOn empty = v :=
  readAs_timeOnly_eq_ok_iff

end Temporal
end Timex
