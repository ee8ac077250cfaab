import Timex.Proofs.Normalizer.Analysis

/-!
# Texts that are not read

On a part the patterns up to the first that reads it are tried, and all of them if none does. A
text is not read if its time is out of place, if no pattern reads its date, if none reads its
time, or if there is no such date; the first of these that holds decides what was tried.
-/

namespace Timex

namespace Pattern

/-- Whether there is a part that no pattern reads. -/
def unread (ps : List Pattern) : Option Text → Bool
  | none => false
  | some t => ps.all fun p => (p.read? t).isNone

/-- The names of the patterns up to and including the first that reads the part. -/
def namesTried (ps : List Pattern) : Option Text → List String
  | none => []
  | some t => (ps.take (ps.findIdx (fun p => (p.read? t).isSome) + 1)).map name

-- ---------------------------------------------------------------------------
-- What is tried
-- ---------------------------------------------------------------------------

theorem unread_some_iff {ps : List Pattern} {t : Text} :
    unread ps (some t) = true ↔ ∀ p ∈ ps, p.read? t = none := by
  simp [unread]

theorem tried_firstMatch (ps : List Pattern) (t : Text) :
    (firstMatch ps t).tried = namesTried ps (some t) := by
  induction ps with
  | nil => rfl
  | cons p ps ih =>
    rw [firstMatch]
    cases hp : p.read? t with
    | some c => simp [namesTried, List.findIdx_cons, hp]
    | none =>
      simp only [namesTried] at ih ⊢
      simp [List.findIdx_cons, hp, ih]

/-- Where no pattern reads the part, all are tried. -/
theorem namesTried_of_unread {ps : List Pattern} {part : Option Text}
    (h : unread ps part = true) : namesTried ps part = ps.map name := by
  cases part with
  | none => exact absurd h Bool.false_ne_true
  | some t =>
    rw [← tried_firstMatch]
    refine tried_firstMatch_of_none ?_
    rw [captures_firstMatch, List.findSome?_eq_none_iff]
    exact unread_some_iff.mp h

theorem namesTried_ne_nil {ps : List Pattern} (hps : ps ≠ []) (t : Text) :
    namesTried ps (some t) ≠ [] := by
  cases ps with
  | nil => exact absurd rfl hps
  | cons p ps => simp [namesTried]

theorem exists_of_mem_namesTried {ps : List Pattern} {part : Option Text} {n : String}
    (h : n ∈ namesTried ps part) : ∃ p ∈ ps, p.name = n := by
  cases part with
  | none => simp [namesTried] at h
  | some t =>
    obtain ⟨p, hp, rfl⟩ := List.mem_map.mp h
    exact ⟨p, List.mem_of_mem_take hp, rfl⟩

theorem name_ne_empty_of_mem_dates {g : Granularity} {p : Pattern} (h : p ∈ dates g) :
    p.name ≠ "" := by
  have hs : ∀ p ∈ dates g, p.name ≠ "" := by
    cases g <;> decide
  exact hs p h

theorem dates_ne_nil {g : Granularity} (h : g ≠ .timeOnly) : dates g ≠ [] := by
  cases g <;> first | exact List.cons_ne_nil _ _ | exact absurd rfl h

end Pattern

open Pattern (unread namesTried)

namespace Temporal

theorem partCaptures?_eq_none_iff {ps : List Pattern} {part : Option Text} :
    partCaptures? ps part = none ↔ unread ps part = true := by
  cases part with
  | none => simp [partCaptures?, unread]
  | some t => rw [partCaptures?, List.findSome?_eq_none_iff, Pattern.unread_some_iff]

/-- Whether a part is matched or not, the names tried are kept. -/
theorem matchPart_eq (ps : List Pattern) (mark : String) (part : Option Text) :
    matchPart ps mark part =
      match partCaptures? ps part with
      | some c => .ok ((namesTried ps part).map (mark ++ ·), c)
      | none => .error ((namesTried ps part).map (mark ++ ·)) := by
  cases part with
  | none => rfl
  | some t =>
    have htried := Pattern.tried_firstMatch ps t
    have hcaptures := Pattern.captures_firstMatch ps t
    cases hc : (Pattern.firstMatch ps t).captures with
    | none => simp [matchPart, partCaptures?, ← htried, ← hcaptures, hc]
    | some c => simp [matchPart, partCaptures?, ← htried, ← hcaptures, hc]

theorem matchPart_of_unread {ps : List Pattern} (mark : String) {part : Option Text}
    (h : unread ps part = true) :
    matchPart ps mark part = .error ((ps.map Pattern.name).map (mark ++ ·)) := by
  rw [matchPart_eq, partCaptures?_eq_none_iff.mpr h, Pattern.namesTried_of_unread h]

theorem exists_matchPart_of_read {ps : List Pattern} (mark : String) {part : Option Text}
    (h : unread ps part = false) :
    ∃ c, partCaptures? ps part = some c ∧
      matchPart ps mark part = .ok ((namesTried ps part).map (mark ++ ·), c) := by
  cases hc : partCaptures? ps part with
  | none =>
    rw [partCaptures?_eq_none_iff.mp hc] at h
    simp at h
  | some c => exact ⟨c, rfl, by rw [matchPart_eq, hc]⟩

-- ---------------------------------------------------------------------------
-- Failures
-- ---------------------------------------------------------------------------

/-- A time where the granularity takes none, or no time where it has to have one. -/
def Parts.isMisplaced (parts : Parts) (g : Granularity) : Bool :=
  parts.time.isSome && !g.hasTimePart || g == .fullDateTime && parts.time.isNone

/-- The month has no such day, in the year that is read or in any leap year. -/
def NoSuchDay (c : Captures) : Prop :=
  ∃ m d, c.number? .month = some m ∧ c.number? .day = some d ∧
    Gregorian.monthLength ((c.number? .year).getD leapReference) m < d

theorem noSuchDay_of_ofCaptures {c : Captures} {timed : Bool} {reason : ReadingFailure.Reason}
    (h : ofCaptures c timed = .error reason) :
    NoSuchDay c ∧ ∃ year month day, reason = .noSuchDay year month day := by
  unfold ofCaptures at h
  simp only at h
  split at h
  · rename_i d m hd hm
    split at h
    · rename_i hlt
      exact ⟨⟨m, d, hm, hd, hlt⟩, _, _, _, (Except.error.inj h).symm⟩
    · split at h <;> simp at h
  · simp at h

section
variable {t : Text} {g : Granularity} {synthesize : Bool}

theorem Parts.isMisplaced_iff {parts : Parts} :
    parts.isMisplaced g = true ↔
      (parts.time.isSome && !g.hasTimePart) = true ∨ g = .fullDateTime ∧ parts.time = none := by
  simp [Parts.isMisplaced]

theorem read_of_misplaced (synthesize : Bool) (h : (Parts.ofText g t).isMisplaced g = true) :
    ∃ reason, read t g synthesize = .error ⟨reason, []⟩ ∧
      (reason = .unexpectedTime ∨ reason = .missingTime) := by
  simp only [read, readWith]
  by_cases h1 : ((Parts.ofText g t).time.isSome && !g.hasTimePart) = true
  · rw [if_pos h1]
    exact ⟨_, rfl, .inl rfl⟩
  · have h2 := (Parts.isMisplaced_iff.mp h).resolve_left h1
    rw [if_neg h1, if_pos h2]
    exact ⟨_, rfl, .inr rfl⟩

/-- Where the time is in place, the date goes to its table first and the time to its own next. -/
theorem read_of_placed (h : ¬ (Parts.ofText g t).isMisplaced g = true) :
    read t g synthesize =
      match matchPart (Pattern.dates g) "" (Parts.ofText g t).date with
      | .error tried => .error ⟨.unmatched, tried⟩
      | .ok (triedDates, c) =>
        match matchPart Pattern.times "T" ((Parts.ofText g t).seenTime synthesize) with
        | .error tried => .error ⟨.unmatched, triedDates ++ tried⟩
        | .ok (triedTimes, d) =>
          match ofCaptures (c ++ d) (Parts.ofText g t).time.isSome with
          | .error reason => .error ⟨reason, triedDates ++ triedTimes⟩
          | .ok v => .ok v := by
  rw [Parts.isMisplaced_iff, not_or] at h
  simp only [read, readWith]
  rw [if_neg h.1, if_neg h.2]
  rfl

/-- What was tried by the time a text turns out not to be read, and why it is not. -/
theorem failure_of_read {e : ReadingFailure} (h : read t g synthesize = .error e) :
    let parts := Parts.ofText g t
    let time := parts.seenTime synthesize
    if parts.isMisplaced g then
      e.tried = [] ∧ (e.reason = .unexpectedTime ∨ e.reason = .missingTime)
    else if unread (Pattern.dates g) parts.date then
      e = ⟨.unmatched, (Pattern.dates g).map Pattern.name⟩
    else if unread Pattern.times time then
      e = ⟨.unmatched, namesTried (Pattern.dates g) parts.date ++
        (Pattern.times.map Pattern.name).map ("T" ++ ·)⟩
    else
      e.tried = namesTried (Pattern.dates g) parts.date ++
          (namesTried Pattern.times time).map ("T" ++ ·) ∧
        (∃ year month day, e.reason = .noSuchDay year month day) ∧
        ∃ c d, partCaptures? (Pattern.dates g) parts.date = some c ∧
          partCaptures? Pattern.times time = some d ∧ NoSuchDay (c ++ d) := by
  intro parts time
  have hempty : ∀ names : List String, names.map ("" ++ ·) = names := fun names => by simp
  split
  · rename_i hm
    obtain ⟨reason, hr, hreason⟩ := read_of_misplaced synthesize hm
    obtain rfl := Except.error.inj (hr.symm.trans h)
    exact ⟨rfl, hreason⟩
  · rename_i hm
    rw [read_of_placed hm] at h
    split
    · rename_i hdate
      rw [matchPart_of_unread "" hdate, hempty] at h
      exact (Except.error.inj h).symm
    · rename_i hdate
      obtain ⟨c, hc, hmatch⟩ := exists_matchPart_of_read "" (Bool.eq_false_iff.mpr hdate)
      rw [hmatch, hempty] at h
      split
      · rename_i htime
        rw [matchPart_of_unread "T" htime] at h
        exact (Except.error.inj h).symm
      · rename_i htime
        obtain ⟨d, hd, hmatch'⟩ := exists_matchPart_of_read "T" (Bool.eq_false_iff.mpr htime)
        rw [hmatch'] at h
        simp only at h
        split at h
        · rename_i reason hreason
          obtain ⟨hno, hr⟩ := noSuchDay_of_ofCaptures hreason
          obtain rfl := Except.error.inj h
          exact ⟨rfl, hr, c, d, hc, hd, hno⟩
        · simp at h

theorem exists_seenTime_timeOnly (t : Text) (synthesize : Bool) :
    ∃ u, (Parts.ofText .timeOnly t).seenTime synthesize = some u := by
  obtain ⟨u, hu, -⟩ := exists_ofText_timeOnly t
  rw [hu]
  cases synthesize
  · exact ⟨u, rfl⟩
  · exact ⟨addMissingMinutes u, rfl⟩

theorem date_timeOnly (t : Text) : (Parts.ofText .timeOnly t).date = none := by
  obtain ⟨u, hu, -⟩ := exists_ofText_timeOnly t
  rw [hu]

theorem ne_timeOnly_of_date {u : Text} (h : (Parts.ofText g t).date = some u) :
    g ≠ .timeOnly := by
  rintro rfl
  rw [date_timeOnly] at h
  simp at h

/-- Where the time is in place, it is not the reason. -/
theorem reason_of_placed {e : ReadingFailure} (h : read t g synthesize = .error e)
    (hm : ¬ (Parts.ofText g t).isMisplaced g = true) :
    e.reason ≠ .unexpectedTime ∧ e.reason ≠ .missingTime := by
  have hf := failure_of_read h
  simp only [if_neg hm] at hf
  split at hf
  · simp [hf]
  · split at hf
    · simp [hf]
    · obtain ⟨-, ⟨year, month, day, hr⟩, -⟩ := hf
      simp [hr]

/-- Where the time is in place, a pattern is tried. -/
theorem tried_ne_nil {e : ReadingFailure} (h : read t g synthesize = .error e)
    (hm : ¬ (Parts.ofText g t).isMisplaced g = true) : e.tried ≠ [] := by
  have hf := failure_of_read h
  simp only [if_neg hm] at hf
  split at hf
  · rename_i hdate
    cases hu : (Parts.ofText g t).date with
    | none => simp [hu, unread] at hdate
    | some u =>
      rw [hf]
      simpa using Pattern.dates_ne_nil (ne_timeOnly_of_date hu)
  · split at hf
    · rw [hf]
      simp [Pattern.times]
    · rw [hf.1]
      intro hnil
      obtain ⟨hdates, htimes⟩ := List.append_eq_nil_iff.mp hnil
      cases hu : (Parts.ofText g t).date with
      | some u =>
        rw [hu] at hdates
        exact Pattern.namesTried_ne_nil (Pattern.dates_ne_nil (ne_timeOnly_of_date hu)) u hdates
      | none =>
        -- Without a date it is a time alone, which has a part of its own.
        have hg : g = .timeOnly := by
          by_contra hg
          simp [ofText_of_ne hg] at hu
        subst hg
        obtain ⟨u, hu'⟩ := exists_seenTime_timeOnly t synthesize
        rw [hu', List.map_eq_nil_iff] at htimes
        exact Pattern.namesTried_ne_nil (by decide) u htimes

theorem empty_not_mem_tried {e : ReadingFailure} (h : read t g synthesize = .error e) :
    "" ∉ e.tried := by
  have hmark : ∀ n : String, "T" ++ n ≠ "" := by
    intro n hn
    have hl := congrArg String.toList hn
    simp at hl
  have hjoined : ∀ (part : Option Text) (names : List String),
      "" ∉ namesTried (Pattern.dates g) part ++ names.map ("T" ++ ·) := by
    intro part names hmem
    rcases List.mem_append.mp hmem with hmem | hmem
    · obtain ⟨p, hp, hn⟩ := Pattern.exists_of_mem_namesTried hmem
      exact Pattern.name_ne_empty_of_mem_dates hp hn
    · obtain ⟨n, -, hn⟩ := List.mem_map.mp hmem
      exact hmark n hn
  have hf := failure_of_read h
  simp only at hf
  split at hf
  · rw [hf.1]
    exact List.not_mem_nil
  · split at hf
    · rw [hf]
      intro hmem
      obtain ⟨p, hp, hn⟩ := List.mem_map.mp hmem
      exact Pattern.name_ne_empty_of_mem_dates hp hn
    · split at hf
      · rw [hf]
        exact hjoined _ _
      · rw [hf.1]
        exact hjoined _ _

end
end Temporal

-- ---------------------------------------------------------------------------
-- Faults
-- ---------------------------------------------------------------------------

theorem commaSeparated_ne_nil {ts : List Text} (hne : ts ≠ []) (h : [] ∉ ts) :
    commaSeparated ts ≠ [] := by
  cases ts with
  | nil => exact absurd rfl hne
  | cons t ts =>
    have ht : t ≠ [] := by
      rintro rfl
      exact h (by simp)
    cases ts <;> simp [commaSeparated, ht]

namespace Fault

variable {t : Text} {g : Granularity}

/-- The message tells the names of the patterns tried. -/
def tells (f : Fault) (names : List String) : Prop :=
  f.message =
    "No pattern matched (tried: ".toList ++ commaSeparated (names.map String.toList) ++ [')']

theorem attempted_ofReading (e : ReadingFailure) :
    (ofReading t g e).context.metadata.lookup "attempted".toList =
      some (.list ((e.tried.map String.toList).map .text)) := rfl

theorem message_ofReading (e : ReadingFailure) :
    (ofReading t g e).message =
      if (readingMessage g e.reason).isEmpty then noPatternMessage (e.tried.map String.toList)
      else readingMessage g e.reason := by
  simp only [ofReading, ambiguous, build, ofContext, Option.getD_some]

theorem noPatternMessage_of_ne {names : List Text} (hne : names ≠ []) (h : [] ∉ names) :
    noPatternMessage names =
      "No pattern matched (tried: ".toList ++ commaSeparated names ++ [')'] := by
  have hempty : ¬ (commaSeparated names).isEmpty = true := by
    rw [List.isEmpty_iff]
    exact commaSeparated_ne_nil hne h
  have hnames : (if (commaSeparated names).isEmpty then "none".toList else commaSeparated names) =
      commaSeparated names := if_neg hempty
  exact congrArg ("No pattern matched (tried: ".toList ++ · ++ [')']) hnames

theorem message_of_unmatched {tried : List String} (hne : tried ≠ []) (h : "" ∉ tried) :
    (ofReading t g ⟨.unmatched, tried⟩).tells tried := by
  have hdefault : (readingMessage g .unmatched).isEmpty = true := rfl
  rw [tells, message_ofReading, if_pos hdefault]
  exact noPatternMessage_of_ne (by simpa using hne) (by simpa using h)

theorem head?_readingMessage {reason : ReadingFailure.Reason} (h : reason ≠ .unmatched) :
    ∃ c, (readingMessage g reason).head? = some c ∧ c ≠ 'N' := by
  cases reason with
  | unexpectedTime => cases g <;> exact ⟨_, rfl, by decide⟩
  | missingTime => exact ⟨'m', rfl, by decide⟩
  | unmatched => exact absurd rfl h
  | noSuchDay year month day => exact ⟨'d', rfl, by decide⟩

/-- Only where no pattern reads a part does the message say so. -/
theorem not_noPattern_of_ne {e : ReadingFailure} (h : e.reason ≠ .unmatched) :
    ¬ "No pattern matched".toList <+: (ofReading t g e).message := by
  obtain ⟨c, hc, hN⟩ := head?_readingMessage (g := g) h
  have hne : (readingMessage g e.reason).isEmpty = false := by
    rw [List.isEmpty_eq_false_iff]
    intro hnil
    simp [hnil] at hc
  rw [message_ofReading, hne, if_neg Bool.false_ne_true]
  rintro ⟨rest, hr⟩
  rw [← hr] at hc
  exact hN (Option.some.inj hc).symm

end Fault

open Pattern Temporal in
/-- Nothing is tried where the time is out of place. Else the date patterns are tried in their
order, all of them if none reads the date, and then the time patterns in theirs, all of them if
none reads the time; what is read then is no date. A fault keeps these names, and its message
tells them exactly if no pattern read a part. -/
theorem patterns_tried_of_fault {t : Text} {g : Granularity} {synthesize : Bool} {f : Fault}
    (h : parse t g synthesize = .error f) :
    let parts := Parts.ofText g t
    let time := parts.seenTime synthesize
    ∃ e, read t g synthesize = .error e ∧
      f.context.metadata.lookup "attempted".toList =
        some (.list ((e.tried.map String.toList).map .text)) ∧
      if parts.isMisplaced g then
        e.tried = [] ∧ ¬ "No pattern matched".toList <+: f.message
      else if unread (dates g) parts.date then
        e.tried = (dates g).map name ∧ f.tells e.tried
      else if unread times time then
        e.tried = namesTried (dates g) parts.date ++ (times.map name).map ("T" ++ ·) ∧
          f.tells e.tried
      else
        e.tried = namesTried (dates g) parts.date ++ (namesTried times time).map ("T" ++ ·) ∧
          ¬ "No pattern matched".toList <+: f.message ∧
          ∃ c d, partCaptures? (dates g) parts.date = some c ∧
            partCaptures? times time = some d ∧ NoSuchDay (c ++ d) := by
  intro parts time
  obtain ⟨e, he, rfl⟩ := mapError_eq_error_iff.mp h
  refine ⟨e, he, Fault.attempted_ofReading e, ?_⟩
  have hf := failure_of_read he
  have hempty := empty_not_mem_tried he
  have htells : ∀ names, parts.isMisplaced g ≠ true → e = ⟨.unmatched, names⟩ →
      e.tried = names ∧ (Fault.ofReading t g e).tells e.tried := by
    rintro names hm rfl
    exact ⟨rfl, Fault.message_of_unmatched (tried_ne_nil he hm) hempty⟩
  simp only at hf
  split
  · rename_i hm
    rw [if_pos hm] at hf
    refine ⟨hf.1, Fault.not_noPattern_of_ne ?_⟩
    rcases hf.2 with hr | hr <;> simp [hr]
  · rename_i hm
    rw [if_neg hm] at hf
    split
    · rename_i hdate
      rw [if_pos hdate] at hf
      exact htells _ hm hf
    · rename_i hdate
      rw [if_neg hdate] at hf
      split
      · rename_i htime
        rw [if_pos htime] at hf
        exact htells _ hm hf
      · rename_i htime
        rw [if_neg htime] at hf
        obtain ⟨htried, ⟨year, month, day, hr⟩, hno⟩ := hf
        exact ⟨htried, Fault.not_noPattern_of_ne (by simp [hr]), hno⟩

/-- The 30th of February is read, up to the minutes that 14 o'clock has. -/
theorem patterns_tried_on_thirtieth_of_february :
    ∃ f, parse "2019-02-30T14".toList .fullDateTime true = .error f ∧
      f.context.metadata.lookup "attempted".toList =
        some (.list ((["yyyy-MM-dd", "THH:mm:ss", "Thh:mm:ss", "TH:mm:ss", "Th:mm:ss",
          "THH:mm"].map String.toList).map .text)) := by
  obtain ⟨f, hf⟩ : ∃ f, parse "2019-02-30T14".toList .fullDateTime true = .error f := ⟨_, rfl⟩
  obtain ⟨e, -, hlookup, hcases⟩ := patterns_tried_of_fault hf
  rw [if_neg (by decide), if_neg (by decide), if_neg (by decide)] at hcases
  have htried := hcases.1
  rw [htried] at hlookup
  exact ⟨f, hf, hlookup⟩

end Timex
