import Timex.Proofs.Presentation.DateTime
import Timex.Proofs.Presentation.Range

/-!
# What a joining pattern makes of a date and a time

A joining pattern is a row of literals, places for the date and one place for the time. The time
is put in first and the date after it, so the date goes into its place wherever the text of the
time spells one. All else of the two texts is kept.
-/

namespace Timex

namespace Presentation

inductive JoinPiece where
  | literal (c : Char)
  | date
  | time
  deriving DecidableEq, Repr

/-- The pieces of a pattern that is free of apostrophes. -/
def joinPieces : Text → List JoinPiece
  | [] => []
  | '\x7b' :: '0' :: '\x7d' :: rest => .time :: joinPieces rest
  | '\x7b' :: '1' :: '\x7d' :: rest => .date :: joinPieces rest
  | c :: rest => .literal c :: joinPieces rest

def JoinPiece.shown (date time : Text) : JoinPiece → Text
  | .literal c => [c]
  | .date => date
  | .time => time

/-- Both texts put into their places at once. -/
def fill (pieces : List JoinPiece) (date time : Text) : Text :=
  pieces.flatMap (·.shown date time)

/-- No brace stands outside of the places. -/
def BraceFree (pieces : List JoinPiece) : Prop :=
  ∀ c, .literal c ∈ pieces → c ≠ '\x7b' ∧ c ≠ '\x7d'

structure OneTime (pieces : List JoinPiece) : Prop where
  count_time : pieces.count .time = 1
  braceFree : BraceFree pieces

end Presentation

open Presentation

def Locale.joinPieces (l : Locale) : List JoinPiece :=
  Presentation.joinPieces (l.joining.toList.filter (· ≠ '\x27'))

namespace LocaleLibrary

/-- Every locale joins a date to a time by a pattern with one place for the time. -/
def JoinsOneTime [LocaleLibrary] : Prop :=
  ∀ {tag l}, named tag = .ok l → OneTime l.joinPieces

theorem oneTime_of_mem_table {l : Locale} (h : l ∈ Locale.table) : OneTime l.joinPieces := by
  have hcount : ∀ l ∈ Locale.table, l.joinPieces.count .time = 1 := by decide
  have hliteral : ∀ l ∈ Locale.table, ∀ p ∈ l.joinPieces,
      p ≠ .literal '\x7b' ∧ p ≠ .literal '\x7d' := by
    decide
  refine ⟨hcount l h, fun c hc => ?_⟩
  obtain ⟨hopen, hclose⟩ := hliteral l h _ hc
  exact ⟨fun he => hopen (by rw [he]), fun he => hclose (by rw [he])⟩

theorem builtIn_joinsOneTime : @JoinsOneTime builtIn := fun h =>
  oneTime_of_mem_table (mem_table_of_named h)

end LocaleLibrary

namespace Presentation

-- ---------------------------------------------------------------------------
-- Pieces
-- ---------------------------------------------------------------------------

@[simp] theorem fill_nil (date time : Text) : fill [] date time = [] := rfl

@[simp] theorem fill_cons (p : JoinPiece) (ps : List JoinPiece) (date time : Text) :
    fill (p :: ps) date time = p.shown date time ++ fill ps date time := rfl

section
variable {p : JoinPiece} {ps : List JoinPiece} {date time : Text}

theorem BraceFree.tail (h : BraceFree (p :: ps)) : BraceFree ps :=
  fun c hc => h c (List.mem_cons_of_mem p hc)

theorem time_not_mem_of_count (h : (.time :: ps).count JoinPiece.time = 1) : .time ∉ ps := by
  rw [List.count_cons_self] at h
  rw [← List.count_eq_zero]
  exact Nat.succ.inj h

theorem fill_of_not_mem (h : .time ∉ ps) (date time time' : Text) :
    fill ps date time = fill ps date time' := by
  induction ps with
  | nil => rfl
  | cons p ps ih =>
    obtain ⟨hp, hps⟩ := not_or.mp (mt List.mem_cons.mpr h)
    rw [fill_cons, fill_cons, ih hps]
    cases p with
    | literal c => rfl
    | date => rfl
    | time => exact absurd rfl hp

theorem fill_inj {time' : Text} (h : ps.count .time = 1) :
    fill ps date time = fill ps date time' ↔ time = time' := by
  induction ps with
  | nil => simp at h
  | cons p ps ih =>
    rw [fill_cons, fill_cons]
    cases p with
    | literal c => simpa [JoinPiece.shown] using ih (by simpa using h)
    | date => simpa [JoinPiece.shown] using ih (by simpa using h)
    | time =>
      rw [fill_of_not_mem (time_not_mem_of_count h) date time time']
      exact List.append_left_inj _

-- ---------------------------------------------------------------------------
-- One text after the other
-- ---------------------------------------------------------------------------

/-- The places of the date are still there when the time is put in. -/
theorem replaceAll_timePlace (time t : Text) :
    Text.replaceAll timePlace time t = fill (joinPieces t) datePlace time := by
  fun_induction joinPieces t with
  | case1 => rfl
  | case2 rest ih =>
    rw [fill_cons, ← ih]
    exact Text.replaceAll_part_append
  | case3 rest ih =>
    have hno : ¬ timePlace <+: '\x7b' :: (['1', '\x7d'] ++ rest) := fun hp => by
      simp [timePlace] at hp
    have hrest : Text.replaceAll timePlace time (['1', '\x7d'] ++ rest) =
        ['1', '\x7d'] ++ Text.replaceAll timePlace time rest :=
      Text.replaceAll_append_of_not_mem (by decide)
    calc Text.replaceAll timePlace time ('\x7b' :: '1' :: '\x7d' :: rest)
      _ = '\x7b' :: Text.replaceAll timePlace time (['1', '\x7d'] ++ rest) :=
          Text.replaceAll_cons_of_not_begins hno
      _ = datePlace ++ Text.replaceAll timePlace time rest := by
          rw [hrest]
          rfl
      _ = fill (.date :: joinPieces rest) datePlace time := by
          rw [ih]
          rfl
  | case4 c rest htime hdate ih =>
    have hno : ¬ timePlace <+: c :: rest := by
      rintro ⟨w, hw⟩
      obtain ⟨hc, hrest⟩ := List.cons.inj hw
      exact htime w hc.symm hrest.symm
    rw [fill_cons, ← ih]
    exact Text.replaceAll_cons_of_not_begins hno

theorem replaceAll_datePlace_concat {c : Char} (hc : c ≠ '\x7d') (u : Text) :
    Text.replaceAll datePlace date (u ++ [c]) = Text.replaceAll datePlace date u ++ [c] := by
  refine Text.replaceAll_concat (fun front he => hc ?_) u
  have hlast := congrArg List.getLast? he
  rw [List.getLast?_concat] at hlast
  exact (Option.some.inj hlast).symm

/-- Behind a text, the places of the date are as if they stood alone. -/
theorem replaceAll_datePlace_append (hps : .time ∉ ps) (hb : BraceFree ps) (u : Text) :
    Text.replaceAll datePlace date (u ++ fill ps datePlace time) =
      Text.replaceAll datePlace date u ++ fill ps date time := by
  induction ps generalizing u with
  | nil => rw [fill_nil, fill_nil, List.append_nil, List.append_nil]
  | cons p ps ih =>
    obtain ⟨hp, hps⟩ := not_or.mp (mt List.mem_cons.mpr hps)
    have ih := ih hps hb.tail
    rw [fill_cons, fill_cons]
    cases p with
    | literal c =>
      obtain ⟨-, hclose⟩ := hb c (by simp)
      have hu := ih (u ++ [c])
      rw [replaceAll_datePlace_concat hclose] at hu
      simpa [JoinPiece.shown] using hu
    | date =>
      have hrest := ih []
      rw [List.nil_append, Text.replaceAll_nil, List.nil_append] at hrest
      rw [JoinPiece.shown, JoinPiece.shown, ← hrest]
      exact (Text.replaceAll_append_cons (by decide)).trans
        (congrArg (Text.replaceAll datePlace date u ++ ·) Text.replaceAll_part_append)
    | time => exact absurd rfl hp

/-- The date goes into its own places, and into those that the time spells. -/
theorem replaceAll_datePlace (h : OneTime ps) :
    Text.replaceAll datePlace date (fill ps datePlace time) =
      fill ps date (Text.replaceAll datePlace date time) := by
  obtain ⟨hcount, hb⟩ := h
  induction ps with
  | nil => rfl
  | cons p ps ih =>
    rw [fill_cons, fill_cons]
    cases p with
    | literal c =>
      obtain ⟨hopen, -⟩ := hb c (by simp)
      rw [← ih (by simpa using hcount) hb.tail]
      exact Text.replaceAll_append_of_not_mem (by simpa [JoinPiece.shown] using hopen.symm)
    | date =>
      rw [← ih (by simpa using hcount) hb.tail]
      exact Text.replaceAll_part_append
    | time =>
      have hps := time_not_mem_of_count hcount
      rw [JoinPiece.shown, replaceAll_datePlace_append hps hb.tail]
      exact congrArg (_ ++ ·) (fill_of_not_mem hps _ _ _)

end

theorem joinTexts_eq_fill {l : Locale} (h : OneTime l.joinPieces) (date time : Text) :
    joinTexts l.joining.toList date time =
      fill l.joinPieces date (Text.replaceAll datePlace date time) := by
  rw [joinTexts, replaceAll_timePlace]
  exact replaceAll_datePlace h

-- ---------------------------------------------------------------------------
-- Dates that are shown
-- ---------------------------------------------------------------------------

/-- The text of the date of a value, or the name of its weekday if the date has none. -/
def ShowsDate [LocaleLibrary] (s : Settings) (v : Temporal) (date : Text) : Prop :=
  present s .localizedDate v = .ok date ∨
    (∃ e, present s .localizedDate v = .error (.outOfRange e)) ∧
      present s .weekdayName v = .ok date

section
variable [LocaleLibrary] {s : Settings} {v : Temporal} {l : Locale} {date : Text}

theorem ShowsDate.dateOrWeekday? (h : ShowsDate s v date) :
    dateOrWeekday? s v = some (.ok date) := by
  simp only [ShowsDate, present, localizedDate] at h
  unfold Presentation.dateOrWeekday?
  cases hd : dateText? s v with
  | some shown =>
    rw [hd] at h
    rcases h with rfl | ⟨hout, -⟩
    · rfl
    · exact absurd hout (inRange_of_dateText? hd).not_exists
  | none =>
    rw [hd] at h
    rcases h with h | ⟨-, hw⟩
    · simp at h
    · have hsome : v.weekday.isSome = true := by
        by_contra hnone
        simp [weekdayName, Option.not_isSome_iff_eq_none.mp hnone] at hw
      rw [hw]
      simp [hsome]

theorem localizedDateTime_of_showsDate (hl : LocaleLibrary.named s.locale = .ok l)
    (hd : ShowsDate s v date) {time : Presented} (ht : timeText? s v = some time) :
    localizedDateTime s v = time.map (joinTexts l.joining.toList date) := by
  rw [localizedDateTime_eq, hd.dateOrWeekday?, ht]
  cases time with
  | error e => rfl
  | ok shown =>
    simp [forText_of_named hl, fromLocale, Except.mapError, Except.map, bind, Except.bind, pure,
      Except.pure]

theorem exists_timeText? (ht : v.hadExplicitTime = true) (hh : v.hour.isSome = true) :
    ∃ time, timeText? s v = some time := by
  obtain ⟨hour, hh⟩ := Option.isSome_iff_exists.mp hh
  unfold timeText?
  rw [ht, hh]
  exact ⟨_, rfl⟩

end
end Presentation

/-- Where a date and a time are shown, the date goes into its places of the joining pattern and
then into those that the text of the time spells. So the two texts are kept as they are exactly if
the time spells no place of the date, or the date is such a place itself. -/
theorem present_localizedDateTime_eq_fill [LocaleLibrary] (hj : LocaleLibrary.JoinsOneTime)
    {s : Settings} {v : Temporal} {l : Locale} {date : Text}
    (hl : LocaleLibrary.named s.locale = .ok l) (hd : ShowsDate s v date)
    (ht : v.hadExplicitTime = true) (hh : v.hour.isSome = true) :
    present s .localizedDateTime v = (present s .localizedTime v).map (fun time =>
        fill l.joinPieces date (Text.replaceAll datePlace date time)) ∧
      ∀ time, present s .localizedTime v = .ok time →
        (present s .localizedDateTime v = .ok (fill l.joinPieces date time) ↔
          ¬ datePlace <:+: time ∨ date = datePlace) := by
  obtain ⟨shown, hshown⟩ := exists_timeText? (s := s) ht hh
  have hone := hj hl
  have htime : present s .localizedTime v = shown := by
    rw [present, localizedTime, hshown]
  have hjoined : present s .localizedDateTime v = shown.map fun time =>
      fill l.joinPieces date (Text.replaceAll datePlace date time) := by
    rw [present, localizedDateTime_of_showsDate hl hd hshown]
    exact congrArg (shown.map ·) (funext (joinTexts_eq_fill hone date))
  refine ⟨by rw [hjoined, htime], fun time hok => ?_⟩
  rw [hjoined, ← htime, hok]
  calc Except.ok (fill l.joinPieces date (Text.replaceAll datePlace date time)) =
          .ok (fill l.joinPieces date time)
      ↔ fill l.joinPieces date (Text.replaceAll datePlace date time) =
          fill l.joinPieces date time := by rw [Except.ok.injEq]
    _ ↔ Text.replaceAll datePlace date time = time := fill_inj hone.count_time
    _ ↔ ¬ datePlace <:+: time ∨ date = datePlace := Text.replaceAll_eq_self_iff

theorem friday_afternoon_as_it_is :
    ShowsDate Settings.default ⟨some 2024, some 3, some 15, some 5, some 14, some 30, none, true⟩
        "3/15/24".toList ∧
      present Settings.default .localizedDateTime
          ⟨some 2024, some 3, some 15, some 5, some 14, some 30, none, true⟩ =
        .ok (fill Locale.enUS.joinPieces "3/15/24".toList "14:30".toList) := by
  have hd : ShowsDate Settings.default
      ⟨some 2024, some 3, some 15, some 5, some 14, some 30, none, true⟩ "3/15/24".toList :=
    .inl rfl
  obtain ⟨-, hiff⟩ := present_localizedDateTime_eq_fill LocaleLibrary.builtIn_joinsOneTime
    (l := Locale.enUS) rfl hd rfl rfl
  exact ⟨hd, (hiff "14:30".toList rfl).mpr (.inl (by decide))⟩

/-- A time format may spell a place of the date, and the date then stands there too. -/
theorem not_forall_as_they_are :
    ¬ ∀ (s : Settings) (v : Temporal) (l : Locale) (date time : Text),
      LocaleLibrary.named s.locale = .ok l → ShowsDate s v date → v.hadExplicitTime = true →
        present s .localizedTime v = .ok time →
          present s .localizedDateTime v = .ok (fill l.joinPieces date time) := by
  intro h
  have htext := h { Settings.default with timeFormat := "HH:mm \x7b1\x7d".toList }
    ⟨some 2024, some 3, some 15, some 5, some 14, some 30, none, true⟩ Locale.enUS
    "3/15/24".toList "14:30 \x7b1\x7d".toList rfl (.inl rfl) rfl rfl
  have hcode : Except.ok "3/15/24, 14:30 3/15/24".toList =
      (Except.ok "3/15/24, 14:30 \x7b1\x7d".toList : Presented) := htext
  simp at hcode

end Timex
