import Mathlib.Logic.Function.Iterate
import Timex.Proofs.Token.Variants

/-!
# Canonical tokens settle

Trimming, dropping the designator of universal time and joining a date to its time leave nothing
for one another to do, but a designator may stand behind another one. So a canonical token is
canonical once more unless it ends in a designator, and each time that it does there is one
designator less than before.
-/

namespace Timex.Token

-- ---------------------------------------------------------------------------
-- Designators
-- ---------------------------------------------------------------------------

def isDesignator (c : Char) : Bool := c == 'Z' || c == 'z'

/-- The number of designators, wherever they stand. -/
def designators (t : Text) : Nat := t.countP isDesignator

def endsInDesignator (t : Text) : Bool := t.getLast?.any isDesignator

/-- What may stand around a token and is no part of it. -/
def isDropped (c : Char) : Bool := Text.isBlank c || isDesignator c

/-- The token without the blanks around it and without a designator at its end, however many there
were, with its date and its time in one. -/
def settled (token : Text) : Text :=
  joinDateAndTime (Text.dropRightWhile isDropped (Text.trim token))

theorem isDesignator_iff {c : Char} : isDesignator c = true ↔ c = 'Z' ∨ c = 'z' := by
  simp [isDesignator]

theorem endsInDesignator_iff {t : Text} :
    endsInDesignator t = true ↔ ∃ front c, isDesignator c = true ∧ t = front ++ [c] := by
  rw [endsInDesignator, Option.any_eq_true]
  constructor
  · rintro ⟨c, hl, hc⟩
    obtain ⟨front, rfl⟩ := List.getLast?_eq_some_iff.mp hl
    exact ⟨front, c, hc, rfl⟩
  · rintro ⟨front, c, hc, rfl⟩
    exact ⟨c, List.getLast?_concat, hc⟩

theorem endsInDesignator_eq_false_iff {t : Text} :
    endsInDesignator t = false ↔ ∀ c, t.getLast? = some c → ¬ (c = 'Z' ∨ c = 'z') := by
  simp [endsInDesignator, Option.any_eq_false, isDesignator]

-- ---------------------------------------------------------------------------
-- Dropping a designator
-- ---------------------------------------------------------------------------

theorem dropZoneDesignator_eq_self {t : Text} (h : endsInDesignator t = false) :
    dropZoneDesignator t = t :=
  dropZoneDesignator_of_last (endsInDesignator_eq_false_iff.mp h)

theorem dropZoneDesignator_concat {front : Text} {c : Char} (hc : isDesignator c = true) :
    dropZoneDesignator (front ++ [c]) = Text.dropRightWhile Text.isBlank front :=
  dropZoneDesignator_append (isDesignator_iff.mp hc)

theorem trimmed_dropZoneDesignator {t : Text} (h : Text.Trimmed Text.isBlank t) :
    Text.Trimmed Text.isBlank (dropZoneDesignator t) := by
  cases he : endsInDesignator t with
  | false => exact (dropZoneDesignator_eq_self he).symm ▸ h
  | true =>
    obtain ⟨front, c, hc, rfl⟩ := endsInDesignator_iff.mp he
    rw [dropZoneDesignator_concat hc]
    refine ⟨fun d hd => ?_, fun d hd => Text.getLast?_dropRightWhile hd⟩
    refine h.head d ?_
    rw [List.head?_append, Text.head?_dropRightWhile hd]
    rfl

/-- A designator that was dropped is one designator less. -/
theorem designators_dropZoneDesignator_lt {t : Text} (h : endsInDesignator t = true) :
    designators (dropZoneDesignator t) < designators t := by
  obtain ⟨front, c, hc, rfl⟩ := endsInDesignator_iff.mp h
  rw [dropZoneDesignator_concat hc]
  calc designators (Text.dropRightWhile Text.isBlank front)
      ≤ designators front := (Text.dropRightWhile_sublist _ _).countP_le
    _ < designators (front ++ [c]) := by simp [designators, hc]

theorem dropRightWhile_dropZoneDesignator (t : Text) :
    Text.dropRightWhile isDropped (dropZoneDesignator t) = Text.dropRightWhile isDropped t := by
  cases he : endsInDesignator t with
  | false => rw [dropZoneDesignator_eq_self he]
  | true =>
    obtain ⟨front, c, hc, rfl⟩ := endsInDesignator_iff.mp he
    have hblank : ∀ d, Text.isBlank d = true → isDropped d = true := by
      intro d hd
      simp [isDropped, hd]
    have hlast : ∀ d ∈ [c], isDropped d = true := by simp [isDropped, hc]
    rw [dropZoneDesignator_concat hc, Text.dropRightWhile_dropRightWhile hblank,
      Text.dropRightWhile_append hlast]

theorem dropRightWhile_isDropped_eq_self {t : Text} (ht : Text.Trimmed Text.isBlank t)
    (hz : endsInDesignator t = false) : Text.dropRightWhile isDropped t = t := by
  refine Text.dropRightWhile_of_last fun c hc => ?_
  have hd : isDesignator c = false := by
    rw [← Bool.not_eq_true, isDesignator_iff]
    exact endsInDesignator_eq_false_iff.mp hz c hc
  simp [isDropped, ht.last c hc, hd]

-- ---------------------------------------------------------------------------
-- A date and a time in one
-- ---------------------------------------------------------------------------

namespace Apart

variable (a : Apart)

theorem endsInDesignator_text : endsInDesignator a.text = false :=
  endsInDesignator_eq_false_iff.mpr fun _ h =>
    not_zone_of_isTimePart a.time_part (a.mem_time_of_last_text h)

theorem endsInDesignator_joined : endsInDesignator a.joined = false :=
  endsInDesignator_eq_false_iff.mpr fun _ h =>
    not_zone_of_isTimePart a.time_part (a.mem_time_of_last_joined h)

theorem trimmed_joined : Text.Trimmed Text.isBlank a.joined :=
  .of_forall fun _ => a.not_blank_of_mem_joined

theorem space_mem_text : ' ' ∈ a.text := by
  have hs : ' ' ∈ List.replicate a.spaces ' ' :=
    List.mem_replicate.mpr ⟨Nat.ne_of_gt a.spaces_pos, rfl⟩
  simp [text, hs]

theorem joined_ne_text (b : Apart) : a.joined ≠ b.text := by
  intro h
  have hb := a.not_blank_of_mem_joined (h ▸ b.space_mem_text)
  exact absurd hb (by decide)

end Apart

/-- What is left is never a date and a time apart. -/
theorem joinDateAndTime_ne_text (t : Text) (a : Apart) : joinDateAndTime t ≠ a.text := by
  intro h
  rcases joinDateAndTime_cases t with he | ⟨b, -, he⟩
  · obtain rfl : t = a.text := he.symm.trans h
    exact a.joined_ne_text a (a.joinDateAndTime_text.symm.trans h)
  · exact b.joined_ne_text a (he.symm.trans h)

-- ---------------------------------------------------------------------------
-- Tokens that are canonical already
-- ---------------------------------------------------------------------------

theorem trimmed_canonical (token : Text) : Text.Trimmed Text.isBlank (canonical token) := by
  rcases canonical_cases token with h | ⟨a, -, h⟩
  · rw [h]
    exact trimmed_dropZoneDesignator (Text.trimmed_trimBy _ _)
  · rw [h]
    exact a.trimmed_joined

/-- A canonical token that ends in a designator has lost the one that stood behind it. -/
theorem designators_canonical_lt {token : Text} (h : endsInDesignator (canonical token) = true) :
    designators (canonical token) < designators token := by
  rcases canonical_cases token with he | ⟨a, -, he⟩
  · rw [he] at h ⊢
    cases hz : endsInDesignator (Text.trim token) with
    | false =>
      rw [dropZoneDesignator_eq_self hz, hz] at h
      exact absurd h Bool.false_ne_true
    | true =>
      calc designators (dropZoneDesignator (Text.trim token))
          < designators (Text.trim token) := designators_dropZoneDesignator_lt hz
        _ ≤ designators token := (Text.trimBy_sublist _ token).countP_le
  · rw [he, a.endsInDesignator_joined] at h
    exact absurd h Bool.false_ne_true

theorem canonical_eq_self_iff {t : Text} :
    canonical t = t ↔
      Text.Trimmed Text.isBlank t ∧ endsInDesignator t = false ∧ ∀ a : Apart, t ≠ a.text := by
  constructor
  · intro h
    refine ⟨h ▸ trimmed_canonical t, ?_, fun a => h ▸ joinDateAndTime_ne_text _ a⟩
    -- A token that lost its designator is another token.
    cases hz : endsInDesignator t with
    | false => rfl
    | true =>
      have hlt := designators_canonical_lt (h.symm ▸ hz)
      rw [h] at hlt
      exact absurd hlt (Nat.lt_irrefl _)
  · rintro ⟨ht, hz, ha⟩
    have he : dropZoneDesignator (Text.trim t) = t := by
      rw [Text.trim_eq_self ht, dropZoneDesignator_eq_self hz]
    rcases canonical_cases t with h | ⟨a, h, -⟩
    · exact h.trans he
    · exact absurd (he.symm.trans h) (ha a)

theorem canonical_canonical_iff {token : Text} :
    canonical (canonical token) = canonical token ↔ endsInDesignator (canonical token) = false := by
  rw [canonical_eq_self_iff]
  exact ⟨fun h => h.2.1, fun h => ⟨trimmed_canonical token, h, joinDateAndTime_ne_text _⟩⟩

-- ---------------------------------------------------------------------------
-- Again and again
-- ---------------------------------------------------------------------------

theorem settled_eq_self {t : Text} (h : canonical t = t) : settled t = t := by
  obtain ⟨ht, hz, ha⟩ := canonical_eq_self_iff.mp h
  rw [settled, Text.trim_eq_self ht, dropRightWhile_isDropped_eq_self ht hz]
  rcases joinDateAndTime_cases t with he | ⟨a, he, -⟩
  · exact he
  · exact absurd he (ha a)

/-- What a token settles to is settled in advance: no step changes it. -/
theorem settled_canonical (token : Text) : settled (canonical token) = settled token := by
  rcases canonical_cases token with h | ⟨a, hin, h⟩
  · rw [settled, Text.trim_eq_self (trimmed_canonical token), h, dropRightWhile_dropZoneDesignator,
      settled]
  · rw [h, settled_eq_self (canonical_joined a), settled, ← dropRightWhile_dropZoneDesignator, hin,
      dropRightWhile_isDropped_eq_self a.trimmed_text a.endsInDesignator_text,
      a.joinDateAndTime_text]

theorem settled_iterate (steps : Nat) (token : Text) :
    settled (canonical^[steps] token) = settled token := by
  induction steps with
  | zero => rfl
  | succ steps ih => rw [Function.iterate_succ_apply', settled_canonical, ih]

/-- Each step but the last takes a designator. -/
theorem exists_canonical_iterate (token : Text) :
    ∃ steps ≤ designators token + 1,
      canonical (canonical^[steps] token) = canonical^[steps] token := by
  induction hn : designators token using Nat.strongRecOn generalizing token with
  | ind n ih =>
    cases he : endsInDesignator (canonical token) with
    | false => exact ⟨1, Nat.le_add_left 1 n, canonical_canonical_iff.mpr he⟩
    | true =>
      have hlt := designators_canonical_lt he
      obtain ⟨steps, hle, hfix⟩ := ih _ (hn ▸ hlt) (canonical token) rfl
      exact ⟨steps + 1, by omega, hfix⟩

/-- Nothing blank stands around a canonical token, and it is canonical once more exactly if it
does not end in a designator. After at most one step more than it has designators a token has
settled: no designator stands behind it, and further steps change nothing. -/
theorem canonical_settles (token : Text) :
    Text.Trimmed Text.isBlank (canonical token) ∧
      (canonical (canonical token) = canonical token ↔
        endsInDesignator (canonical token) = false) ∧
      ∃ steps ≤ designators token + 1,
        canonical^[steps] token = settled token ∧ canonical (settled token) = settled token := by
  refine ⟨trimmed_canonical token, canonical_canonical_iff, ?_⟩
  obtain ⟨steps, hle, hfix⟩ := exists_canonical_iterate token
  have hs : canonical^[steps] token = settled token :=
    calc canonical^[steps] token
        = settled (canonical^[steps] token) := (settled_eq_self hfix).symm
      _ = settled token := settled_iterate steps token
  exact ⟨steps, hle, hs, hs ▸ hfix⟩

/-- The date and the time come together when the last designator goes. -/
example : canonical "2018-10-28 14:00Z Z".toList = "2018-10-28 14:00Z".toList ∧
    canonical^[2] "2018-10-28 14:00Z Z".toList = "2018-10-28T14:00".toList := by
  decide

end Timex.Token
