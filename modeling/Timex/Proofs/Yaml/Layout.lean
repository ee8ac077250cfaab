import Timex.Proofs.Yaml.Consumption
import Timex.Yaml.Layout

/-!
# Texts that break off

Every token takes a character, so that the fuel of `Layout.run` lasts to the end of the
text. The tokens of a text that breaks off therefore end with the reason.
-/

namespace Timex.Yaml
namespace Layout

open Cursor

variable {l : Layout}

-- ---------------------------------------------------------------------------
-- Places
-- ---------------------------------------------------------------------------

/-- The text has been read no further. -/
def SamePlace (l n : Layout) : Prop := n.cursor = l.cursor ∧ n.stop = l.stop

/-- The same text has been read further. -/
def Onward (l n : Layout) : Prop := n.cursor.left < l.cursor.left ∧ n.stop = l.stop

theorem SamePlace.trans {k n : Layout} (hk : l.SamePlace k) (hn : k.SamePlace n) : l.SamePlace n :=
  ⟨hn.1.trans hk.1, hn.2.trans hk.2⟩

theorem samePlace_dropCandidate (l : Layout) : Ensures l.SamePlace l.dropCandidate :=
  .ite (fun _ => .error _) fun _ => .ok ⟨rfl, rfl⟩

theorem samePlace_dropLate (l : Layout) : Ensures l.SamePlace l.dropLate :=
  .ite (fun _ => .error _) fun _ => .ok ⟨rfl, rfl⟩

theorem samePlace_noteCandidate (l : Layout) : Ensures l.SamePlace l.noteCandidate := by
  refine .ite (fun _ => .pure ⟨rfl, rfl⟩) fun _ => ?_
  exact l.samePlace_dropCandidate.bind fun n hn => .pure hn

theorem inFlow_noteCandidate (l : Layout) : Ensures (fun n => n.inFlow = l.inFlow) l.noteCandidate := by
  refine .ite (fun _ => .pure rfl) fun _ => .bind ?_ fun n hn => .pure hn
  exact .ite (fun _ => .error _) fun _ => .ok rfl

theorem samePlace_openBlock (t : Token) (l : Layout) : Ensures l.SamePlace (l.openBlock t) :=
  .ite (fun _ => .ok ⟨rfl, rfl⟩) fun _ => .ite (fun _ => .error _) fun _ =>
    .ite (fun _ => .ok ⟨rfl, rfl⟩) fun _ => .ok ⟨rfl, rfl⟩

theorem samePlace_unwind (deeper : Nat → Bool) (l : Layout) : l.SamePlace (l.unwind deeper) := by
  unfold unwind
  split <;> exact ⟨rfl, rfl⟩

theorem samePlace_border (l : Layout) : Ensures l.SamePlace l.border := by
  obtain ⟨hc, hs⟩ := l.samePlace_unwind fun _ => true
  refine (samePlace_dropCandidate _).bind fun n hn => .pure ?_
  exact ⟨hn.1.trans hc, hn.2.trans hs⟩

theorem skipGap_le (fuel : Nat) (l : Layout) :
    (l.skipGap fuel).cursor.left ≤ l.cursor.left ∧ (l.skipGap fuel).stop = l.stop := by
  induction fuel generalizing l with
  | zero => exact ⟨Nat.le_refl _, rfl⟩
  | succ fuel ih =>
    have hs := l.cursor.left_skipSpaces_le
    have hw := l.cursor.skipSpaces.left_takeWhile_le fun ch => !isBreak ch
    unfold skipGap
    extract_lets c d
    have hd : d.left ≤ l.cursor.left := by
      simp only [d]
      split
      · exact Nat.le_trans hw hs
      · exact hs
    split
    · obtain ⟨hn, he⟩ := ih { l with cursor := d.takeBreak.2, keyAllowed := l.keyAllowed || !l.inFlow }
      exact ⟨Nat.le_trans hn (Nat.le_trans d.left_takeBreak_le hd), he⟩
    · exact ⟨hd, rfl⟩

/-- What goes on from the same place and takes a character leads on. -/
theorem SamePlace.onward {n m : Layout} (hn : l.SamePlace n) (hl : 0 < l.cursor.left)
    (hm : m.cursor.left ≤ n.cursor.left - 1) (hs : m.stop = n.stop) : l.Onward m := by
  obtain ⟨hc, he⟩ := hn
  rw [hc] at hm
  exact ⟨by omega, hs.trans he⟩

-- ---------------------------------------------------------------------------
-- Tokens
-- ---------------------------------------------------------------------------

section

variable (hl : 0 < l.cursor.left)
include hl

theorem onward_directive : Ensures l.Onward l.directive :=
  l.samePlace_border.bind fun n hn => (Property.leaves_directive n.cursor).bind fun _ hd =>
    .pure (hn.onward hl hd rfl)

theorem onward_documentMark (t : Token) : Ensures l.Onward (l.documentMark t) :=
  l.samePlace_border.bind fun n hn => .pure (hn.onward hl (by simp; omega) rfl)

theorem onward_openFlow (t : Token) : Ensures l.Onward (l.openFlow t) :=
  l.samePlace_noteCandidate.bind fun n hn => .pure (hn.onward hl (by simp) rfl)

theorem onward_closeFlow (t : Token) : Ensures l.Onward (l.closeFlow t) := by
  refine l.samePlace_dropCandidate.bind fun n hn => ?_
  split
  · exact .throw _
  · exact .pure (hn.onward hl (by simp) rfl)

theorem onward_flowEntry : Ensures l.Onward l.flowEntry :=
  l.samePlace_dropCandidate.bind fun n hn => .pure (hn.onward hl (by simp) rfl)

theorem onward_blockEntry : Ensures l.Onward l.blockEntry :=
  (l.samePlace_openBlock _).bind fun k hk => k.samePlace_dropCandidate.bind fun n hn =>
    .pure ((hk.trans hn).onward hl (by simp) rfl)

theorem onward_key : Ensures l.Onward l.key :=
  (l.samePlace_openBlock _).bind fun k hk => k.samePlace_dropCandidate.bind fun n hn =>
    .pure ((hk.trans hn).onward hl (by simp) rfl)

theorem onward_value : Ensures l.Onward l.value := by
  unfold value
  extract_lets last
  have onward_last (n : Layout) (hn : l.SamePlace n) : Ensures l.Onward (last n) :=
    .pure (hn.onward hl (by simp) rfl)
  split
  · exact .ite (fun _ => onward_last _ ⟨rfl, rfl⟩) fun _ => onward_last _ ⟨rfl, rfl⟩
  · exact (l.samePlace_openBlock _).bind fun n hn => onward_last _ hn

theorem onward_word {read : Cursor → Except Error (α × Cursor)} (token : α → Token)
    (hr : ∀ c, Leaves (c.left - 1) (read c)) : Ensures l.Onward (l.word read token) :=
  l.samePlace_noteCandidate.bind fun n hn => (hr n.cursor).bind fun _ hd =>
    .pure (hn.onward hl hd rfl)

theorem onward_blockScalar (folded : Bool) : Ensures l.Onward (l.blockScalar folded) :=
  l.samePlace_dropCandidate.bind fun n hn => (Block.leaves_read folded _ n.cursor).bind fun _ hd =>
    .pure (hn.onward hl hd rfl)

end

/-- A character that can begin a plain scalar belongs to its first run. -/
theorem not_stops_of_beginsPlain {flow : Bool} {ch : Char} {next : Option Char}
    (h : beginsPlain flow ch next = true) : ch ≠ '#' ∧ Plain.stops flow ch next = false := by
  simp only [beginsPlain, Bool.or_eq_true, Bool.and_eq_true, Bool.not_eq_true', beq_iff_eq,
    Bool.or_eq_false_iff] at h
  rcases h with ⟨hw, hi⟩ | ⟨hn, rfl | ⟨rfl, rfl | rfl⟩⟩
  · -- every sign that stops a scalar is one that none begins with
    simp_all [indicators, Plain.stops, Plain.flowSigns]
  all_goals
    simp [Plain.stops, Plain.flowSigns, hn]
    rfl

theorem onward_plainScalar {ch : Char} (h : l.cursor.peek = some ch)
    (hb : beginsPlain l.inFlow ch (l.cursor.peekAt 1) = true) : Ensures l.Onward l.plainScalar := by
  refine (l.samePlace_noteCandidate.and l.inFlow_noteCandidate).bind
    fun n ⟨⟨hc, hs⟩, hf⟩ => .pure ⟨?_, hs⟩
  rw [← hc] at h hb ⊢
  rw [← hf] at hb
  obtain ⟨hne, hstop⟩ := not_stops_of_beginsPlain hb
  refine Plain.left_read_lt _ _ (by simp [h, hne]) ?_
  obtain ⟨t, ht⟩ : ∃ t, n.cursor.rest = ch :: t := List.head?_eq_some_iff.mp h
  have hnext : t.head? = n.cursor.peekAt 1 := by simp [peekAt, ht, List.head?_eq_getElem?]
  simp [ht, Plain.run, hnext, hstop]

/-- A token that begins at a character takes it. -/
theorem onward_token {ch : Char} (h : l.cursor.peek = some ch) : Ensures l.Onward (l.token ch) := by
  have hl := left_pos_of_peek _ h
  unfold token
  extract_lets c alone
  refine .ite (fun _ => onward_directive hl) fun _ => ?_
  refine .ite (fun _ => onward_documentMark hl _) fun _ => ?_
  refine .ite (fun _ => onward_documentMark hl _) fun _ => ?_
  refine .ite (fun _ => onward_openFlow hl _) fun _ => ?_
  refine .ite (fun _ => onward_openFlow hl _) fun _ => ?_
  refine .ite (fun _ => onward_closeFlow hl _) fun _ => ?_
  refine .ite (fun _ => onward_closeFlow hl _) fun _ => ?_
  refine .ite (fun _ => onward_flowEntry hl) fun _ => ?_
  refine .ite (fun _ => onward_blockEntry hl) fun _ => ?_
  refine .ite (fun _ => onward_key hl) fun _ => ?_
  refine .ite (fun _ => onward_value hl) fun _ => ?_
  refine .ite (fun _ => onward_word hl _ Property.leaves_name) fun _ => ?_
  refine .ite (fun _ => onward_word hl _ Property.leaves_name) fun _ => ?_
  refine .ite (fun _ => onward_word hl _ Property.leaves_tag) fun _ => ?_
  refine .ite (fun _ => onward_blockScalar hl _) fun _ => ?_
  refine .ite (fun _ => onward_blockScalar hl _) fun _ => ?_
  refine .ite (fun _ => onward_word hl _ (Quoted.leaves_read _)) fun _ => ?_
  refine .ite (fun _ => onward_word hl _ (Quoted.leaves_read _)) fun _ => ?_
  exact .ite (fun hb => onward_plainScalar h hb) fun _ => .error _

-- ---------------------------------------------------------------------------
-- Runs
-- ---------------------------------------------------------------------------

/-- Where the text breaks off, the next token leads on. -/
theorem onward_next (hs : l.stop.isSome) : Ensures l.Onward l.next := by
  obtain ⟨hle, hsame⟩ := l.skipGap_le (l.cursor.rest.length + 1)
  unfold next
  generalize l.skipGap _ = k at hle hsame
  dsimp only
  split
  · exact .error _
  rename_i hnone
  refine k.samePlace_dropLate.bind fun n hn => ?_
  have hm := hn.trans (n.samePlace_unwind (n.cursor.column < ·))
  generalize n.unwind _ = m at hm
  split
  · rename_i ch hch
    refine (onward_token hch).mono fun d hd => ?_
    rw [Onward, hm.1, hm.2] at hd
    exact ⟨by omega, hd.2.trans hsame⟩
  · rename_i hch
    -- at the end the reason is thrown in front of the token
    have hend : k.cursor.rest = [] := by simpa [peek, hm.1] using hch
    have hstop : k.stopAt k.cursor = l.stop := by simp [stopAt, hend, hsame]
    obtain ⟨e, he⟩ := Option.isSome_iff_exists.mp hs
    exact absurd (hstop.trans he) (hnone e)

/-- The tokens end with a failure. -/
def Broken (ts : List Token) : Prop := ∃ front why, ts = front ++ [.failure why]

/-- Fuel for the characters that are left lasts, so that a text which breaks off is not
taken for a whole one. -/
theorem broken_run (fuel : Nat) (hs : l.stop.isSome) (hf : l.cursor.left < fuel) :
    Broken (l.run fuel) := by
  induction fuel generalizing l with
  | zero => omega
  | succ fuel ih =>
    unfold run
    split
    · exact ⟨_, _, rfl⟩
    · exact ⟨_, _, rfl⟩
    · rename_i n hn
      obtain ⟨hlt, hstop⟩ := onward_next hs n hn
      split
      · exact ⟨_, _, rfl⟩
      · rw [if_neg]
        · exact ih (hstop ▸ hs) (by omega)
        · intro h
          simp [left, List.isEmpty_iff.mp h] at hlt

end Layout

theorem Token.broken_ofText (t : Text) (e : Error) : Layout.Broken (Token.ofText t (some e)) :=
  Layout.broken_run _ rfl (by simp [Layout.start, Cursor.start, Cursor.left])

end Timex.Yaml
