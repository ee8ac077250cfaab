import Timex.Yaml.Property
import Timex.Yaml.Scalar.Block
import Timex.Yaml.Scalar.Plain
import Timex.Yaml.Scalar.Quoted

/-!
# What a word takes

Reading a word never goes back: what is left after it is no longer than before, and a word
that begins at a character takes at least that character. `Ensures` says what holds of
whatever a computation gives, and has one rule for each way of putting computations
together.
-/

namespace Timex.Yaml

-- ---------------------------------------------------------------------------
-- Computations that may fail
-- ---------------------------------------------------------------------------

/-- Whatever a computation gives has a property. It may fail. -/
def Ensures (post : α → Prop) (r : Except ε α) : Prop := ∀ a, r = .ok a → post a

namespace Ensures

variable {post : α → Prop} {between : β → Prop}

theorem ok {a : α} (h : post a) : Ensures post (.ok a : Except ε α) := by
  rintro _ ⟨⟩
  exact h

theorem pure {a : α} (h : post a) : Ensures post (pure a : Except ε α) := ok h

theorem error (e : ε) : Ensures post (.error e) := by simp [Ensures]

theorem throw (e : ε) : Ensures post (throw e : Except ε α) := error e

theorem bind {r : Except ε β} {f : β → Except ε α} (hr : Ensures between r)
    (hf : ∀ b, between b → Ensures post (f b)) : Ensures post (r >>= f) := by
  intro a h
  cases r with
  | error e => cases h
  | ok b => exact hf b (hr b rfl) a h

/-- What comes after a check is done where the check has passed. -/
theorem check {fails : Prop} [Decidable fails] {e : ε} {f : Unit → Except ε α}
    (hf : ¬fails → Ensures post (f ())) :
    Ensures post (if fails then (MonadExcept.throw e : Except ε Unit) >>= f else f ()) := by
  by_cases h : fails
  · rw [if_pos h]
    exact error e
  · rw [if_neg h]
    exact hf h

theorem ite {c : Prop} [Decidable c] {r s : Except ε α} (hr : c → Ensures post r)
    (hs : ¬c → Ensures post s) : Ensures post (if c then r else s) := by
  split
  · exact hr ‹_›
  · exact hs ‹_›

theorem and {post' : α → Prop} {r : Except ε α} (h : Ensures post r) (h' : Ensures post' r) :
    Ensures (fun a => post a ∧ post' a) r := fun a ha => ⟨h a ha, h' a ha⟩

theorem mono {r : Except ε α} {weaker : α → Prop} (hr : Ensures post r)
    (h : ∀ a, post a → weaker a) : Ensures weaker r := fun a ha => h a (hr a ha)

end Ensures

-- ---------------------------------------------------------------------------
-- Places
-- ---------------------------------------------------------------------------

namespace Cursor

/-- The count of characters that are left. -/
def left (c : Cursor) : Nat := c.rest.length

variable (c : Cursor)

@[simp] theorem left_advance (n : Nat) : (advance n c).left = c.left - n := by simp [left]

@[simp] theorem left_next : c.next.left = c.left - 1 := left_advance c 1

theorem left_pos_of_peek {ch : Char} (h : c.peek = some ch) : 0 < c.left := by
  simp only [peek, List.head?_eq_some_iff] at h
  obtain ⟨t, h⟩ := h
  simp [left, h]

theorem left_takeWhile_le (p : Char → Bool) : (c.takeWhile p).2.left ≤ c.left := by
  simp [takeWhile]

theorem left_skipSpaces_le : c.skipSpaces.left ≤ c.left := c.left_takeWhile_le _

theorem left_skipSpacesTo_le (column : Nat) : (c.skipSpacesTo column).left ≤ c.left := by
  simp [skipSpacesTo]

theorem left_takeBreak_le : c.takeBreak.2.left ≤ c.left := by
  unfold takeBreak
  repeat' split
  all_goals simp

variable {c} in
theorem left_finishLine?_le {d : Cursor} (h : c.finishLine? = some d) : d.left ≤ c.left := by
  have hs := c.left_skipSpaces_le
  have hw := c.skipSpaces.left_takeWhile_le fun ch => !isBreak ch
  simp only [finishLine?, Option.ite_none_right_eq_some, Option.some.injEq] at h
  obtain ⟨-, rfl⟩ := h
  refine Nat.le_trans (left_takeBreak_le _) ?_
  split <;> omega

end Cursor

/-- No more than `n` characters are left after what is read. -/
abbrev Leaves (n : Nat) : Except Error (α × Cursor) → Prop := Ensures (fun p => p.2.left ≤ n)

-- ---------------------------------------------------------------------------
-- Anchors, tags and directives
-- ---------------------------------------------------------------------------

namespace Property

open Cursor

theorem leaves_name (c : Cursor) : Leaves (c.left - 1) (name c) := by
  have h := c.next.left_takeWhile_le isNameChar
  unfold name
  generalize c.next.takeWhile isNameChar = run at h ⊢
  obtain ⟨word, d⟩ := run
  refine .check fun _ => .ite (fun _ => .pure ?_) fun _ => .throw _
  simpa using h

theorem leaves_octets (fuel : Nat) (c : Cursor) : Leaves c.left (octets fuel c) := by
  induction fuel generalizing c with
  | zero => exact .ok (Nat.le_refl _)
  | succ fuel ih =>
    unfold octets
    refine .ite (fun _ => ?_) fun _ => .ok (Nat.le_refl _)
    extract_lets digits
    split
    · refine (ih _).bind fun (ns, d) hd => .pure ?_
      simp only [left_advance] at hd
      simp only
      omega
    · exact .error _

theorem leaves_uriParts (fuel : Nat) (c : Cursor) : Leaves c.left (uriParts fuel c) := by
  induction fuel generalizing c with
  | zero => exact .ok (Nat.le_refl _)
  | succ fuel ih =>
    unfold uriParts
    split
    · refine .ite (fun _ => ?_) fun _ => .ite (fun _ => ?_) fun _ => .ok (Nat.le_refl _)
      · refine (leaves_octets _ c).bind fun (ns, d) hd => ?_
        simp only at hd ⊢
        split
        · exact (ih d).bind fun (rest, _) h => .pure (Nat.le_trans h hd)
        · exact .throw _
      · refine (ih c.next).bind fun (rest, d) hd => .pure ?_
        simp only [left_next] at hd
        simp only
        omega
    · exact .ok (Nat.le_refl _)

theorem leaves_uri (c : Cursor) : Leaves c.left (uri c) := by
  unfold uri
  refine (leaves_uriParts _ c).bind fun (t, d) hd => .check fun _ => .pure hd

theorem leaves_handle (c : Cursor) : Leaves (c.left - 1) (handle c) := by
  have h := c.next.left_takeWhile_le isNameChar
  unfold handle
  refine .check fun _ => .ite (fun _ => .pure (by simp)) fun _ => ?_
  generalize c.next.takeWhile isNameChar = run at h ⊢
  obtain ⟨word, d⟩ := run
  refine .check fun _ => .pure ?_
  simp only [left_next] at h ⊢
  omega

theorem leaves_tag (c : Cursor) : Leaves (c.left - 1) (tag c) := by
  unfold tag
  -- the three ways to write a tag meet again in `last`, and those with a handle in `named`
  extract_lets last word named
  have leaves_last (t : WrittenTag) (d : Cursor) (hd : d.left ≤ c.left - 1) :
      Leaves (c.left - 1) (last (t, d)) := .ite (fun _ => .pure hd) fun _ => .throw _
  refine .ite (fun _ => ?_) fun _ => .ite (fun _ => ?_) fun _ => ?_
  · refine (leaves_uri _).bind fun (suffix, d) hd => .check fun _ => leaves_last _ _ ?_
    simp only [left_next, left_advance] at hd ⊢
    omega
  · exact leaves_last _ _ (by simp)
  · have leaves_named (h : Text) (d : Cursor) (hd : d.left ≤ c.left - 1) :
        Leaves (c.left - 1) (named (h, d)) :=
      (leaves_uri d).bind fun (suffix, _) he => leaves_last _ _ (Nat.le_trans he hd)
    refine .ite (fun _ => ?_) fun _ => leaves_named _ _ (by simp)
    exact (leaves_handle c).bind fun (h, d) hd => leaves_named h d hd

theorem leaves_versionNumber (c : Cursor) : Leaves c.left (versionNumber c) := by
  have h := c.left_takeWhile_le Char.isDigit
  unfold versionNumber
  generalize c.takeWhile Char.isDigit = run at h ⊢
  obtain ⟨digits, d⟩ := run
  exact .check fun _ => .check fun _ => .pure h

theorem leaves_version (c : Cursor) : Leaves c.left (version c) := by
  have hs := c.left_skipSpaces_le
  unfold version
  refine (leaves_versionNumber _).bind fun (major, d) hd => .check fun _ => ?_
  refine (leaves_versionNumber _).bind fun (minor, e) he => .check fun _ => .pure ?_
  simp only [left_next] at *
  omega

theorem leaves_tagHandle (c : Cursor) : Leaves c.left (tagHandle c) := by
  have hs := c.left_skipSpaces_le
  unfold tagHandle
  refine (leaves_handle _).bind fun (h, d) hd => .check fun _ => ?_
  have hd' := d.left_skipSpaces_le
  refine (leaves_uri _).bind fun (expansion, e) he => .check fun _ => .pure ?_
  simp only at *
  omega

theorem leaves_directive (c : Cursor) : Leaves (c.left - 1) (directive c) := by
  have hw := c.next.left_takeWhile_le isNameChar
  unfold directive
  generalize c.next.takeWhile isNameChar = run at hw ⊢
  obtain ⟨word, d⟩ := run
  simp only [left_next] at hw
  refine .check fun _ => .check fun _ => ?_
  extract_lets last
  have leaves_last (r : Directive) (e : Cursor) (he : e.left ≤ d.left) :
      Leaves (c.left - 1) (last (r, e)) := by
    simp only [last]
    split
    · have := left_finishLine?_le ‹_›
      exact .pure (by simp only; omega)
    · exact .throw _
  refine .ite (fun _ => ?_) fun _ => .ite (fun _ => ?_) fun _ => leaves_last _ _ ?_
  · exact (leaves_version d).bind fun (r, e) he => leaves_last r e he
  · exact (leaves_tagHandle d).bind fun (r, e) he => leaves_last r e he
  · exact d.left_takeWhile_le _

end Property

-- ---------------------------------------------------------------------------
-- Quoted scalars
-- ---------------------------------------------------------------------------

namespace Quoted

open Cursor

theorem leaves_blankLines (fuel : Nat) (c : Cursor) (breaks : Text) :
    Leaves c.left (blankLines fuel c breaks) := by
  induction fuel generalizing c breaks with
  | zero => exact .ok (Nat.le_refl _)
  | succ fuel ih =>
    have hb := c.left_takeWhile_le isSpaceOrTab
    have ht := (c.takeWhile isSpaceOrTab).2.left_takeBreak_le
    unfold blankLines
    refine .ite (fun _ => .error _) fun _ => .ite (fun _ => ?_) fun _ => .ok hb
    exact (ih _ _).mono fun p hp => Nat.le_trans hp (Nat.le_trans ht hb)

theorem leaves_fold (c : Cursor) : Leaves c.left (fold c) := by
  unfold fold
  refine (leaves_blankLines _ _ _).bind fun (breaks, d) hd => .pure ?_
  exact Nat.le_trans hd c.left_takeBreak_le

theorem leaves_space (c : Cursor) : Leaves c.left (space c) := by
  have h := c.left_takeWhile_le isSpaceOrTab
  unfold space
  generalize c.takeWhile isSpaceOrTab = run at h ⊢
  obtain ⟨spaces, d⟩ := run
  simp only at h ⊢
  split
  · exact .throw _
  · exact .ite (fun _ => (leaves_fold d).mono fun p hp => Nat.le_trans hp h) fun _ => .pure h

theorem leaves_escape (c : Cursor) : Leaves c.left (escape c) := by
  unfold escape
  split
  · exact .throw _
  split
  · exact .pure (by simp)
  split
  · extract_lets digits
    split
    · refine .check fun _ => .pure ?_
      simp only [left_advance, left_next]
      omega
    · exact .throw _
  · refine .ite (fun _ => ?_) fun _ => .throw _
    have h := leaves_blankLines (c.rest.length + 1) c.takeBreak.2 []
    rw [map_eq_pure_bind]
    exact h.bind fun p hp => .pure (Nat.le_trans hp c.left_takeBreak_le)

theorem leaves_body (double : Bool) (fuel : Nat) (c : Cursor) : Leaves c.left (body double fuel c) := by
  induction fuel generalizing c with
  | zero => exact .error _
  | succ fuel ih =>
    unfold body
    split
    · exact .throw _
    refine .ite (fun _ => .pure (by simp)) fun _ => ?_
    extract_lets further
    have leaves_further (part : WideText) (d : Cursor) (hd : d.left ≤ c.left) :
        Leaves c.left (further (part, d)) :=
      (ih d).bind fun (rest, _) h => .pure (Nat.le_trans h hd)
    refine .ite (fun _ => leaves_further _ _ (by simp)) fun _ => .ite (fun _ => ?_) fun _ =>
      .ite (fun _ => ?_) fun _ => leaves_further _ _ (by simp)
    · refine (leaves_escape c.next).bind fun (part, d) hd => leaves_further _ _ ?_
      simp only [left_next] at hd
      omega
    · exact (leaves_space c).bind fun (part, d) hd => leaves_further _ _ hd

theorem leaves_read (double : Bool) (c : Cursor) : Leaves (c.left - 1) (read double c) := by
  have h := leaves_body double (c.rest.length + 1) c.next
  rwa [left_next] at h

end Quoted

-- ---------------------------------------------------------------------------
-- Block scalars
-- ---------------------------------------------------------------------------

namespace Block

open Cursor

theorem left_signs_le (c : Cursor) : (signs c).2.left ≤ c.left := by
  unfold signs
  dsimp only
  repeat' split
  all_goals
    simp only [left_next]
    omega

theorem leaves_header (c : Cursor) : Leaves c.left (header c) := by
  have h := left_signs_le c
  unfold header
  generalize signs c = r at h ⊢
  obtain ⟨hd, d⟩ := r
  refine .check fun _ => .check fun _ => ?_
  split
  · exact .pure (Nat.le_trans (left_finishLine?_le ‹_›) h)
  · exact .throw _

theorem left_leadingLines_le (fuel : Nat) (c : Cursor) (breaks : Text) (greatest : Nat) :
    (leadingLines fuel c breaks greatest).2.2.left ≤ c.left := by
  induction fuel generalizing c breaks greatest with
  | zero => exact Nat.le_refl _
  | succ fuel ih =>
    unfold leadingLines
    split
    · exact Nat.le_trans (ih _ _ _) (by simp)
    · split
      · exact Nat.le_trans (ih _ _ _) c.left_takeBreak_le
      · exact Nat.le_refl _
    · exact Nat.le_refl _

theorem left_emptyLines_le (indent fuel : Nat) (c : Cursor) (breaks : Text) :
    (emptyLines indent fuel c breaks).2.left ≤ c.left := by
  induction fuel generalizing c breaks with
  | zero => exact Nat.le_refl _
  | succ fuel ih =>
    have hs := c.left_skipSpacesTo_le indent
    have ht := (c.skipSpacesTo indent).left_takeBreak_le
    unfold emptyLines
    extract_lets d
    split
    · exact Nat.le_trans (ih _ _) (Nat.le_trans ht hs)
    · exact hs

theorem cursor_finish (chomping : Chomping) (text breaks lastBreak : Text) (c : Cursor) :
    (lines.finish chomping text breaks lastBreak c).2 = c := by
  cases chomping <;> rfl

theorem left_lines_le (folded : Bool) (chomping : Chomping) (indent fuel : Nat) (c : Cursor)
    (text breaks lastBreak : Text) :
    (lines folded chomping indent fuel c text breaks lastBreak).2.left ≤ c.left := by
  induction fuel generalizing c text breaks lastBreak with
  | zero => exact Nat.le_refl _
  | succ fuel ih =>
    unfold lines
    split
    · have hw := c.left_takeWhile_le fun ch => !isBreak ch
      generalize c.takeWhile _ = run at hw ⊢
      obtain ⟨line, c₁⟩ := run
      have ht := c₁.left_takeBreak_le
      dsimp only at hw ⊢
      generalize c₁.takeBreak = run at ht ⊢
      obtain ⟨lastBreak, c₂⟩ := run
      have he := left_emptyLines_le indent (c₂.rest.length + 1) c₂ []
      dsimp only at ht ⊢
      generalize emptyLines indent _ c₂ [] = run at he ⊢
      obtain ⟨breaks, c₃⟩ := run
      dsimp only at he ⊢
      have h₃ : c₃.left ≤ c.left := by omega
      split
      · exact Nat.le_trans (ih _ _ _ _) h₃
      · rw [cursor_finish]
        exact h₃
    · exact Nat.le_of_eq (congrArg left (cursor_finish ..))

theorem leaves_read (folded : Bool) (least : Nat) (c : Cursor) :
    Leaves (c.left - 1) (read folded least c) := by
  unfold read
  refine (leaves_header c.next).bind fun (h, d) hd => ?_
  simp only [left_next] at hd ⊢
  split
  · have he := left_emptyLines_le (least + ‹Nat› - 1) (d.rest.length + 1) d []
    generalize emptyLines _ _ d [] = run at he ⊢
    obtain ⟨breaks, e⟩ := run
    exact .pure (Nat.le_trans (left_lines_le _ _ _ _ _ _ _ _) (Nat.le_trans he hd))
  · have he := left_leadingLines_le d.rest.length d [] 0
    generalize leadingLines _ d [] 0 = run at he ⊢
    obtain ⟨breaks, greatest, e⟩ := run
    exact .pure (Nat.le_trans (left_lines_le _ _ _ _ _ _ _ _) (Nat.le_trans he hd))

end Block

-- ---------------------------------------------------------------------------
-- Plain scalars
-- ---------------------------------------------------------------------------

namespace Plain

open Cursor

theorem left_emptyLines_le (fuel : Nat) (c : Cursor) (breaks : Text) :
    (emptyLines fuel c breaks).2.left ≤ c.left := by
  induction fuel generalizing c breaks with
  | zero => exact Nat.le_refl _
  | succ fuel ih =>
    unfold emptyLines
    split
    · exact Nat.le_trans (ih _ _) (by simp)
    · split
      · dsimp only
        split
        · exact c.left_takeBreak_le
        · exact Nat.le_trans (ih _ _) c.left_takeBreak_le
      · exact Nat.le_refl _
    · exact Nat.le_refl _

theorem left_gap_le (c : Cursor) : (gap c).after.left ≤ c.left := by
  have hs := c.left_takeWhile_le (· == ' ')
  unfold gap
  generalize c.takeWhile _ = run at hs ⊢
  obtain ⟨spaces, d⟩ := run
  dsimp only at hs ⊢
  split
  · have ht := d.left_takeBreak_le
    generalize d.takeBreak = run at ht ⊢
    obtain ⟨first, e⟩ := run
    dsimp only at ht ⊢
    have he := left_emptyLines_le e.rest.length e []
    split
    · exact Nat.le_trans ht hs
    · split
      all_goals
        rename_i h
        rw [h] at he
        exact Nat.le_trans he (Nat.le_trans ht hs)
  · exact hs

/-- After a run and the gap behind it the scalar ends, or what goes on there is read. -/
theorem after_runs (flow : Bool) (indent fuel : Nat) (c : Cursor) (text : Text) (crossed : Bool) :
    let r := runs flow indent (fuel + 1) c text crossed
    let g := gap (c.advance (run flow c.rest).length)
    if c.peek = some '#' ∨ run flow c.rest = [] then r.after = c
    else r.after = g.after ∨ r.after = (runs flow indent fuel g.after [] g.crossesLine).after := by
  intro r g
  simp only [r, runs]
  by_cases hc : c.peek = some '#'
  · simp [hc]
  by_cases hp : run flow c.rest = []
  · simp [hc, hp]
  simp only [hc, hp, or_self, ↓reduceIte, List.isEmpty_iff]
  split
  · exact .inl rfl
  · split <;> exact .inr rfl

theorem left_runs_le (flow : Bool) (indent fuel : Nat) (c : Cursor) (text : Text) (crossed : Bool) :
    (runs flow indent fuel c text crossed).after.left ≤ c.left := by
  induction fuel generalizing c text crossed with
  | zero => exact Nat.le_refl _
  | succ fuel ih =>
    have h := after_runs flow indent fuel c text crossed
    have hg := left_gap_le (c.advance (run flow c.rest).length)
    rw [left_advance] at hg
    dsimp only at h
    generalize gap _ = g at h hg
    split at h
    · exact Nat.le_of_eq (congrArg left h)
    · have := ih g.after [] g.crossesLine
      rcases h with h | h <;> rw [h] <;> omega

/-- A scalar whose first run is not empty takes a character. -/
theorem left_read_lt (flow : Bool) (indent : Nat) {c : Cursor} (hc : c.peek ≠ some '#')
    (hr : run flow c.rest ≠ []) : (read flow indent c).after.left < c.left := by
  have h := after_runs flow indent c.rest.length c [] false
  have hg := left_gap_le (c.advance (run flow c.rest).length)
  have hn : 0 < (run flow c.rest).length := List.length_pos_iff.mpr hr
  have hl : 0 < c.left := List.length_pos_iff.mpr fun h => hr (by rw [h, run])
  rw [left_advance] at hg
  simp only [hc, hr, or_self, ↓reduceIte] at h
  generalize gap _ = g at h hg
  have := left_runs_le flow indent c.rest.length g.after [] g.crossesLine
  rw [read]
  rcases h with h | h <;> rw [h] <;> omega

end Plain
end Timex.Yaml
