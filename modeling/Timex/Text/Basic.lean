/-!
# Text

Text is a list of characters. Every function on it is a recursion on the list,
and so is every argument about it.
-/

namespace Timex

abbrev Text := List Char

namespace Text

/-! ## Trimming -/

def dropRightWhile (p : Char → Bool) (t : Text) : Text :=
  (t.reverse.dropWhile p).reverse

/-- Drops the characters of the class from both ends. -/
def trimBy (p : Char → Bool) (t : Text) : Text :=
  dropRightWhile p (t.dropWhile p)

/-! ## Splitting -/

/-- The groups between separators. Text without a separator is one group. -/
def split [DecidableEq α] (sep : α) : List α → List (List α)
  | [] => [[]]
  | c :: cs =>
    if c = sep then [] :: split sep cs
    else match split sep cs with
      | [] => [[c]]
      | g :: gs => (c :: g) :: gs

/-- The text up to the first separator, and the text after it if there is one. -/
def cut (sep : Char) : Text → Text × Option Text
  | [] => ([], none)
  | c :: cs =>
    if c = sep then ([], some cs)
    else
      let (before, after) := cut sep cs
      (c :: before, after)

/-- The groups with the separator between them: undoes `split`. -/
def join (sep : α) : List (List α) → List α
  | [] => []
  | [g] => g
  | g :: gs => g ++ sep :: join sep gs

theorem split_ne_nil [DecidableEq α] (sep : α) (t : List α) : split sep t ≠ [] := by
  cases t with
  | nil => simp [split]
  | cons c cs =>
    unfold split
    split
    · simp
    · split <;> simp

theorem join_split [DecidableEq α] (sep : α) (t : List α) : join sep (split sep t) = t := by
  induction t with
  | nil => rfl
  | cons c cs ih =>
    unfold split
    split
    · rename_i h
      cases hs : split sep cs with
      | nil => exact absurd hs (split_ne_nil sep cs)
      | cons g gs =>
        rw [hs] at ih
        simp [join, ih, h]
    · cases hs : split sep cs with
      | nil => exact absurd hs (split_ne_nil sep cs)
      | cons g gs =>
        rw [hs] at ih
        cases gs with
        | nil => simpa [join] using ih
        | cons g' gs => simpa [join] using ih

/-! ## Searching -/

/-- The text without the first occurrence of a part, if the part occurs. -/
def eraseFirst? (part : Text) : Text → Option Text
  | [] => if part.isEmpty then some [] else none
  | c :: cs =>
    match part.isPrefixOf? (c :: cs) with
    | some rest => some rest
    | none => (eraseFirst? part cs).map (c :: ·)

/-- Passes over `skip` characters, then replaces occurrences as `replaceAll` does. -/
def replaceFrom (part new : Text) : Nat → Text → Text
  | _, [] => []
  | skip + 1, _ :: cs => replaceFrom part new skip cs
  | 0, c :: cs =>
    if part.isPrefixOf (c :: cs) then new ++ replaceFrom part new (part.length - 1) cs
    else c :: replaceFrom part new 0 cs

/-- Replaces every occurrence of a nonempty part, from left to right. What is
put in is not searched again. -/
def replaceAll (part new t : Text) : Text :=
  if part.isEmpty then t else replaceFrom part new 0 t

end Text
end Timex
