import Timex.Text.Blank

/-!
# Canonical tokens

A recognizer spells one moment in several ways: with blanks around it, with the
designator `Z` of universal time, with a space where `T` belongs. `canonical` gives
the spelling with neither.
-/

namespace Timex.Token

/-- Drops one final `Z` or `z`, and the blanks before it. -/
def dropZoneDesignator (t : Text) : Text :=
  match t.getLast? with
  | some c => if c = 'Z' ∨ c = 'z' then Text.dropRightWhile Text.isBlank t.dropLast else t
  | none => t

/-- Something, then a hyphen, then one or two digits. -/
def endsInShortGroup (t : Text) : Bool :=
  let backwards := t.reverse
  let digits := backwards.takeWhile Char.isDigit
  (digits.length == 1 || digits.length == 2) &&
    match backwards.dropWhile Char.isDigit with
    | '-' :: _ :: _ => true
    | _ => false

/-- One or two digits. -/
def isShortGroup (t : Text) : Bool :=
  t.all Char.isDigit && (t.length == 1 || t.length == 2)

/-- One to three short groups with colons between them. -/
def isColonGroups (t : Text) : Bool :=
  let groups := Text.split ':' t
  groups.length ≤ 3 && groups.all isShortGroup

/-- Puts `T` in place of the spaces between a date and a time. -/
def joinDateAndTime (t : Text) : Text :=
  let date := t.takeWhile (fun c => !Text.isBlank c)
  let rest := t.dropWhile (fun c => !Text.isBlank c)
  let time := rest.dropWhile (· = ' ')
  if endsInShortGroup date && rest.head? == some ' ' && isColonGroups time then
    date ++ 'T' :: time
  else t

def canonical (token : Text) : Text :=
  joinDateAndTime (dropZoneDesignator (Text.trim token))

end Timex.Token
