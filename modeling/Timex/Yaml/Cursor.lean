import Timex.Text.Basic

/-!
# A place in a document

A cursor is the text that is left, with the line, the column and the count of the
characters passed. Line breaks are the line feed, the next-line character and the two
Unicode separators; a carriage return never gets this far.
-/

namespace Timex.Yaml

def isBreak (c : Char) : Bool := c == '\n' || c == '\u0085' || c == '\u2028' || c == '\u2029'

def isSpaceOrTab (c : Char) : Bool := c == ' ' || c == '\t'

def byteOrderMark : Char := '\ufeff'

/-- A break or the end of the text. -/
def endsLine : Option Char → Bool
  | some c => isBreak c
  | none => true

/-- A space, a break or the end. -/
def endsPart : Option Char → Bool
  | some c => c == ' ' || isBreak c
  | none => true

/-- A space, a tab, a break or the end. -/
def endsWord : Option Char → Bool
  | some c => isSpaceOrTab c || isBreak c
  | none => true

structure Cursor where
  rest : Text
  index : Nat
  line : Nat
  column : Nat
  deriving DecidableEq, Repr

namespace Cursor

def start (t : Text) : Cursor := ⟨t, 0, 0, 0⟩

def peek (c : Cursor) : Option Char := c.rest.head?

def peekAt (c : Cursor) (n : Nat) : Option Char := c.rest[n]?

/-- Passes one character. A byte order mark takes no column. -/
def next (c : Cursor) : Cursor :=
  match c.rest with
  | [] => c
  | ch :: rest =>
    if isBreak ch then ⟨rest, c.index + 1, c.line + 1, 0⟩
    else ⟨rest, c.index + 1, c.line, if ch = byteOrderMark then c.column else c.column + 1⟩

def advance : Nat → Cursor → Cursor
  | 0, c => c
  | n + 1, c => advance n c.next

/-- Passes the longest run of a class, and gives the run. -/
def takeWhile (p : Char → Bool) (c : Cursor) : Text × Cursor :=
  let run := c.rest.takeWhile p
  (run, advance run.length c)

def skipSpaces (c : Cursor) : Cursor := (c.takeWhile (· == ' ')).2

/-- Passes spaces up to a column. -/
def skipSpacesTo (column : Nat) (c : Cursor) : Cursor :=
  advance (min (c.rest.takeWhile (· == ' ')).length (column - c.column)) c

/-- Passes a line break, if there is one, and gives the text that it stands for. -/
def takeBreak (c : Cursor) : Text × Cursor :=
  match c.peek with
  | some ch =>
    if ch == '\u2028' || ch == '\u2029' then ([ch], c.next)
    else if isBreak ch then (['\n'], c.next)
    else ([], c)
  | none => ([], c)

/-- Passes spaces, a comment and a line break. Something else before the break fails. -/
def finishLine? (c : Cursor) : Option Cursor :=
  let c := c.skipSpaces
  let c := if c.peek = some '#' then (c.takeWhile fun ch => !isBreak ch).2 else c
  if endsLine c.peek then some c.takeBreak.2 else none

/-- Three hyphens or three dots stand here, with a blank or the end after them. -/
def atMark (c : Cursor) (sign : Char) : Bool :=
  c.rest.take 3 == [sign, sign, sign] && endsWord (c.peekAt 3)

def atDocumentMark (c : Cursor) : Bool := c.atMark '-' || c.atMark '.'

@[simp] theorem rest_advance (n : Nat) (c : Cursor) : (advance n c).rest = c.rest.drop n := by
  induction n generalizing c with
  | zero => rfl
  | succ n ih =>
    rw [advance, ih]
    unfold next
    cases h : c.rest with
    | nil => simp [h]
    | cons ch rest => simp only; split <;> simp

end Cursor
end Timex.Yaml
