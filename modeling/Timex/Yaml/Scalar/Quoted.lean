import Timex.Text.Digit
import Timex.Yaml.Cursor
import Timex.Yaml.Error

/-!
# Quoted scalars

Between apostrophes only the apostrophe is special, and is written twice. Between
quotation marks a backslash starts an escape. Line breaks are folded in both: one is a
space, and of several the first is dropped.
-/

namespace Timex.Yaml.Quoted

def escapes : List (Char × Char) :=
  [('0', '\x00'), ('a', '\x07'), ('b', '\x08'), ('t', '\t'), ('\t', '\t'), ('n', '\n'),
   ('v', '\x0b'), ('f', '\x0c'), ('r', '\r'), ('e', '\x1b'), (' ', ' '), ('\x22', '\x22'),
   ('\\', '\\'), ('/', '/'), ('N', '\u0085'), ('_', '\u00a0'), ('L', '\u2028'),
   ('P', '\u2029')]

/-- The count of hexadecimal digits after an escape letter. -/
def codeLength : Char → Option Nat
  | 'x' => some 2
  | 'u' => some 4
  | 'U' => some 8
  | _ => none

/-- Passes the blank lines after a break. A document mark may not stand in a scalar. -/
def blankLines : Nat → Cursor → Text → Except Error (Text × Cursor)
  | 0, c, breaks => .ok (breaks, c)
  | fuel + 1, c, breaks =>
    if c.atDocumentMark then .error (.malformed "a document mark inside a quoted scalar")
    else
      let c := (c.takeWhile isSpaceOrTab).2
      if c.peek.any isBreak then
        let (text, c) := c.takeBreak
        blankLines fuel c (breaks ++ text)
      else .ok (breaks, c)

/-- The text for a break and the blank lines after it. -/
def fold (c : Cursor) : Except Error (Text × Cursor) := do
  let (first, c) := c.takeBreak
  let (breaks, c) ← blankLines (c.rest.length + 1) c []
  let text := if first ≠ ['\n'] then first ++ breaks else if breaks.isEmpty then [' '] else breaks
  return (text, c)

/-- Spaces, tabs and perhaps breaks. Those before a break are dropped. -/
def space (c : Cursor) : Except Error (Text × Cursor) := do
  let (spaces, c) := c.takeWhile isSpaceOrTab
  match c.peek with
  | none => throw .unfinished
  | some ch => if isBreak ch then fold c else return (spaces, c)

/-- The escape after a backslash. It may name a surrogate. -/
def escape (c : Cursor) : Except Error (WideText × Cursor) := do
  match c.peek with
  | none => throw .unfinished
  | some ch =>
    match escapes.lookup ch with
    | some meant => return ([.char meant], c.next)
    | none =>
    match codeLength ch with
    | some count =>
      let digits := c.next.rest.take count
      match if digits.length = count then Text.numberIn? 16 digits else none with
      | some n =>
        if 0x110000 ≤ n then throw (.unconvertible (.codePoint n))
        return ([.ofNat n], c.next.advance count)
      | none => throw (.malformed "an escape lacks hexadecimal digits")
    | none =>
      if isBreak ch then wide <$> blankLines (c.rest.length + 1) c.takeBreak.2 []
      else throw (.malformed "an unknown escape")
where
  wide (part : Text × Cursor) : WideText × Cursor := (WideText.ofText part.1, part.2)

def closing (double : Bool) : Char := if double then '\x22' else '\x27'

/-- Reads up to the closing quote. -/
def body (double : Bool) : Nat → Cursor → Except Error (WideText × Cursor)
  | 0, _ => .error .unfinished
  | fuel + 1, c => do
    match c.peek with
    | none => throw .unfinished
    | some ch =>
      if ch = closing double ∧ (double ∨ c.peekAt 1 ≠ some ch) then return ([], c.next)
      let (part, c) ←
        if ch = closing double then pure ([.char ch], c.advance 2)
        else if double && ch == '\\' then escape c.next
        else if isSpaceOrTab ch || isBreak ch then
          let (part, c) ← space c
          pure (WideText.ofText part, c)
        else pure ([.char ch], c.next)
      let (rest, c) ← body double fuel c
      return (part ++ rest, c)

/-- Reads a quoted scalar, from the opening quote. -/
def read (double : Bool) (c : Cursor) : Except Error (WideText × Cursor) :=
  body double (c.rest.length + 1) c.next

end Timex.Yaml.Quoted
