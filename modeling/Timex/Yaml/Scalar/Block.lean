import Timex.Yaml.Cursor
import Timex.Yaml.Error

/-!
# Block scalars

A literal scalar keeps its lines; a folded one joins them, except next to lines that
begin with a space. The header may fix the indentation and says what becomes of the
breaks at the end.
-/

namespace Timex.Yaml.Block

/-- What becomes of the breaks at the end: none, one or all are kept. -/
inductive Chomping where
  | strip
  | clip
  | keep
  deriving DecidableEq, Repr

structure Header where
  chomping : Chomping
  /-- The indentation in addition to that of the block around. -/
  increment : Option Nat
  deriving DecidableEq, Repr

def chomping? : Option Char → Option Chomping
  | some '+' => some .keep
  | some '-' => some .strip
  | _ => none

def increment? (c : Option Char) : Option Nat :=
  c.bind fun ch => if ch.isDigit then some (ch.toNat - '0'.toNat) else none

/-- The signs after `|` or `>`, in either order. -/
def signs (c : Cursor) : Header × Cursor :=
  match chomping? c.peek with
  | some chomping =>
    let c := c.next
    match increment? c.peek with
    | some n => (⟨chomping, some n⟩, c.next)
    | none => (⟨chomping, none⟩, c)
  | none =>
    match increment? c.peek with
    | some n =>
      let c := c.next
      match chomping? c.peek with
      | some chomping => (⟨chomping, some n⟩, c.next)
      | none => (⟨.clip, some n⟩, c)
    | none => (⟨.clip, none⟩, c)

/-- The header and the end of its line. -/
def header (c : Cursor) : Except Error (Header × Cursor) := do
  let (h, c) := signs c
  if h.increment = some 0 then throw (.malformed "an indentation of zero")
  if !endsPart c.peek then throw (.malformed "an unknown sign in a block header")
  match c.finishLine? with
  | some c => return (h, c)
  | none => throw (.malformed "text after a block header")

/-- Passes the empty lines in front, with their breaks and the greatest column seen. -/
def leadingLines : Nat → Cursor → Text → Nat → Text × Nat × Cursor
  | 0, c, breaks, greatest => (breaks, greatest, c)
  | fuel + 1, c, breaks, greatest =>
    match c.peek with
    | some ' ' =>
      let c := c.next
      leadingLines fuel c breaks (max greatest c.column)
    | some ch =>
      if isBreak ch then
        let (text, c) := c.takeBreak
        leadingLines fuel c (breaks ++ text) greatest
      else (breaks, greatest, c)
    | none => (breaks, greatest, c)

/-- Passes empty lines of at most the indentation, with their breaks. -/
def emptyLines (indent : Nat) : Nat → Cursor → Text → Text × Cursor
  | 0, c, breaks => (breaks, c)
  | fuel + 1, c, breaks =>
    let c := c.skipSpacesTo indent
    if c.peek.any isBreak then
      let (text, c) := c.takeBreak
      emptyLines indent fuel c (breaks ++ text)
    else (breaks, c)

/-- Reads lines of the indentation. `breaks` are those of the empty lines just passed. -/
def lines (folded : Bool) (chomping : Chomping) (indent : Nat) :
    Nat → Cursor → Text → Text → Text → Text × Cursor
  | 0, c, text, _, _ => (text, c)
  | fuel + 1, c, text, breaks, lastBreak =>
    if c.column = indent ∧ c.peek.isSome then
      let flush := !c.peek.any isSpaceOrTab
      let (line, c) := c.takeWhile fun ch => !isBreak ch
      let text := text ++ breaks ++ line
      let (lastBreak, c) := c.takeBreak
      let (breaks, c) := emptyLines indent (c.rest.length + 1) c []
      if c.column = indent ∧ c.peek.isSome then
        let joined := folded && lastBreak == ['\n'] && flush && !c.peek.any isSpaceOrTab
        let between := if !joined then lastBreak else if breaks.isEmpty then [' '] else []
        lines folded chomping indent fuel c (text ++ between) breaks []
      else finish text breaks lastBreak c
    else finish text breaks lastBreak c
where
  /-- The text with the breaks that are kept at its end. -/
  finish (text breaks lastBreak : Text) (c : Cursor) : Text × Cursor :=
    match chomping with
    | .strip => (text, c)
    | .clip => (text ++ lastBreak, c)
    | .keep => (text ++ lastBreak ++ breaks, c)

/-- Reads a block scalar, from its sign. `least` is the least indentation it may have. -/
def read (folded : Bool) (least : Nat) (c : Cursor) : Except Error (Text × Cursor) := do
  let (h, c) ← header c.next
  match h.increment with
  | some n =>
    let indent := least + n - 1
    let (breaks, c) := emptyLines indent (c.rest.length + 1) c []
    return lines folded h.chomping indent (c.rest.length + 1) c [] breaks []
  | none =>
    let (breaks, greatest, c) := leadingLines c.rest.length c [] 0
    return lines folded h.chomping (max least greatest) (c.rest.length + 1) c [] breaks []

end Timex.Yaml.Block
