import Timex.Yaml.Cursor

/-!
# Plain scalars

A plain scalar has no quotes. It runs to a colon before a blank, to a comment, or to
the end of its block; inside brackets it also stops at their signs. Its lines are
joined: one break is a space, and of several the first is dropped.
-/

namespace Timex.Yaml.Plain

/-- Signs that end a plain scalar inside brackets. -/
def flowSigns : Text := [',', '?', '[', ']', '\x7b', '\x7d']

/-- Signs before which a colon ends a plain scalar inside brackets. -/
def flowColonSigns : Text := [',', '[', ']', '\x7b', '\x7d']

/-- Whether a character, seen with the one after it, ends a run. -/
def stops (flow : Bool) (c : Char) (next : Option Char) : Bool :=
  endsWord (some c) ||
    (c == ':' && (endsWord next || (flow && next.any flowColonSigns.contains))) ||
    (flow && flowSigns.contains c)

/-- The longest run without a blank and without the end of the scalar. -/
def run (flow : Bool) : Text → Text
  | [] => []
  | c :: cs => if stops flow c cs.head? then [] else c :: run flow cs

/-- What lies between two runs: the text it stands for, empty where the scalar ends. -/
structure Gap where
  text : Text
  after : Cursor
  crossesLine : Bool

/-- Passes empty lines and indentation, collecting the breaks. It stops with `none` at
a document mark. -/
def emptyLines : Nat → Cursor → Text → Option Text × Cursor
  | 0, c, breaks => (some breaks, c)
  | fuel + 1, c, breaks =>
    match c.peek with
    | some ' ' => emptyLines fuel c.next breaks
    | some ch =>
      if isBreak ch then
        let (text, c) := c.takeBreak
        if c.atDocumentMark then (none, c) else emptyLines fuel c (breaks ++ text)
      else (some breaks, c)
    | none => (some breaks, c)

def gap (c : Cursor) : Gap :=
  let (spaces, c) := c.takeWhile (· == ' ')
  if c.peek.any isBreak then
    let (first, c) := c.takeBreak
    if c.atDocumentMark then ⟨[], c, true⟩
    else
      match emptyLines c.rest.length c [] with
      | (none, c) => ⟨[], c, true⟩
      | (some breaks, c) =>
        let text := if first ≠ ['\n'] then first ++ breaks else if breaks.isEmpty then [' '] else breaks
        ⟨text, c, true⟩
  else ⟨spaces, c, false⟩

/-- A scalar that was read, the place after it, and whether that is on a later line. -/
structure Result where
  text : Text
  after : Cursor
  crossesLine : Bool

/-- Reads runs and the gaps between them. `indent` is the least column of a
continuation line outside of brackets. -/
def runs (flow : Bool) (indent : Nat) : Nat → Cursor → Text → Bool → Result
  | 0, c, text, crossed => ⟨text, c, crossed⟩
  | fuel + 1, c, text, crossed =>
    if c.peek = some '#' then ⟨text, c, crossed⟩
    else
      let part := run flow c.rest
      if part.isEmpty then ⟨text, c, crossed⟩
      else
        let g := gap (c.advance part.length)
        let text := text ++ part
        if g.text.isEmpty || g.after.peek == some '#' || (!flow && g.after.column < indent) then
          ⟨text, g.after, g.crossesLine⟩
        else
          let rest := runs flow indent fuel g.after [] g.crossesLine
          if rest.text.isEmpty then ⟨text, rest.after, rest.crossesLine⟩
          else ⟨text ++ g.text ++ rest.text, rest.after, rest.crossesLine⟩

/-- Reads a plain scalar. -/
def read (flow : Bool) (indent : Nat) (c : Cursor) : Result :=
  runs flow indent (c.rest.length + 1) c [] false

end Timex.Yaml.Plain
