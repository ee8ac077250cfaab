import Timex.Yaml.Property
import Timex.Yaml.Scalar.Block
import Timex.Yaml.Scalar.Plain
import Timex.Yaml.Scalar.Quoted

/-!
# Layout

The text of a document as tokens. Outside brackets the indentation opens and closes
collections. A key is known only by the colon after it, so the place where it may have
begun is kept, and the announcement goes in there when the colon comes.
-/

namespace Timex.Yaml

/-- A place that becomes the start of a key if a colon follows in time. -/
structure Candidate where
  /-- The count of tokens in front of it. -/
  position : Nat
  /-- Nothing but a key may begin there. -/
  required : Bool
  index : Nat
  line : Nat
  column : Nat
  deriving DecidableEq, Repr

/-- A key has to end on its line and within 1024 characters. -/
def Candidate.isLate (c : Cursor) (k : Candidate) : Bool :=
  k.line != c.line || 1024 < c.index - k.index

/-- A place in the text with what the words before it decided. -/
structure Layout where
  cursor : Cursor
  /-- Why the text ends early, if there is more that cannot be read. -/
  stop : Option Error
  /-- The tokens so far, the last one first. -/
  reversed : List Token
  /-- The columns of the open block collections, the innermost first. -/
  indents : List Nat
  candidate : Option Candidate
  /-- The candidates outside of each open bracket, the innermost first. -/
  outer : List (Option Candidate)
  keyAllowed : Bool

namespace Layout

def start (t : Text) (stop : Option Error) : Layout where
  cursor := .start t
  stop := stop
  reversed := []
  indents := []
  candidate := none
  outer := []
  keyAllowed := true

def inFlow (l : Layout) : Bool := !l.outer.isEmpty

def count (l : Layout) : Nat := l.reversed.length

/-- The least column of a line that continues what is open. -/
def continuation (l : Layout) : Nat :=
  match l.indents with
  | [] => 0
  | column :: _ => column + 1

def push (t : Token) (l : Layout) : Layout := { l with reversed := t :: l.reversed }

/-- Puts tokens in at a position. -/
def insertAt (position : Nat) (ts : List Token) (l : Layout) : Layout :=
  let later := l.count - position
  { l with reversed := l.reversed.take later ++ ts.reverse ++ l.reversed.drop later }

/-! ## Candidates for a key -/

def missingColon : Error := .malformed "a key without a colon"

def dropCandidate (l : Layout) : Except Error Layout :=
  if l.candidate.any (·.required) then .error missingColon else .ok { l with candidate := none }

/-- Drops the candidates that came too far behind. -/
def dropLate (l : Layout) : Except Error Layout :=
  let late := Candidate.isLate l.cursor
  if (l.candidate :: l.outer).any fun k => k.any fun k => k.required && late k then
    .error missingColon
  else
    .ok { l with
      candidate := l.candidate.filter fun k => !late k
      outer := l.outer.map fun k => k.filter fun k => !late k }

/-- Makes the present place the candidate, where a key is allowed. -/
def noteCandidate (l : Layout) : Except Error Layout := do
  if !l.keyAllowed then return l
  let l ← l.dropCandidate
  let required := !l.inFlow && l.indents.head? == some l.cursor.column
  return { l with
    candidate := some ⟨l.count, required, l.cursor.index, l.cursor.line, l.cursor.column⟩ }

/-! ## Indentation -/

/-- Closes the block collections that lie deeper. Brackets close none. -/
def unwind (deeper : Nat → Bool) (l : Layout) : Layout :=
  if l.inFlow then l
  else
    let closed := l.indents.takeWhile deeper
    { l with
      reversed := List.replicate closed.length .blockEnd ++ l.reversed
      indents := l.indents.dropWhile deeper }

def opensAt (column : Nat) (l : Layout) : Bool := l.indents.head?.all (· < column)

/-- Opens a block collection at the present column, if none is open there. -/
def openBlock (t : Token) (l : Layout) : Except Error Layout :=
  if l.inFlow then .ok l
  else if !l.keyAllowed then .error (.malformed "a block entry in the middle of a line")
  else if l.opensAt l.cursor.column then
    .ok { l.push t with indents := l.cursor.column :: l.indents }
  else .ok l

/-! ## Gaps between tokens -/

/-- Passes spaces, comments and line breaks. After a break a key is allowed. -/
def skipGap : Nat → Layout → Layout
  | 0, l => l
  | fuel + 1, l =>
    let c := l.cursor.skipSpaces
    let c := if c.peek = some '#' then (c.takeWhile fun ch => !isBreak ch).2 else c
    if c.peek.any isBreak then
      skipGap fuel { l with cursor := c.takeBreak.2, keyAllowed := l.keyAllowed || !l.inFlow }
    else { l with cursor := c }

/-! ## Tokens -/

/-- Directives and document marks close everything outside brackets. -/
def border (l : Layout) : Except Error Layout := do
  let l ← (l.unwind fun _ => true).dropCandidate
  return { l with keyAllowed := false }

def directive (l : Layout) : Except Error Layout := do
  let l ← l.border
  let (d, c) ← Property.directive l.cursor
  return { l.push (.directive d) with cursor := c }

def documentMark (t : Token) (l : Layout) : Except Error Layout := do
  let l ← l.border
  return { l.push t with cursor := l.cursor.advance 3 }

def openFlow (t : Token) (l : Layout) : Except Error Layout := do
  let l ← l.noteCandidate
  return { l.push t with
    cursor := l.cursor.next, outer := l.candidate :: l.outer, candidate := none, keyAllowed := true }

def closeFlow (t : Token) (l : Layout) : Except Error Layout := do
  let l ← l.dropCandidate
  match l.outer with
  | [] => throw (.malformed "a bracket that was not opened")
  | candidate :: outer =>
    return { l.push t with
      cursor := l.cursor.next, candidate := candidate, outer := outer, keyAllowed := false }

def flowEntry (l : Layout) : Except Error Layout := do
  let l ← l.dropCandidate
  return { l.push .flowEntry with cursor := l.cursor.next, keyAllowed := true }

def blockEntry (l : Layout) : Except Error Layout := do
  let l ← (← l.openBlock .blockSequenceStart).dropCandidate
  return { l.push .blockEntry with cursor := l.cursor.next, keyAllowed := true }

def key (l : Layout) : Except Error Layout := do
  let l ← (← l.openBlock .blockMappingStart).dropCandidate
  return { l.push .key with cursor := l.cursor.next, keyAllowed := !l.inFlow }

def value (l : Layout) : Except Error Layout := do
  let l ← match l.candidate with
    | some k =>
      let l := { l with candidate := none, keyAllowed := false }
      if !l.inFlow && l.opensAt k.column then
        pure { l.insertAt k.position [.blockMappingStart, .key] with indents := k.column :: l.indents }
      else pure (l.insertAt k.position [.key])
    | none => do
      let l ← l.openBlock .blockMappingStart
      pure { l with keyAllowed := !l.inFlow }
  return { l.push .value with cursor := l.cursor.next }

/-- Reads a word that a key may begin with. -/
def word (read : Cursor → Except Error (α × Cursor)) (token : α → Token) (l : Layout) :
    Except Error Layout := do
  let l ← l.noteCandidate
  let (a, c) ← read l.cursor
  return { l.push (token a) with cursor := c, keyAllowed := false }

def blockScalar (folded : Bool) (l : Layout) : Except Error Layout := do
  let l ← l.dropCandidate
  let (text, c) ← Block.read folded (max 1 l.continuation) l.cursor
  return { l.push (.scalar (.ofText text) false) with cursor := c, keyAllowed := true }

def plainScalar (l : Layout) : Except Error Layout := do
  let l ← l.noteCandidate
  let r := Plain.read l.inFlow l.continuation l.cursor
  return { l.push (.scalar (.ofText r.text) true) with
    cursor := r.after, keyAllowed := r.crossesLine }

/-- The signs that no plain scalar begins with. -/
def indicators : Text :=
  ['-', '?', ':', ',', '[', ']', '\x7b', '\x7d', '#', '&', '*', '!', '|', '>', '\x27', '\x22',
   '%', '@', '\x60']

/-- Whether a plain scalar may begin with a character, seen with the one after it. A
sign may if a word goes on from it. -/
def beginsPlain (inFlow : Bool) (c : Char) (next : Option Char) : Bool :=
  !(endsWord (some c) || indicators.contains c) ||
    (!endsWord next && (c == '-' || (!inFlow && (c == '?' || c == ':'))))

/-- Reads the token that begins with a character. -/
def token (l : Layout) (ch : Char) : Except Error Layout :=
  let c := l.cursor
  let alone := endsWord (c.peekAt 1)
  if ch = '%' ∧ c.column = 0 then l.directive
  else if c.column = 0 ∧ c.atMark '-' then l.documentMark .documentStart
  else if c.column = 0 ∧ c.atMark '.' then l.documentMark .documentEnd
  else if ch = '[' then l.openFlow .flowSequenceStart
  else if ch = '\x7b' then l.openFlow .flowMappingStart
  else if ch = ']' then l.closeFlow .flowSequenceEnd
  else if ch = '\x7d' then l.closeFlow .flowMappingEnd
  else if ch = ',' then l.flowEntry
  else if ch = '-' ∧ alone then l.blockEntry
  else if ch = '?' ∧ (l.inFlow ∨ alone) then l.key
  else if ch = ':' ∧ (l.inFlow ∨ alone) then l.value
  else if ch = '*' then l.word Property.name .alias
  else if ch = '&' then l.word Property.name .anchor
  else if ch = '!' then l.word Property.tag .tag
  else if ch = '|' ∧ !l.inFlow then l.blockScalar false
  else if ch = '>' ∧ !l.inFlow then l.blockScalar true
  else if ch = '\x27' then l.word (Quoted.read false) (.scalar · false)
  else if ch = '\x22' then l.word (Quoted.read true) (.scalar · false)
  else if beginsPlain l.inFlow ch (c.peekAt 1) then l.plainScalar
  else .error (.malformed "a character that begins no token")

/-- Why the text is left at a cursor, if that is its end without being the document's. -/
def stopAt (l : Layout) (c : Cursor) : Option Error := if c.rest.isEmpty then l.stop else none

/-- Reads the next token, or at the end closes what is open. -/
def next (l : Layout) : Except Error Layout := do
  let l := l.skipGap (l.cursor.rest.length + 1)
  if let some e := l.stopAt l.cursor then throw e
  let l ← l.dropLate
  let l := l.unwind (l.cursor.column < ·)
  match l.cursor.peek with
  | some ch => l.token ch
  | none => l.border

/-- The tokens that nothing can come in front of any more. -/
def settled (l : Layout) : List Token :=
  let pending := (l.candidate :: l.outer).filterMap fun k =>
    (k.filter fun k => !k.isLate l.cursor).map (·.position)
  l.reversed.reverse.take (pending.foldl min l.count)

/-- Reads tokens up to the end or to what cannot be read. A token that the text breaks
off at does not count. -/
def run : Nat → Layout → List Token
  | 0, l => l.reversed.reverse
  | fuel + 1, l =>
    match l.next with
    | .error .unfinished => l.settled ++ [.failure (l.stop.getD .unfinished)]
    | .error e => l.settled ++ [.failure e]
    | .ok next =>
      match l.stopAt next.cursor with
      | some e => l.settled ++ [.failure e]
      | none => if l.cursor.rest.isEmpty then next.reversed.reverse else run fuel next

end Layout

/-- The tokens of a text, which may break off for a reason. -/
def Token.ofText (t : Text) (stop : Option Error) : List Token :=
  (Layout.start t stop).run (t.length + 2)

end Timex.Yaml
