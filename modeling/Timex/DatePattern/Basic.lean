import Timex.Text.Basic

/-!
# Date patterns

A pattern is text in which runs of certain letters stand for fields. Text between
apostrophes is literal; two apostrophes stand for one, anywhere. `pieces` reads a
pattern as a row of fields and literal characters.
-/

namespace Timex.DatePattern

inductive Piece where
  | literal (c : Char)
  | field (letter : Char) (count : Nat)
  deriving DecidableEq, Repr

/-- Stands for two apostrophes while a pattern is read. -/
def apostropheMark : Char := '\x00'

def markApostrophes (pattern : Text) : Text :=
  Text.replaceAll ['\x27', '\x27'] [apostropheMark] pattern

def literal (c : Char) : Piece := .literal (if c = apostropheMark then '\x27' else c)

/-- The lengths that a field may have. -/
inductive Lengths where
  | any
  | upTo (count : Nat)
  | oneOf (counts : List Nat)
  deriving DecidableEq, Repr

def Lengths.allows : Lengths → Nat → Bool
  | .any, _ => true
  | .upTo count, n => n ≤ count
  | .oneOf counts, n => counts.contains n

/-- The letters of fields and the lengths of each. Other letters are literal. -/
def fieldLengths : Char → Option Lengths
  | 'y' | 'Y' | 'u' | 'g' | 'S' | 'A' => some .any
  | 'G' | 'Q' | 'q' | 'M' | 'L' | 'a' | 'b' | 'B' | 'Z' | 'x' | 'X' => some (.upTo 5)
  | 'w' | 'd' | 'h' | 'H' | 'K' | 'k' | 'm' | 's' => some (.upTo 2)
  | 'W' | 'F' => some (.upTo 1)
  | 'D' => some (.upTo 3)
  | 'E' | 'e' => some (.upTo 6)
  | 'c' => some (.oneOf [1, 3, 4, 5, 6])
  | 'z' | 'V' => some (.upTo 4)
  | 'O' | 'v' => some (.oneOf [1, 4])
  | _ => none

def isFieldLetter (c : Char) : Bool := (fieldLengths c).isSome

/-- Adds a letter in front of pieces that begin with what followed it. -/
def extend (c : Char) (next : Option Char) (rest : List Piece) : List Piece :=
  match rest with
  | .field d n :: more => if next = some c ∧ d = c then .field c (n + 1) :: more else .field c 1 :: rest
  | _ => .field c 1 :: rest

mutual

/-- Reads outside of apostrophes. -/
def outside : Text → List Piece
  | [] => []
  | c :: cs =>
    if c = '\x27' then (inside [] cs)
    else if isFieldLetter c then extend c cs.head? (outside cs)
    else literal c :: outside cs

/-- Reads up to the closing apostrophe. Text that is never closed is dropped. -/
def inside (held : Text) : Text → List Piece
  | [] => []
  | c :: cs =>
    if c = '\x27' then held.reverse.map literal ++ outside cs
    else inside (c :: held) cs

end

def pieces (pattern : Text) : List Piece := outside (markApostrophes pattern)

end Timex.DatePattern
