import Timex.Text.Case
import Timex.Text.Quoted

/-!
# Text with surrogates

An escape may name any code point, also a surrogate, which is no character by itself.
Two of them side by side stay two. Text with surrogates can be compared and shown; what
asks for characters does not get them.
-/

namespace Timex

inductive CodePoint where
  | char (c : Char)
  | surrogate (n : Nat)
  deriving DecidableEq, Repr

def CodePoint.ofNat (n : Nat) : CodePoint :=
  if n.isValidChar then .char (Char.ofNat n) else .surrogate n

abbrev WideText := List CodePoint

namespace WideText

def ofText (t : Text) : WideText := t.map .char

/-- The characters, if there is nothing else. -/
def toText? : WideText → Option Text
  | [] => some []
  | .char c :: t => (toText? t).map (c :: ·)
  | .surrogate _ :: _ => none

/-- The characters without the surrogates. -/
def chars (t : WideText) : Text :=
  t.filterMap fun
    | .char c => some c
    | .surrogate _ => none

/-- The characters up to the first surrogate. -/
def front : WideText → Text
  | .char c :: t => c :: front t
  | _ => []

/-- The replacement character for each surrogate. -/
def replaced (t : WideText) : Text :=
  t.map fun
    | .char c => c
    | .surrogate _ => '\ufffd'

def escape (quote : Char) : CodePoint → Text
  | .char c => Text.escape quote c
  | .surrogate n => '\\' :: 'u' :: Text.hexadecimal 4 n

/-- The text between quotes, surrogates as escapes. -/
def quoted (t : WideText) : Text :=
  let quote := Text.quoteFor t.chars
  quote :: t.flatMap (escape quote) ++ [quote]

/-- The text in small letters. A surrogate has no case and ends a word. -/
def lower (t : WideText) : WideText := go [] t
where
  /-- Collects characters up to the next surrogate. -/
  go (reversed : Text) : WideText → WideText
    | [] => ofText (Text.lower reversed.reverse)
    | .char c :: t => go (c :: reversed) t
    | .surrogate n :: t => ofText (Text.lower reversed.reverse) ++ .surrogate n :: go [] t

end WideText
end Timex
