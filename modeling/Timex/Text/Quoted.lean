import Timex.Text.Printable

/-!
# Quoted text

Text between apostrophes, or between quotation marks if it holds apostrophes and no
quotation mark. The quote in use, backslashes and unprintable characters are escaped.
-/

namespace Timex.Text

def apostrophe : Char := '\x27'

def quotationMark : Char := '\x22'

/-- The last digits of a number in base sixteen, in lower case. -/
def hexadecimal : Nat → Nat → Text
  | 0, _ => []
  | width + 1, n => hexadecimal width (n / 16) ++ [Nat.digitChar (n % 16)]

/-- A character as it stands between quotes. Those of the class `shown` need no escape. -/
def escapeUnless (shown : Char → Bool) (quote c : Char) : Text :=
  if c = quote ∨ c = '\\' then ['\\', c]
  else if c = '\t' then ['\\', 't']
  else if c = '\n' then ['\\', 'n']
  else if c = '\r' then ['\\', 'r']
  else if shown c then [c]
  else
    let n := c.toNat
    if n < 0x100 then '\\' :: 'x' :: hexadecimal 2 n
    else if n < 0x10000 then '\\' :: 'u' :: hexadecimal 4 n
    else '\\' :: 'U' :: hexadecimal 8 n

def escape : Char → Char → Text := escapeUnless isPrintable

def quoteFor (t : Text) : Char :=
  if t.contains apostrophe && !t.contains quotationMark then quotationMark else apostrophe

def quoted (t : Text) : Text :=
  let quote := quoteFor t
  quote :: t.flatMap (escape quote) ++ [quote]

/-- Octets as characters between quotes, after a letter. Only ASCII is shown as it is. -/
def quotedOctets (octets : List Nat) : Text :=
  let t := octets.map Char.ofNat
  let quote := quoteFor t
  'b' :: quote :: t.flatMap (escapeUnless (fun c => 0x20 ≤ c.toNat && c.toNat < 0x7F) quote) ++
    [quote]

end Timex.Text
