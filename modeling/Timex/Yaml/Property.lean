import Timex.Text.Decimal
import Timex.Text.Digit
import Timex.Text.Utf8
import Timex.Yaml.Cursor
import Timex.Yaml.Error
import Timex.Yaml.Token

/-!
# Anchors, aliases, tags and directives

The words that begin with a sign and hold a name.
-/

namespace Timex.Yaml.Property

def isNameChar (c : Char) : Bool := c.isAlphanum || c == '-' || c == '_'

/-- Signs that may follow an anchor or an alias directly. -/
def nameEnds : Text := ['?', ':', ',', ']', '\x7d', '%', '@', '\x60']

/-- The name of an anchor or an alias, from its sign. -/
def name (c : Cursor) : Except Error (Text × Cursor) := do
  let (name, c) := c.next.takeWhile isNameChar
  if name.isEmpty then throw (.malformed "an anchor or alias without a name")
  if endsWord c.peek || c.peek.any nameEnds.contains then return (name, c)
  throw (.malformed "an unknown character in the name of an anchor or alias")

/-! ## Tags -/

def isUriChar (c : Char) : Bool :=
  c.isAlphanum || "-;/?:@&=+$,_.!~*'()[]%".toList.contains c

/-- The octets of a run of percent escapes. -/
def octets : Nat → Cursor → Except Error (List Nat × Cursor)
  | 0, c => .ok ([], c)
  | fuel + 1, c =>
    if c.peek = some '%' then
      let digits := c.next.rest.take 2
      match if digits.length = 2 then Text.numberIn? 16 digits else none with
      | some n => do
        let (ns, c) ← octets fuel (c.advance 3)
        return (n :: ns, c)
      | none => .error (.malformed "a percent sign without two hexadecimal digits")
    else .ok ([], c)

/-- Characters of a tag's name, percent escapes undone. -/
def uriParts : Nat → Cursor → Except Error (Text × Cursor)
  | 0, c => .ok ([], c)
  | fuel + 1, c =>
    match c.peek with
    | some ch =>
      if ch = '%' then do
        let (ns, c) ← octets (c.rest.length) c
        match Text.Utf8.decode? ns with
        | some part => do
          let (rest, c) ← uriParts fuel c
          return (part ++ rest, c)
        | none => throw (.malformed "percent escapes that are not UTF-8")
      else if isUriChar ch then do
        let (rest, c) ← uriParts fuel c.next
        return (ch :: rest, c)
      else .ok ([], c)
    | none => .ok ([], c)

def uri (c : Cursor) : Except Error (Text × Cursor) := do
  let passed := c.index
  let (t, c) ← uriParts (c.rest.length + 1) c
  if c.index = passed then throw (.malformed "a tag without a name")
  return (t, c)

/-- A handle: one sign, or a word between two signs. -/
def handle (c : Cursor) : Except Error (Text × Cursor) := do
  if c.peek ≠ some '!' then throw (.malformed "a tag handle without a sign")
  if c.peekAt 1 = some ' ' then return (['!'], c.next)
  let (word, after) := c.next.takeWhile isNameChar
  if after.peek ≠ some '!' then throw (.malformed "a tag handle that is not closed")
  return ('!' :: word ++ ['!'], after.next)

/-- A tag, from its sign. -/
def tag (c : Cursor) : Except Error (WrittenTag × Cursor) := do
  let (t, c) ←
    if c.peekAt 1 = some '<' then do
      let (suffix, c) ← uri (c.advance 2)
      if c.peek ≠ some '>' then throw (.malformed "a tag that is not closed")
      pure ((⟨none, suffix⟩ : WrittenTag), c.next)
    else if endsWord (c.peekAt 1) then pure (⟨none, ['!']⟩, c.next)
    else do
      let word := c.next.rest.takeWhile fun ch => !(ch == ' ' || isBreak ch)
      let (h, c) ← if word.contains '!' then handle c else pure (['!'], c.next)
      let (suffix, c) ← uri c
      pure (⟨some h, suffix⟩, c)
  if endsPart c.peek then return (t, c)
  throw (.malformed "an unknown character in a tag")

/-! ## Directives -/

def versionNumber (c : Cursor) : Except Error (Nat × Cursor) := do
  let (digits, c) := c.takeWhile Char.isDigit
  if digits.isEmpty then throw (.malformed "a version without a number")
  if Value.digitLimit < digits.length then throw (.unconvertible (.longNumeral digits.length))
  return (Text.toNumber digits, c)

def version (c : Cursor) : Except Error (Directive × Cursor) := do
  let (major, c) ← versionNumber c.skipSpaces
  if c.peek ≠ some '.' then throw (.malformed "a version without a dot")
  let (minor, c) ← versionNumber c.next
  if !endsPart c.peek then throw (.malformed "an unknown character in a version")
  return (.version major minor, c)

def tagHandle (c : Cursor) : Except Error (Directive × Cursor) := do
  let (h, c) ← handle c.skipSpaces
  if c.peek ≠ some ' ' then throw (.malformed "a tag handle without a space after it")
  let (expansion, c) ← uri c.skipSpaces
  if !endsPart c.peek then throw (.malformed "an unknown character in a tag directive")
  return (.tagHandle h expansion, c)

/-- A directive, from its sign to the end of its line. -/
def directive (c : Cursor) : Except Error (Directive × Cursor) := do
  let (word, c) := c.next.takeWhile isNameChar
  if word.isEmpty then throw (.malformed "a directive without a name")
  if !endsPart c.peek then throw (.malformed "an unknown character in a directive")
  let (d, c) ←
    if word = "YAML".toList then version c
    else if word = "TAG".toList then tagHandle c
    else pure (.other, (c.takeWhile fun ch => !isBreak ch).2)
  match c.finishLine? with
  | some c => return (d, c)
  | none => throw (.malformed "text after a directive")

end Timex.Yaml.Property
