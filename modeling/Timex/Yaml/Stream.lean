import Timex.Text.Utf8
import Timex.Yaml.Cursor
import Timex.Yaml.Error

/-!
# Streams

The text of a file, piece by piece. Octets are decoded and characters are looked at only
when the reader gets that far, so that a document which is refused in front of a faulty
piece is refused for what stands there. The first two pieces are taken together.
-/

namespace Timex.Yaml

/-- Text, and why it breaks off where it does not end. -/
structure Stream where
  text : Text
  stop : Option Error
  deriving DecidableEq, Repr

namespace Stream

/-- Line feeds for carriage returns, alone or before a line feed. -/
def unifyBreaks : Text → Text
  | '\r' :: '\n' :: t => '\n' :: unifyBreaks t
  | c :: t => (if c = '\r' then '\n' else c) :: unifyBreaks t
  | [] => []

def isAllowed (c : Char) : Bool :=
  let n := c.toNat
  n == 0x9 || n == 0xA || (0x20 ≤ n && n ≤ 0x7E) || n == 0x85 || (0xA0 ≤ n && n ≤ 0xFFFD) ||
    0x10000 ≤ n

/-- The octets that are decoded together. -/
def octetBlock : Nat := 8192

/-- The characters of a piece. -/
def pieceLength : Nat := 4096

/-- The characters in front of the piece that a place lies in. -/
def lengthBefore (place : Nat) : Nat :=
  if place < 2 * pieceLength then 0 else pieceLength * (place / pieceLength)

/-- The text before the first block that is not UTF-8, in whole pieces. -/
def decoded (octets : List Nat) : Stream :=
  match Text.Utf8.decodeFront octets with
  | (t, []) => ⟨unifyBreaks t, none⟩
  | (t, bad) =>
    let blocks := (octets.length - bad.length) / octetBlock
    let t := if Text.Utf8.isBegun bad then t
      else (Text.Utf8.decodeFront (octets.take (octetBlock * blocks))).1
    let t := unifyBreaks t
    ⟨t.take (lengthBefore t.length), some .notUtf8⟩

/-- The text before the first piece with a control character. -/
def checked (s : Stream) : Stream :=
  match s.text.findIdx? fun c => !isAllowed c with
  | some place => ⟨s.text.take (lengthBefore place), some (.malformed "a control character")⟩
  | none => s

/-- A byte order mark may stand in front. -/
def withoutMark (s : Stream) : Stream :=
  match s.text with
  | c :: rest => if c = byteOrderMark then { s with text := rest } else s
  | [] => s

def ofOctets (octets : List Nat) : Stream := (decoded octets).checked.withoutMark

end Stream
end Timex.Yaml
