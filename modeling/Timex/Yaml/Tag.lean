import Timex.Yaml.Scalar.Number
import Timex.Yaml.Scalar.Timestamp

/-!
# Tags

What a node is to be read as. A plain scalar without a tag has the tag of the form that
its text has; in the order of the list, the first form counts.
-/

namespace Timex.Yaml

inductive Tag where
  | null
  | boolean
  | integer
  | float
  | timestamp
  | text
  /-- Octets in base 64. -/
  | binary
  | sequence
  /-- A sequence of mappings with one entry each. -/
  | pairs
  | mapping
  /-- A mapping of which the keys count. -/
  | set
  /-- The key of mappings whose entries are added. -/
  | merge
  /-- The key of the value that stands for the whole mapping. -/
  | default
  | other
  deriving DecidableEq, Repr

namespace Tag

/-- What the full names of the tags begin with. -/
def domain : String := "tag:yaml.org,2002:"

def names : List (String × Tag) :=
  [("null", .null), ("bool", .boolean), ("int", .integer), ("float", .float),
   ("timestamp", .timestamp), ("str", .text), ("binary", .binary), ("seq", .sequence),
   ("omap", .pairs), ("pairs", .pairs), ("map", .mapping), ("set", .set), ("merge", .merge),
   ("value", .default)]

def ofName (t : Text) : Tag :=
  match domain.toList.isPrefixOf? t with
  | some name => (names.lookup (String.ofList name)).getD .other
  | none => .other

/-! ## Forms of plain scalars -/

/-- The words, each also with a capital letter in front and in capitals. -/
def inThreeCases (words : List String) (t : Text) : Bool :=
  words.any fun w =>
    let w := w.toList
    t == w || t == w.map Char.toUpper || t == (w.take 1).map Char.toUpper ++ w.drop 1

def isBoolean : Text → Bool := inThreeCases ["yes", "no", "true", "false", "on", "off"]

def isNull (t : Text) : Bool := t.isEmpty || t == ['~'] || inThreeCases ["null"] t

/-- Digits with underscores among them. -/
def isSpaced (digit : Char → Bool) (t : Text) : Bool := t.all fun c => digit c || c == '_'

/-- Digits with underscores after the first. -/
def isWhole (t : Text) : Bool := t.head?.any Char.isDigit && isSpaced Char.isDigit t

def isPositive (t : Text) : Bool := isWhole t && t.head? != some '0'

/-- A number below 60 of one digit or two. -/
def isSixtieth (t : Text) : Bool :=
  Text.isDigits t && t.length ≤ 2 && Text.toNumber t < 60

/-- A first group and at least one group of base 60, with colons between them. -/
def isSexagesimal (first : Text → Bool) (t : Text) : Bool :=
  match Text.split ':' t with
  | g :: gs => first g && !gs.isEmpty && gs.all isSixtieth
  | [] => false

def isBinaryDigit (c : Char) : Bool := c == '0' || c == '1'

def isOctalDigit (c : Char) : Bool := '0' ≤ c && c ≤ '7'

def isInteger (t : Text) : Bool :=
  let t := (Number.signed t).2
  t == ['0'] || isPositive t || isSexagesimal isPositive t ||
    match t with
    | '0' :: 'b' :: digits => !digits.isEmpty && isSpaced isBinaryDigit digits
    | '0' :: 'x' :: digits => !digits.isEmpty && isSpaced (Text.hexadecimalDigit? · |>.isSome) digits
    | '0' :: digits => !digits.isEmpty && isSpaced isOctalDigit digits
    | _ => false

/-- Digits, then perhaps an exponent, which has a sign. -/
def isFraction (t : Text) : Bool :=
  match (t.dropWhile fun c => c.isDigit || c == '_') with
  | [] => true
  | e :: sign :: power =>
    (e == 'e' || e == 'E') && (sign == '+' || sign == '-') && Text.isDigits power
  | _ => false

/-- The forms of fractional numbers. Only one with a digit in front of the point, or an
infinite one, may have a sign. -/
def isFloat (t : Text) : Bool :=
  let body := (Number.signed t).2
  match Text.cut '.' body with
  | (whole, some rest) =>
    (isWhole whole && isFraction rest) ||
      (isSexagesimal isWhole whole && isSpaced Char.isDigit rest) ||
      (whole.isEmpty && inThreeCases ["inf"] rest) ||
      (whole.isEmpty && body == t &&
        ((rest.head?.any Char.isDigit && isFraction rest) || rest == "NaN".toList ||
          rest == "nan".toList || rest == "NAN".toList))
  | (_, none) => false

/-- A line break at the end does not count for the form. -/
def withoutLastBreak (t : Text) : Text :=
  if t.length ≠ 1 ∧ t.getLast? = some '\n' then t.dropLast else t

/-- The tag of a plain scalar. -/
def ofPlain (t : Text) : Tag :=
  let t := withoutLastBreak t
  if isBoolean t then .boolean
  else if isFloat t then .float
  else if isInteger t then .integer
  else if t = "<<".toList then .merge
  else if isNull t then .null
  else if Timestamp.isPlain t then .timestamp
  else if t = ['='] then .default
  else if t = ['!'] ∨ t = ['&'] ∨ t = ['*'] then .other
  else .text

end Tag
end Timex.Yaml
