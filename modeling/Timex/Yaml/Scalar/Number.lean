import Timex.Number.Binary64
import Timex.Text.Digit
import Timex.Yaml.Error

/-!
# Numbers

Underscores do not count. An integer begins with `0b`, with `0x`, with a zero for base
eight, or is decimal; colons divide a number of base 60, and the same holds of the
fractional numbers. A tag may ask for the number of any text, so that what a group
spells is read leniently: blanks around it and the digits of all scripts are allowed.
Only a decimal numeral has a limit of digits, zeros in front included.
-/

namespace Timex.Yaml.Number

def withoutUnderscores (t : WideText) : WideText := t.filter (· != .char '_')

/-- Whether a text has a minus sign in front, and the text after the sign. -/
def signed : Text → Bool × Text
  | '-' :: t => (true, t)
  | '+' :: t => (false, t)
  | t => (false, t)

@[inherit_doc signed]
def wideSigned : WideText → Bool × WideText
  | .char '-' :: t => (true, t)
  | .char '+' :: t => (false, t)
  | t => (false, t)

/-- Drops the white space around a numeral and has its digits in ASCII. -/
def plain (t : Text) : Text := Text.withAsciiDigits (Text.trimBy Text.isWhiteSpace t)

/-! ## Integers -/

/-- The numeral without the letter that may announce its base. -/
def withoutBase (base : Nat) (t : Text) : Text :=
  match t with
  | '0' :: c :: digits =>
    let c := c.toLower
    if (base = 16 ∧ c = 'x') ∨ (base = 8 ∧ c = 'o') ∨ (base = 2 ∧ c = 'b') then digits else t
  | t => t

/-- An integer in a base, of which two to a power need no limit. -/
def inBase (base : Nat) (t : WideText) : Except ConversionError Int :=
  let (negative, digits) := signed (plain t.front)
  let count := (digits.takeWhile Char.isDigit).length
  if base = 10 ∧ Value.digitLimit < count then .error (.longNumeral count)
  else
    match t.toText?.bind fun _ => Text.numberIn? base (withoutBase base digits) with
    | some n => .ok (if negative then -n else n)
    | none => .error (.integer base t)

/-- The groups of a number of base 60, the greatest first. -/
def ofSixtieths (groups : List Int) : Int := groups.foldl (fun n g => 60 * n + g) 0

/-- An integer without its sign. -/
def magnitude (t : WideText) : Except ConversionError Int :=
  match t with
  | [] => .error .emptyNumber
  | [.char '0'] => .ok 0
  | .char '0' :: .char 'b' :: digits => inBase 2 digits
  | .char '0' :: .char 'x' :: digits => inBase 16 digits
  | .char '0' :: _ => inBase 8 t
  | _ =>
    if t.contains (.char ':') then
      ofSixtieths <$> (Text.split (CodePoint.char ':') t).mapM (inBase 10)
    else inBase 10 t

def integer (t : WideText) : Except ConversionError Int := do
  let (negative, t) := wideSigned (withoutUnderscores t)
  let n ← magnitude t
  return if negative then -n else n

/-! ## Fractional numbers -/

/-- Digits with a point, and perhaps an exponent. -/
def decimal? (negative : Bool) (t : Text) : Option Binary64 := do
  let (whole, rest) := t.span Char.isDigit
  let (fraction, rest) := match rest with
    | '.' :: rest => rest.span Char.isDigit
    | rest => ([], rest)
  if whole.isEmpty && fraction.isEmpty then none
  let exponent : Int ← match rest with
    | [] => some 0
    | 'e' :: rest =>
      let (negative, digits) := signed rest
      let n := Text.toNumber digits
      if Text.isDigits digits then some (if negative then -n else n) else none
    | _ => none
  return .ofDecimal negative (Text.toNumber (whole ++ fraction)) (exponent - fraction.length)

/-- A fractional number, or a name of one that is not finite. -/
def fractional? (t : Text) : Option Binary64 :=
  let (negative, body) := signed (plain t)
  if body = "inf".toList ∨ body = "infinity".toList then some (.infinite negative)
  else if body = "nan".toList then some .nan
  else decimal? negative body

def fractional (t : WideText) : Except ConversionError Binary64 :=
  match t.toText?.bind fractional? with
  | some x => .ok x
  | none => .error (.float t)

/-- The sum of the groups with their powers of 60, the least first. Each power has to
be near a floating number, also where the group is zero. -/
def sumOfSixtieths (groups : List Binary64) : Except ConversionError Binary64 := do
  let (sum, _) ← groups.reverse.foldlM (fun (sum, power) g =>
    match Binary64.ofNat power with
    | .infinite _ => .error .greatPower
    | x => .ok (sum.add (g.mul x), 60 * power)) (Binary64.zero, 1)
  return sum

/-- In small letters and without what does not count. -/
def simplified (t : WideText) : WideText := (withoutUnderscores t).lower

def infinityName : WideText := WideText.ofText ".inf".toList

def nanName : WideText := WideText.ofText ".nan".toList

def float (t : WideText) : Except ConversionError Binary64 := do
  let t := simplified t
  if t.isEmpty then throw .emptyNumber
  let (negative, t) := wideSigned t
  let x ←
    if t = infinityName then pure (.infinite false)
    else if t = nanName then pure .nan
    else if t.contains (.char ':') then
      sumOfSixtieths (← (Text.split (CodePoint.char ':') t).mapM fractional)
    else fractional t
  return if negative then x.neg else x

/-- Whether a text names the one number that is no number, and does not spell one out. -/
def namesNan (t : WideText) : Bool := (wideSigned (simplified t)).2 == nanName

end Timex.Yaml.Number
