import Timex.Text.Decimal

/-!
# Binary64 numbers

The values of the 64-bit binary format: a sign, a significand below 2^53 and an
exponent of two. A number of the format is what rounding a quotient to nearest,
ties to even, gives; every operation is the exact one followed by that rounding.
-/

namespace Timex

/-- `finite s m q` is ±m·2^q. As rounding builds it, q is at least -1074, and m is
at least 2^52 wherever q is larger. -/
inductive Binary64 where
  | finite (negative : Bool) (significand : Nat) (exponent : Int)
  | infinite (negative : Bool)
  | nan
  deriving DecidableEq, Repr

namespace Binary64

def zero : Binary64 := .finite false 0 (-1074)

def leastExponent : Int := -1074

def greatestExponent : Int := 971

/-- 2^53: every significand is below. -/
def significandBound : Nat := 9007199254740992

/-- 2^52: the least significand with all of its bits. -/
def leastNormal : Nat := 4503599627370496

/-- The quotient rounded to nearest, a tie to the even neighbour. -/
def roundDiv (num den : Nat) : Nat :=
  let whole := num / den
  let twice := 2 * (num % den)
  if twice < den then whole
  else if den < twice then whole + 1
  else if whole % 2 = 0 then whole else whole + 1

/-- num / (den · 2^q) as a quotient of naturals. -/
def scaled (num den : Nat) (q : Int) : Nat × Nat :=
  if q < 0 then (num * Nat.pow 2 q.natAbs, den) else (num, den * Nat.pow 2 q.natAbs)

/-- The format's nearest number to num / den. -/
def round (negative : Bool) (num den : Nat) : Binary64 :=
  if num = 0 then .finite negative 0 leastExponent
  else
    let guess := max leastExponent ((Nat.log2 num : Int) - (Nat.log2 den : Int) - 53)
    let (n, d) := scaled num den guess
    let q := if n / d < significandBound then guess else guess + 1
    let (n, d) := scaled num den q
    let m := roundDiv n d
    let (m, q) := if m = significandBound then (leastNormal, q + 1) else (m, q)
    if greatestExponent < q then .infinite negative else .finite negative m q

/-- ±digits · 10^power, rounded. Powers far outside the format's range need no
arithmetic to be seen as infinite or as zero. -/
def ofDecimal (negative : Bool) (digits : Nat) (power : Int) : Binary64 :=
  if digits = 0 ∨ (Text.decimal digits).length + power < -330 then
    .finite negative 0 leastExponent
  else if 310 ≤ power then .infinite negative
  else if power < 0 then round negative digits (Nat.pow 10 power.natAbs)
  else round negative (digits * Nat.pow 10 power.natAbs) 1

def ofNat (n : Nat) : Binary64 := round false n 1

def neg : Binary64 → Binary64
  | .finite s m q => .finite (!s) m q
  | .infinite s => .infinite (!s)
  | .nan => .nan

/-- ±m·2^q as a quotient with a signed numerator. -/
def fraction (negative : Bool) (m : Nat) (q : Int) : Int × Nat :=
  let (n, d) := scaled m 1 (-q)
  (if negative then -(n : Int) else n, d)

def isNegative : Binary64 → Bool
  | .finite s _ _ => s
  | .infinite s => s
  | .nan => false

/-- The rounded sum. An exact zero is negative only if both terms are. -/
def add : Binary64 → Binary64 → Binary64
  | .nan, _ | _, .nan => .nan
  | .infinite s, .infinite t => if s = t then .infinite s else .nan
  | .infinite s, _ | _, .infinite s => .infinite s
  | .finite s m q, .finite t n r =>
    let (a, b) := fraction s m q
    let (c, d) := fraction t n r
    let sum := a * d + c * b
    if sum = 0 then .finite (s && t) 0 leastExponent
    else round (sum < 0) sum.natAbs (b * d)

/-- The rounded product. -/
def mul : Binary64 → Binary64 → Binary64
  | .nan, _ | _, .nan => .nan
  | .infinite s, .infinite t => .infinite (s != t)
  | .infinite s, .finite t m _ | .finite t m _, .infinite s =>
    if m = 0 then .nan else .infinite (s != t)
  | .finite s m q, .finite t n r =>
    let (a, b) := fraction false m q
    let (c, d) := fraction false n r
    round (s != t) (a * c).natAbs (b * d)

end Binary64
end Timex
