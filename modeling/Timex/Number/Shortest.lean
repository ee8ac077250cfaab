import Timex.Number.Binary64

/-!
# Shortest decimal text of a binary64 number

The digits are the fewest that read back as the number, and among those the
nearest to it. The text is positional for a decimal point within sixteen places
after the first digit or three zeros before it, and has a power of ten elsewhere.
-/

namespace Timex.Binary64

/-- A decimal numeral 0.d₁d₂…·10^point. -/
structure Digits where
  digits : Nat
  point : Int

/-- num / (den · 10^k) as a quotient of naturals. -/
def scaledTen (num den : Nat) (k : Int) : Nat × Nat :=
  if k < 0 then (num * Nat.pow 10 k.natAbs, den) else (num, den * Nat.pow 10 k.natAbs)

/-- The place of the first digit of a positive quotient that is at least 10^-400:
10^place ≤ num / den < 10^(place + 1). -/
def firstPlace (num den : Nat) : Int :=
  ((Text.decimal (num * Nat.pow 10 400 / den)).length : Int) - 401

/-- Whether d · 10^k lies between low/den and high/den, ends included if `closed`. -/
def within (closed : Bool) (low high den d : Nat) (k : Int) : Bool :=
  -- d · 10^k · den compared with low and high
  let (n, s) := scaledTen (d * den) 1 (-k)
  if closed then low * s ≤ n && n ≤ high * s else low * s < n && n < high * s

/-- The grid point next to num/den, of spacing 10^k, that lies between the ends. -/
def nearestOnGrid? (closed : Bool) (low num high den : Nat) (k : Int) : Option Nat :=
  let (n, s) := scaledTen num den k
  let below := n / s
  let twice := 2 * (n % s)
  let lowFits := within closed low high den below k
  let highFits := within closed low high den (below + 1) k
  match lowFits, highFits with
  | true, true =>
    if twice < s || (twice == s && below % 2 == 0) then some below else some (below + 1)
  | true, false => some below
  | false, true => some (below + 1)
  | false, false => none

/-- Tries one digit, two, and so on up to seventeen, which always suffice. -/
def search (closed : Bool) (low num high den : Nat) (place : Int) : Nat → Nat → Nat × Int
  | 0, _ => (0, place)
  | fuel + 1, count =>
    let k := place - count + 1
    match nearestOnGrid? closed low num high den k with
    | some d => (d, k)
    | none => search closed low num high den place fuel (count + 1)

/-- The shortest digits of m·2^q for positive m, with the power of ten of the last one. -/
def shortest (m : Nat) (q : Int) : Nat × Int :=
  -- quarters of the last place, so that the half gaps on both sides are whole
  let (unit, den) := scaled 1 1 (2 - q)
  let num := 4 * m * unit
  let high := num + 2 * unit
  let low := if m = leastNormal ∧ leastExponent < q then num - unit else num - 2 * unit
  search (m % 2 == 0) low num high den (firstPlace num den) 17 1

def stripZeros (t : Text) : Text := Text.dropRightWhile (· == '0') t

/-- Digits d₁d₂… with the value 0.d₁d₂…·10^point as text. -/
def layOut (digits : Text) (point : Int) : Text :=
  if -4 < point ∧ point ≤ 16 then
    if point ≤ 0 then '0' :: '.' :: (List.replicate point.natAbs '0' ++ digits)
    else
      let n := point.natAbs
      if digits.length ≤ n then digits ++ List.replicate (n - digits.length) '0' ++ ['.', '0']
      else digits.take n ++ '.' :: digits.drop n
  else
    let power := point - 1
    let mark : Text := if power < 0 then ['e', '-'] else ['e', '+']
    let fractional := digits.drop 1
    digits.take 1 ++ (if fractional.isEmpty then [] else '.' :: fractional) ++ mark ++
      Text.zeroPadded 2 power.natAbs

def toText : Binary64 → Text
  | .nan => "nan".toList
  | .infinite s => (if s then ['-'] else []) ++ "inf".toList
  | .finite s 0 _ => (if s then ['-'] else []) ++ "0.0".toList
  | .finite s m q =>
    let (d, k) := shortest m q
    let all := Text.decimal d
    (if s then ['-'] else []) ++ layOut (stripZeros all) (k + all.length)

end Timex.Binary64
