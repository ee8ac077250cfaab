import Timex.Value.Basic

/-!
# The order of a set

A set of numbers is shown in the order of the table that holds it. A number begins its
search for a free place at its residue modulo the size of the table: it looks at the
places next to there, then leaps on. Sets with other members keep the order in which
these were put in.
-/

namespace Timex.Value

/-- The prime 2^61 - 1. -/
def hashModulus : Nat := 2305843009213693951

/-- 2^64. -/
def wordSize : Nat := 18446744073709551616

/-- What equal numbers have in common: for a quotient, its value modulo the prime, which
the powers of two pass through in steps of 61. -/
def hash? : Value → Option Int
  | .bool b => some (if b then 1 else 0)
  | .integer n => some (signed (n < 0) (n.natAbs % hashModulus))
  | .float (.finite s m q) =>
    some (signed s (m * Nat.pow 2 (q % 61).toNat % hashModulus))
  | .float (.infinite s) => some (signed s 314159)
  | _ => none
where
  /-- -1 is left out, and -2 stands for it. -/
  signed (negative : Bool) (n : Nat) : Int :=
    if !negative then n else if n = 1 then -2 else -n

/-- The size of the table for so many numbers: a power of two. -/
def tableSize (count : Nat) : Nat :=
  if count ≤ 4 then 8 else Nat.pow 2 (Nat.log2 (2 * count) + 1)

/-- The places next to one that are looked at before the next leap. -/
def neighbours (size i : Nat) : List Nat :=
  if i + 9 < size then (List.range 10).map (i + ·) else [i]

/-- The first free place. More and more of the hash goes into the leaps. -/
def freePlace (table : Array (Option Value)) : Nat → Nat → Nat → Nat
  | 0, i, _ => i
  | fuel + 1, i, hash =>
    match (neighbours table.size i).find? fun j => table[j]?.join.isNone with
    | some j => j
    | none =>
      let hash := hash / 32
      freePlace table fuel ((5 * i + 1 + hash) % table.size) hash

def insert (table : Array (Option Value)) (v : Value) (hash : Int) : Array (Option Value) :=
  let word := (hash % wordSize).toNat
  table.setIfInBounds (freePlace table (table.size + 13) (word % table.size) word) (some v)

/-- The members of a set, each given once, in the order in which they are shown. -/
def tableOrder (members : List Value) : List Value :=
  match members.mapM hash? with
  | none => members
  | some hashes =>
    let table := (members.zip hashes).foldl (fun table (v, hash) => insert table v hash)
      (Array.replicate (tableSize members.length) none)
    table.toList.filterMap id

end Timex.Value
