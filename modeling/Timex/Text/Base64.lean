import Timex.Text.Basic

/-!
# Base 64

Four signs stand for three octets. What is no sign of the alphabet is passed over, line
breaks among it. Padding ends the text where it fills up the last group of four.
-/

namespace Timex.Text.Base64

def alphabet : Text :=
  "ABCDEFGHIJKLMNOPQRSTUVWXYZabcdefghijklmnopqrstuvwxyz0123456789+/".toList

/-- The six bits that a sign stands for: its place in the alphabet. -/
def sextet? (c : Char) : Option Nat := alphabet.findIdx? (· == c)

/-- The whole octets that a group of sextets holds. -/
def octets : List Nat → List Nat
  | [a, b] => [4 * a + b / 16]
  | [a, b, c] => [4 * a + b / 16, 16 * (b % 16) + c / 4]
  | [a, b, c, d] => [4 * a + b / 16, 16 * (b % 16) + c / 4, 64 * (c % 4) + d]
  | _ => []

/-- Reads on, with the sextets of a group that is not full and the padding after them. -/
def decodeFrom (group : List Nat) (pads : Nat) : Text → Option (List Nat)
  | [] => if group.isEmpty then some [] else none
  | c :: t =>
    if c = '=' then
      if group.length < 2 then decodeFrom group pads t
      else if 4 ≤ group.length + pads + 1 then some (octets group)
      else decodeFrom group (pads + 1) t
    else
      match sextet? c with
      | none => decodeFrom group pads t
      | some s =>
        if group.length = 3 then (octets (group ++ [s]) ++ ·) <$> decodeFrom [] 0 t
        else decodeFrom (group ++ [s]) 0 t

/-- The octets of a text, unless its last group is neither full nor padded. -/
def decode? (t : Text) : Option (List Nat) := decodeFrom [] 0 t

end Timex.Text.Base64
