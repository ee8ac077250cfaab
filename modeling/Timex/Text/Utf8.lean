import Timex.Text.Basic

/-!
# UTF-8

`decode` reads the octet sequences of RFC 3629: the shortest form of every
character, no surrogates, nothing above U+10FFFF.
-/

namespace Timex.Text.Utf8

def isTail (b : Nat) : Bool := 0x80 ≤ b && b ≤ 0xBF

/-- The character that follows from a lead octet, with the octets after it. -/
def decodeChar? (a : Nat) (rest : List Nat) : Option (Char × List Nat) :=
  if a ≤ 0x7F then some (Char.ofNat a, rest)
  else if 0xC2 ≤ a ∧ a ≤ 0xDF then
    match rest with
    | b :: rest =>
      if isTail b then some (Char.ofNat ((a - 0xC0) * 64 + (b - 0x80)), rest) else none
    | _ => none
  else if 0xE0 ≤ a ∧ a ≤ 0xEF then
    match rest with
    | b :: c :: rest =>
      if isTail b && isTail c && (a != 0xE0 || 0xA0 ≤ b) && (a != 0xED || b ≤ 0x9F) then
        some (Char.ofNat ((a - 0xE0) * 4096 + (b - 0x80) * 64 + (c - 0x80)), rest)
      else none
    | _ => none
  else if 0xF0 ≤ a ∧ a ≤ 0xF4 then
    match rest with
    | b :: c :: d :: rest =>
      if isTail b && isTail c && isTail d && (a != 0xF0 || 0x90 ≤ b) && (a != 0xF4 || b ≤ 0x8F) then
        some (Char.ofNat
          ((a - 0xF0) * 262144 + (b - 0x80) * 4096 + (c - 0x80) * 64 + (d - 0x80)), rest)
      else none
    | _ => none
  else none

theorem length_of_decodeChar? {a : Nat} {rest : List Nat} {c : Char} {left : List Nat}
    (h : decodeChar? a rest = some (c, left)) : left.length ≤ rest.length := by
  unfold decodeChar? at h
  repeat' split at h
  all_goals simp at h
  all_goals
    obtain ⟨-, rfl⟩ := h
    simp
  all_goals omega

/-- The text that an octet sequence begins with, and the octets from the first that do
not belong to it. -/
def decodeFront : List Nat → Text × List Nat
  | [] => ([], [])
  | a :: rest =>
    match _h : decodeChar? a rest with
    | none => ([], a :: rest)
    | some (c, left) =>
      let (t, bad) := decodeFront left
      (c :: t, bad)
termination_by octets => octets.length
decreasing_by
  have := length_of_decodeChar? _h
  simp only [List.length_cons]
  omega

/-- The text of an octet sequence, or `none` where it is not UTF-8. -/
def decode? (octets : List Nat) : Option Text :=
  match decodeFront octets with
  | (t, []) => some t
  | _ => none

/-- Whether a few octets could still become a character with others after them. -/
def isBegun : List Nat → Bool
  | [] => false
  | a :: rest =>
    rest.length < 3 &&
      [0x80, 0xBF].any fun b => (decodeChar? a (rest ++ List.replicate 3 b)).isSome

end Timex.Text.Utf8
