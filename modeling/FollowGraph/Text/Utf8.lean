/-!
Reading octets as UTF-8. Octets that are no character are replaced: one replacement character
stands for a sequence that breaks off, as far as it was right.
-/

set_option autoImplicit false

namespace FollowGraph.Text

/-- A sequence that has begun: how many octets it still needs, between which bounds the next of
them lies, and the bits so far. -/
structure PartialSequence where
  needed : Nat
  low : Nat
  high : Nat
  bits : Nat

/-- What the first octet of a sequence says of the rest; nothing if it can start none. -/
def sequenceFrom? (b : Nat) : Option PartialSequence :=
  if 0xC2 ≤ b && b ≤ 0xDF then some ⟨1, 0x80, 0xBF, b - 0xC0⟩
  else if b == 0xE0 then some ⟨2, 0xA0, 0xBF, 0⟩
  else if b == 0xED then some ⟨2, 0x80, 0x9F, 0xD⟩
  else if 0xE1 ≤ b && b ≤ 0xEF then some ⟨2, 0x80, 0xBF, b - 0xE0⟩
  else if b == 0xF0 then some ⟨3, 0x90, 0xBF, 0⟩
  else if b == 0xF4 then some ⟨3, 0x80, 0x8F, 4⟩
  else if 0xF1 ≤ b && b ≤ 0xF3 then some ⟨3, 0x80, 0xBF, b - 0xF0⟩
  else none

/-- The characters of octets that come after the start of a sequence, if one is open. -/
def decodeUtf8After : Option PartialSequence → List Nat → List Char
  | none, [] => []
  | some _, [] => ['\uFFFD']
  | pending, b :: rest =>
    let first : List Char × Option PartialSequence :=
      if b < 0x80 then ([Char.ofNat b], none)
      else
        match sequenceFrom? b with
        | some s => ([], some s)
        | none => (['\uFFFD'], none)
    let step : List Char × Option PartialSequence :=
      match pending with
      | none => first
      | some s =>
        if s.low ≤ b && b ≤ s.high then
          let bits := s.bits * 64 + (b - 0x80)
          if s.needed ≤ 1 then ([Char.ofNat bits], none)
          else ([], some ⟨s.needed - 1, 0x80, 0xBF, bits⟩)
        else ('\uFFFD' :: first.1, first.2)
    step.1 ++ decodeUtf8After step.2 rest

def decodeUtf8 (octets : List Nat) : List Char := decodeUtf8After none octets

end FollowGraph.Text
