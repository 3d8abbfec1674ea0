/-!
The encoding of a text that begins with two ASCII characters, as every JSON text does, told by
where its first octets are zero; and the code points of octets in the encodings with units of two
and four octets. A surrogate that stands alone is passed on as its code point.
-/

set_option autoImplicit false

namespace FollowGraph.Text

inductive Encoding where
  | utf8
  | utf16 (bigEndian : Bool)
  | utf32 (bigEndian : Bool)
  deriving DecidableEq, Repr

/-- The encoding that the zeros among the first octets show. -/
def Encoding.ofOctets : List Nat → Encoding
  | [0, _] => .utf16 true
  | [_, 0] => .utf16 false
  | 0 :: b :: _ :: _ :: _ => if b = 0 then .utf32 true else .utf16 true
  | _ :: 0 :: c :: d :: _ => if c = 0 ∧ d = 0 then .utf32 false else .utf16 false
  | _ => .utf8

/-- Units of two octets; nothing when an octet is left over. -/
def units16 (bigEndian : Bool) : List Nat → Option (List Nat)
  | [] => some []
  | [_] => none
  | a :: b :: rest =>
    (units16 bigEndian rest).map ((if bigEndian then a * 256 + b else b * 256 + a) :: ·)

/-- The code points of units: a high surrogate and the low one after it are one. -/
def pairUnits : List Nat → List Nat
  | high :: low :: rest =>
    if 0xD800 ≤ high ∧ high < 0xDC00 ∧ 0xDC00 ≤ low ∧ low < 0xE000 then
      (0x10000 + (high - 0xD800) * 0x400 + (low - 0xDC00)) :: pairUnits rest
    else high :: pairUnits (low :: rest)
  | units => units

/-- Units of four octets; nothing when octets are left over or a unit is no code point. -/
def units32 (bigEndian : Bool) : List Nat → Option (List Nat)
  | [] => some []
  | a :: b :: c :: d :: rest =>
    let unit :=
      if bigEndian then ((a * 256 + b) * 256 + c) * 256 + d
      else ((d * 256 + c) * 256 + b) * 256 + a
    if 0x10FFFF < unit then none else (units32 bigEndian rest).map (unit :: ·)
  | _ => none

end FollowGraph.Text
