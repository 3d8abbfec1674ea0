/-!
Binary64 numbers as exact values, and the one rounding rule that all of the library uses: a
quotient of natural numbers goes to the nearest representable value, a tie to the even
significand.

A finite number is a sign, a significand and an exponent of two. Numbers are built by
`Binary64.ofRatio` only, which normalises them, so equal values are equal.
-/

set_option autoImplicit false

namespace FollowGraph

/-- A binary64 number: `± significand · 2 ^ exponent`, an infinity, or not a number. -/
inductive Binary64 where
  | finite (negative : Bool) (significand : Nat) (exponent : Int)
  | infinite (negative : Bool)
  | nan
  deriving DecidableEq, Repr

namespace Binary64

-- Powers of integers are the core library's, whatever other powers are in scope.
attribute [local instance (2000)] instPowNat

def significandBound : Nat := 2 ^ (53 : Nat)

def minExponent : Int := -1074

def maxExponent : Int := 971

/-- `num / den`, to the nearest natural number, a tie to the even one. -/
def roundEven (num den : Nat) : Nat :=
  let q := num / den
  let r := num % den
  if 2 * r < den then q else if den < 2 * r then q + 1 else if q % 2 = 0 then q else q + 1

/-- `num / den` divided by `2 ^ exponent`, again as a pair. -/
def rescale (num den : Nat) (exponent : Int) : Nat × Nat :=
  if 0 ≤ exponent then (num, den * 2 ^ exponent.toNat) else (num * 2 ^ (-exponent).toNat, den)

/-- The exponent at which the integer part of the significand of `num / den` has 53 bits, or the
least exponent if that is larger. -/
def exponentFor (num den : Nat) : Int :=
  let guess := (Nat.log2 num : Int) - (Nat.log2 den : Int) - 52
  let scaled := rescale num den guess
  let exponent := if scaled.1 < scaled.2 * 2 ^ (52 : Nat) then guess - 1 else guess
  max exponent minExponent

/-- Significand and exponent of the number nearest to `num / den`; nothing when that is beyond
the largest finite number. The denominator must be positive. -/
def nearest (num den : Nat) : Option (Nat × Int) :=
  if num = 0 then some (0, 0)
  else
    let exponent := exponentFor num den
    let scaled := rescale num den exponent
    let significand := roundEven scaled.1 scaled.2
    -- Rounding up can reach the next power of two, which has a significand of its own.
    let rounded :=
      if significand = significandBound then (2 ^ (52 : Nat), exponent + 1)
      else (significand, exponent)
    if rounded.1 = 0 then some (0, 0)
    else if maxExponent < rounded.2 then none
    else some rounded

/-- The number nearest to `± num / den`, an infinity when it is too large. -/
def ofRatio (negative : Bool) (num den : Nat) : Binary64 :=
  match nearest num den with
  | some (significand, exponent) => .finite negative significand exponent
  | none => .infinite negative

/-- The number nearest to `± digits · 10 ^ exponent`. Exponents far outside the range are
decided by size, without computing the power. -/
def ofDecimal (negative : Bool) (digits : Nat) (exponent : Int) : Binary64 :=
  let magnitude := exponent + (Nat.log2 digits : Int) / 3
  if digits = 0 then .finite negative 0 0
  else if 400 < exponent then .infinite negative
  else if magnitude < -500 then .finite negative 0 0
  else if 0 ≤ exponent then ofRatio negative (digits * 10 ^ exponent.toNat) 1
  else ofRatio negative digits (10 ^ (-exponent).toNat)

/-- Zero of either sign. -/
def isZero : Binary64 → Bool
  | .finite _ significand _ => significand == 0
  | _ => false

/-- The integer part of `significand · 2 ^ exponent`. -/
def floorMagnitude (significand : Nat) (exponent : Int) : Nat :=
  if 0 ≤ exponent then significand * 2 ^ exponent.toNat else significand / 2 ^ (-exponent).toNat

/-- The least natural number that is at least `significand · 2 ^ exponent`. -/
def ceilMagnitude (significand : Nat) (exponent : Int) : Nat :=
  if 0 ≤ exponent then significand * 2 ^ exponent.toNat
  else (significand + (2 ^ (-exponent).toNat - 1)) / 2 ^ (-exponent).toNat

/-- The integer nearest to a finite number on the side of zero. -/
def truncate? : Binary64 → Option Int
  | .finite negative significand exponent =>
    let n : Int := floorMagnitude significand exponent
    some (if negative then -n else n)
  | _ => none

/-- The integer that a number is exactly; nothing when it has a fraction or is not finite. -/
def exactInt? : Binary64 → Option Int
  | .finite negative significand exponent =>
    if floorMagnitude significand exponent = ceilMagnitude significand exponent then
      truncate? (.finite negative significand exponent)
    else none
  | _ => none

end Binary64
end FollowGraph
