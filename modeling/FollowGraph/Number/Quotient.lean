import FollowGraph.Number.Binary64

/-!
The number of pages of a given size, computed through the binary64 quotient of the two integers.
Below 2 ^ 53 the result is the exact ceiling; beyond it digits are lost, a quotient below the
least positive number counts as zero, and one above the largest number has no result.
-/

set_option autoImplicit false

namespace FollowGraph

/-- Why a quotient has no binary64 value. -/
inductive QuotientError where
  | divisionByZero
  | tooLarge
  deriving DecidableEq, Repr

/-- The least integer that is at least the binary64 quotient of two integers. -/
def ceilQuotient (num den : Int) : Except QuotientError Int :=
  if den = 0 then .error .divisionByZero
  else
    match Binary64.nearest num.natAbs den.natAbs with
    | none => .error .tooLarge
    | some (significand, exponent) =>
      if num < 0 ↔ den < 0 then .ok (Binary64.ceilMagnitude significand exponent)
      else .ok (-(Binary64.floorMagnitude significand exponent))

end FollowGraph
