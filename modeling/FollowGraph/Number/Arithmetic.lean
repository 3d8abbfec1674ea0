import FollowGraph.Number.Binary64

/-!
Products and quotients of binary64 numbers, each the exact result rounded once, and the order of
numbers by their exact size.
-/

set_option autoImplicit false

namespace FollowGraph

namespace Binary64

-- Powers of integers are the core library's, whatever other powers are in scope.
attribute [local instance (2000)] instPowNat

/-- A magnitude `significand · 2 ^ exponent` as numerator and denominator. -/
def ratio (significand : Nat) (exponent : Int) : Nat × Nat :=
  if 0 ≤ exponent then (significand * 2 ^ exponent.toNat, 1)
  else (significand, 2 ^ (-exponent).toNat)

/-- The number nearest to an integer; nothing when that is beyond the largest finite number. -/
def ofInt? (n : Int) : Option Binary64 :=
  (nearest n.natAbs 1).map fun (significand, exponent) =>
    .finite (decide (n < 0)) significand exponent

def isNegative : Binary64 → Bool
  | .finite negative _ _ | .infinite negative => negative
  | .nan => false

def multiply : Binary64 → Binary64 → Binary64
  | .nan, _ | _, .nan => .nan
  | .finite a s e, .finite b t f =>
    let x := ratio s e
    let y := ratio t f
    ofRatio (a != b) (x.1 * y.1) (x.2 * y.2)
  | a, b =>
    if a.isZero || b.isZero then .nan else .infinite (a.isNegative != b.isNegative)

/-- The quotient by a number other than zero. -/
def divide : Binary64 → Binary64 → Binary64
  | .nan, _ | _, .nan => .nan
  | .finite a s e, .finite b t f =>
    let x := ratio s e
    let y := ratio t f
    ofRatio (a != b) (x.1 * y.2) (x.2 * y.1)
  | .finite a _ _, .infinite b => .finite (a != b) 0 0
  | .infinite a, .finite b _ _ => .infinite (a != b)
  | .infinite _, .infinite _ => .nan

end Binary64

/-- The exact size of a number: a fraction, beyond all of them on either side, or none at all. -/
inductive Size where
  | below
  | exact (num : Int) (den : Nat)
  | above
  | none
  deriving DecidableEq, Repr

namespace Size

def ofBinary64 : Binary64 → Size
  | .finite negative significand exponent =>
    let r := Binary64.ratio significand exponent
    .exact (if negative then -(r.1 : Int) else r.1) r.2
  | .infinite true => .below
  | .infinite false => .above
  | .nan => .none

/-- Whether one size is less than another; with no size nothing compares. -/
def lessThan : Size → Size → Bool
  | .none, _ | _, .none => false
  | .exact a b, .exact c d => a * d < c * b
  | .below, .below => false
  | .below, _ => true
  | .exact _ _, .above => true
  | _, _ => false

end Size
end FollowGraph
