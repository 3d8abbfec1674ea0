import FollowGraph.Number.Binary64

/-!
The shortest decimal text of a binary64 number: the fewest digits that read back as the same
number, of those the nearest, of two equally near the even one.

The search looks at the decimal grids of 1, 2, … 17 digits in turn. On each, only the two
neighbours of the number can be nearest, and the first grid with a neighbour inside the rounding
interval decides.
-/

set_option autoImplicit false

namespace FollowGraph.Binary64

-- Powers of integers are the core library's, whatever other powers are in scope.
attribute [local instance (2000)] instPowNat

/-- A positive number as `value / den` between the ends `low / den` and `high / den` of the reals
that round to it. The ends belong to the interval when `closed`. -/
structure RoundingInterval where
  low : Nat
  value : Nat
  high : Nat
  den : Nat
  closed : Bool

/-- The rounding interval of `significand · 2 ^ exponent`. The number below a power of two is
only half as far away as the one above it. -/
def roundingInterval (significand : Nat) (exponent : Int) : RoundingInterval :=
  let scale := exponent - 2
  let unit : Nat := if 0 ≤ scale then 2 ^ scale.toNat else 1
  let den : Nat := if 0 ≤ scale then 1 else 2 ^ (-scale).toNat
  let below := if significand = 2 ^ (52 : Nat) && minExponent < exponent then 1 else 2
  { low := (4 * significand - below) * unit
    value := 4 * significand * unit
    high := (4 * significand + 2) * unit
    den := den
    closed := significand % 2 == 0 }

/-- The number of decimal digits of a natural number, one for zero. -/
def decimalLength (n : Nat) : Nat := (Nat.toDigits 10 n).length

/-- The exponent of the leading decimal digit of `num / den`. -/
def leadingExponent (num den : Nat) : Int :=
  if den ≤ num then (decimalLength (num / den) : Int) - 1
  else
    match (List.range 400).find? fun k => den ≤ num * 10 ^ k with
    | some k => -(k : Int)
    | none => 0

/-- `n · 10 ^ place` as a fraction. -/
def decimalFraction (n : Nat) (place : Int) : Nat × Nat :=
  if 0 ≤ place then (n * 10 ^ place.toNat, 1) else (n, 10 ^ (-place).toNat)

/-- Whether `n · 10 ^ place` rounds to the number of the interval. -/
def RoundingInterval.holds (i : RoundingInterval) (n : Nat) (place : Int) : Bool :=
  let f := decimalFraction n place
  if i.closed then i.low * f.2 ≤ f.1 * i.den && f.1 * i.den ≤ i.high * f.2
  else i.low * f.2 < f.1 * i.den && f.1 * i.den < i.high * f.2

/-- The better of the two neighbours on the grid of `10 ^ place`, if one is in the interval. -/
def RoundingInterval.onGrid (i : RoundingInterval) (place : Int) : Option Nat :=
  let f := decimalFraction 1 place
  let floor := i.value * f.2 / (i.den * f.1)
  let rest := i.value * f.2 % (i.den * f.1)
  -- Zero never counts as a neighbour: a positive number does not read back as zero.
  match i.holds floor place && floor != 0, i.holds (floor + 1) place with
  | true, true =>
    if 2 * rest < i.den * f.1 then some floor
    else if i.den * f.1 < 2 * rest then some (floor + 1)
    else some (if floor % 2 = 0 then floor else floor + 1)
  | true, false => some floor
  | false, true => some (floor + 1)
  | false, false => none

/-- Digits and place of the shortest decimal that reads back. -/
def shortest (significand : Nat) (exponent : Int) : Nat × Int :=
  let i := roundingInterval significand exponent
  let top := leadingExponent i.value i.den
  let found := (List.range 17).findSome? fun (k : Nat) =>
    (i.onGrid (top - (k : Int))).map fun n => (n, top - (k : Int))
  found.getD (significand, exponent)

/-- Digits without the zeros at their end. -/
def dropTrailingZeros (digits : List Char) : List Char :=
  match (digits.reverse.dropWhile (· == '0')).reverse with
  | [] => ['0']
  | ds => ds

/-- Positional up to sixteen digits before the point and four zeros after it, otherwise one digit
before the point and an exponent of at least two digits. -/
def layout (digits : List Char) (point : Int) : List Char :=
  if point ≤ -4 || 16 < point then
    let exponent := point - 1
    let size := Nat.toDigits 10 exponent.natAbs
    let mantissa :=
      match digits with
      | d :: e :: rest => d :: '.' :: e :: rest
      | ds => ds
    mantissa ++ ['e', if exponent < 0 then '-' else '+'] ++
      (if size.length < 2 then '0' :: size else size)
  else if point ≤ 0 then
    '0' :: '.' :: (List.replicate (-point).toNat '0' ++ digits)
  else if digits.length ≤ point.toNat then
    digits ++ List.replicate (point.toNat - digits.length) '0' ++ ['.', '0']
  else digits.take point.toNat ++ '.' :: digits.drop point.toNat

/-- The text of `significand · 2 ^ exponent`, a point or an exponent always in it. -/
def magnitudeText (significand : Nat) (exponent : Int) : List Char :=
  if significand = 0 then ['0', '.', '0']
  else
    let (n, place) := shortest significand exponent
    let digits := Nat.toDigits 10 n
    layout (dropTrailingZeros digits) (digits.length + place)

end FollowGraph.Binary64
