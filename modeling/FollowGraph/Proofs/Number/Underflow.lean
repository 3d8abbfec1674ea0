import FollowGraph.Proofs.Number.Quotient

/-!
# The number of pages of any size

A count of at most 2 ^ 53 can be divided by a limit of any size. The rounded quotient still has the
ceiling of the exact one, with one exception: a quotient of at most half the least positive number
is rounded to zero, and then no page is left where there should be one (`ceilQuotient_of_le`).

Limits up to 2 ^ 53 were dealt with before (`ceilQuotient_natCast`). Beyond that the quotient is at
most one, so that its ceiling only depends on whether it is zero, and this is the one question asked
of the rounding here (`roundEven_eq_zero_iff`). At an exponent above the least one the significand
has all its bits, and the quotient is not rounded to zero; at the least one half a unit in the last
place is 2 ^ -1075 (`significand_eq_zero_iff`).
-/

set_option autoImplicit false

namespace FollowGraph

-- Powers of integers are the core library's, whatever other powers are in scope.
attribute [local instance (2000)] instPowNat

namespace Binary64

/-- What is at most a half is rounded to zero, the half itself because zero is even. -/
theorem roundEven_eq_zero_iff {num den : Nat} (pos : 0 < den) :
    roundEven num den = 0 ↔ 2 * num ≤ den := by
  have parts := Nat.div_add_mod num den
  have rest := Nat.mod_lt num pos
  unfold roundEven
  dsimp only
  by_cases whole : num / den = 0
  · rw [whole, Nat.mul_zero, Nat.zero_add] at parts
    rw [whole, parts]
    split
    · omega
    · split
      · omega
      · simp only [Nat.zero_mod, if_true, true_iff]
        omega
  · have large : den ≤ den * (num / den) := Nat.le_mul_of_pos_right den (Nat.pos_of_ne_zero whole)
    generalize num / den = quotient at parts whole large ⊢
    constructor
    · intro zero
      split at zero
      · exact absurd zero whole
      · split at zero
        · omega
        · split at zero <;> omega
    · omega

/-- An exponent is the least one when the numbers are too far apart for all 53 bits. -/
theorem exponentFor_of_far {num den : Nat} (far : Nat.log2 num + 1021 < Nat.log2 den) :
    exponentFor num den = minExponent := by
  unfold exponentFor minExponent
  dsimp only
  split <;> omega

/-- A positive quotient is rounded to zero just when it is at most half the least positive
number. -/
theorem significand_eq_zero_iff {num den : Nat} (some_num : 0 < num) (pos : 0 < den)
    (fraction : exponentFor num den ≤ 0) :
    roundEven (num * 2 ^ (-(exponentFor num den)).toNat) den = 0 ↔ num * 2 ^ (1075 : Nat) ≤ den := by
  have half : (1075 : Nat) = (-minExponent).toNat + 1 := by decide
  rw [roundEven_eq_zero_iff pos, half]
  by_cases near : Nat.log2 den ≤ Nat.log2 num + 1021
  · -- All bits are there, which is more than one: neither side holds.
    have bits := le_rescale_exponentFor some_num near
    have least : minExponent ≤ exponentFor num den := by
      unfold exponentFor
      exact Int.le_max_right _ _
    have none_above : (exponentFor num den).toNat = 0 := by omega
    rw [none_above, Nat.pow_zero, Nat.mul_one] at bits
    have finer : num * 2 ^ (-(exponentFor num den)).toNat ≤ num * 2 ^ ((-minExponent).toNat + 1) :=
      Nat.mul_le_mul_left num (Nat.pow_le_pow_right (by decide) (by omega))
    constructor <;> omega
  · rw [exponentFor_of_far (by omega), Nat.pow_succ, ← Nat.mul_assoc num]
    constructor <;> omega

/-- The nearest number to a quotient of at most one has the ceiling one, or it is zero. -/
theorem exists_nearest_of_large {num den : Nat} (some_num : 0 < num)
    (num_le : num ≤ 2 ^ (53 : Nat)) (den_large : 2 ^ (53 : Nat) < den) :
    ∃ significand exponent, nearest num den = some (significand, exponent) ∧
      ceilMagnitude significand exponent = if num * 2 ^ (1075 : Nat) ≤ den then 0 else 1 := by
  have fraction : exponentFor num den ≤ 0 := by
    have small := exponentFor_le num den
    have num_bits : Nat.log2 num < 54 := (Nat.log2_lt (by omega)).2 (by omega)
    have den_bits : 53 ≤ Nat.log2 den := (Nat.le_log2 (by omega)).2 (by omega)
    unfold minExponent at small
    omega
  have inside : exponentFor num den < maxExponent := by
    unfold maxExponent
    omega
  obtain ⟨significand, exponent, nearest_eq, same⟩ := exists_nearest_ceil (by omega) inside
  refine ⟨significand, exponent, nearest_eq, same.trans ?_⟩
  have none_above : (exponentFor num den).toNat = 0 := by omega
  have vanishes := significand_eq_zero_iff some_num (by omega : 0 < den) fraction
  rw [none_above, Nat.pow_zero, Nat.mul_one]
  generalize exponentFor num den = scale at vanishes none_above ⊢
  have at_most_one : ceilMagnitude (roundEven (num * 2 ^ (-scale).toNat) den) scale ≤ 1 := by
    rw [ceilMagnitude_le_iff, none_above, Nat.pow_zero, Nat.mul_one]
    refine roundEven_le (by omega) ?_
    rw [Nat.one_mul, Nat.mul_comm]
    exact Nat.mul_le_mul_left _ (by omega)
  have zero_iff : ceilMagnitude (roundEven (num * 2 ^ (-scale).toNat) den) scale ≤ 0 ↔
      num * 2 ^ (1075 : Nat) ≤ den := by
    rw [ceilMagnitude_le_iff, none_above, Nat.pow_zero, Nat.mul_one, Nat.zero_mul, Nat.le_zero_eq]
    exact vanishes
  split <;> omega

/-- The nearest number to a quotient has the ceiling of the quotient, or it is zero. -/
theorem exists_nearest_of_le {num den : Nat} (pos : 0 < den) (num_le : num ≤ 2 ^ (53 : Nat)) :
    ∃ significand exponent, nearest num den = some (significand, exponent) ∧
      ceilMagnitude significand exponent =
        if num * 2 ^ (1075 : Nat) ≤ den then 0 else (num + (den - 1)) / den := by
  by_cases small : den ≤ 2 ^ (53 : Nat)
  · obtain ⟨significand, exponent, nearest_eq, ceiling⟩ := exists_nearest pos num_le small
    refine ⟨significand, exponent, nearest_eq, ceiling.trans ?_⟩
    split
    · rename_i vanishes
      -- Only zero is so small beside a small number.
      have zero : num = 0 := by
        generalize least : (1075 : Nat) = k at vanishes
        have power : 2 ^ (54 : Nat) ≤ 2 ^ k := Nat.pow_le_pow_right (by decide) (by omega)
        have := Nat.mul_le_mul_left num power
        omega
      rw [zero, Nat.zero_add, Nat.div_eq_of_lt (by omega)]
    · rfl
  · by_cases zero : num = 0
    · have none_left : num * 2 ^ (1075 : Nat) = 0 := Nat.mul_eq_zero.2 (.inl zero)
      refine ⟨0, 0, by rw [nearest, if_pos zero], ?_⟩
      rw [none_left, if_pos (Nat.zero_le den), ceilMagnitude_zero]
    · obtain ⟨significand, exponent, nearest_eq, ceiling⟩ :=
        exists_nearest_of_large (Nat.pos_of_ne_zero zero) num_le (Nat.not_le.1 small)
      have one : (num + (den - 1)) / den = 1 := by
        rw [Nat.div_eq_iff pos]
        omega
      exact ⟨significand, exponent, nearest_eq, by rw [ceiling, one]⟩

end Binary64

/-- **The number of pages of any size is the ceiling of the exact quotient**, unless the quotient
vanishes, for counts up to 2 ^ 53. -/
theorem ceilQuotient_of_le {num den : Nat} (pos : 0 < den) (num_le : num ≤ 2 ^ (53 : Nat)) :
    ceilQuotient num den =
      .ok (if num * 2 ^ (1075 : Nat) ≤ den then 0 else (num + (den - 1)) / den : Nat) := by
  obtain ⟨significand, exponent, nearest_eq, ceiling⟩ := Binary64.exists_nearest_of_le pos num_le
  have den_ne : ¬ (den : Int) = 0 := by omega
  have same_sign : (num : Int) < 0 ↔ (den : Int) < 0 := by omega
  unfold ceilQuotient
  rw [if_neg den_ne, Int.natAbs_natCast, Int.natAbs_natCast, nearest_eq]
  dsimp only
  rw [if_pos same_sign, ceiling]

end FollowGraph
