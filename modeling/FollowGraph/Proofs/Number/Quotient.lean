import FollowGraph.Number.Quotient

/-!
# The number of pages is exact

The number of pages is computed through a rounded quotient, and rounding could lose the last page or
add one. It does not as long as count and limit are at most 2 ^ 53 (`ceilQuotient_natCast`).

Two facts carry this. The exponent is chosen so that the scaled quotient is at least 2 ^ 52
(`le_rescale_exponentFor`), and with a count of at most 2 ^ 53 the scale is then fine enough that a
quotient above an integer lies above it by more than half a unit in the last place. So it is not
rounded down to the integer (`lt_roundEven_of_lt`); that a quotient below an integer is not rounded
above it holds of any rounding to nearest.

A ceiling is known by the integers that it is at most, so both sides are compared by
`ceilMagnitude_le_iff`, which needs no fractions.
-/

set_option autoImplicit false

namespace FollowGraph

-- Powers of integers are the core library's, whatever other powers are in scope.
attribute [local instance (2000)] instPowNat

theorem ceilDiv_le_iff {num den c : Nat} (pos : 0 < den) :
    (num + (den - 1)) / den ≤ c ↔ num ≤ c * den := by
  rw [← Nat.lt_succ_iff, Nat.div_lt_iff_lt_mul pos, Nat.succ_mul]
  omega

namespace Binary64

/-! ## Rounding -/

/-- What is at most an integer is not rounded above it. -/
theorem roundEven_le {num den k : Nat} (pos : 0 < den) (h : num ≤ k * den) :
    roundEven num den ≤ k := by
  have parts := Nat.div_add_mod num den
  have rest := Nat.mod_lt num pos
  have below : num / den ≤ k := Nat.div_le_of_le_mul (by rw [Nat.mul_comm]; exact h)
  unfold roundEven
  dsimp only
  rcases Nat.lt_or_eq_of_le below with less | exact_
  · split
    · omega
    · split
      · omega
      · split <;> omega
  · -- Nothing is left over then.
    have none_left : num % den = 0 := by
      rw [exact_, Nat.mul_comm] at parts
      omega
    rw [if_pos (by omega)]
    omega

/-- What is more than half above an integer is not rounded to it. -/
theorem lt_roundEven {num den k : Nat} (pos : 0 < den) (h : 2 * (k * den) + den < 2 * num) :
    k < roundEven num den := by
  have parts := Nat.div_add_mod num den
  have rest := Nat.mod_lt num pos
  have above : k ≤ num / den := by
    rw [Nat.le_div_iff_mul_le pos]
    omega
  unfold roundEven
  dsimp only
  rcases Nat.lt_or_eq_of_le above with less | exact_
  · split
    · exact less
    · split
      · omega
      · split <;> omega
  · -- More than half is left over then.
    rw [← exact_, Nat.mul_comm] at parts
    rw [if_neg (by omega), if_pos (by omega)]
    omega

/-! ## Ceilings -/

theorem ceilMagnitude_le_iff (significand : Nat) (exponent : Int) (c : Nat) :
    ceilMagnitude significand exponent ≤ c ↔
      significand * 2 ^ exponent.toNat ≤ c * 2 ^ (-exponent).toNat := by
  unfold ceilMagnitude
  split
  · have none_below : (-exponent).toNat = 0 := by omega
    rw [none_below, Nat.pow_zero, Nat.mul_one]
  · have none_above : exponent.toNat = 0 := by omega
    rw [none_above, Nat.pow_zero, Nat.mul_one]
    exact ceilDiv_le_iff (Nat.two_pow_pos _)

theorem eq_of_le_iff {m n : Nat} (h : ∀ c, m ≤ c ↔ n ≤ c) : m = n :=
  Nat.le_antisymm ((h n).2 (Nat.le_refl n)) ((h m).1 (Nat.le_refl m))

/-- The next power of two has the same value with a significand of its own. -/
theorem ceilMagnitude_carry (exponent : Int) :
    ceilMagnitude (2 ^ (52 : Nat)) (exponent + 1) = ceilMagnitude significandBound exponent := by
  refine eq_of_le_iff fun c => ?_
  rw [ceilMagnitude_le_iff, ceilMagnitude_le_iff, significandBound]
  by_cases up : 0 ≤ exponent
  · have below : (-exponent).toNat = 0 ∧ (-(exponent + 1)).toNat = 0 := by omega
    have above : (exponent + 1).toNat = exponent.toNat + 1 := by omega
    rw [below.1, below.2, above, Nat.pow_succ 2 exponent.toNat]
    omega
  · have above : exponent.toNat = 0 ∧ (exponent + 1).toNat = 0 := by omega
    have below : (-exponent).toNat = (-(exponent + 1)).toNat + 1 := by omega
    rw [above.1, above.2, below, Nat.pow_succ 2 (-(exponent + 1)).toNat, ← Nat.mul_assoc c]
    omega

/-! ## Scale -/

theorem rescale_eq (num den : Nat) (exponent : Int) :
    rescale num den exponent = (num * 2 ^ (-exponent).toNat, den * 2 ^ exponent.toNat) := by
  unfold rescale
  split
  · have none_below : (-exponent).toNat = 0 := by omega
    rw [none_below, Nat.pow_zero, Nat.mul_one]
  · have none_above : exponent.toNat = 0 := by omega
    rw [none_above, Nat.pow_zero, Nat.mul_one]

/-- How large an exponent is: as large as the numbers of bits say, or less by one. -/
theorem exponentFor_le (num den : Nat) :
    exponentFor num den ≤ max ((Nat.log2 num : Int) - (Nat.log2 den : Int) - 52) minExponent := by
  unfold exponentFor
  dsimp only
  split <;> omega

/-- Of numbers that are not too far apart the scaled quotient has all 53 bits. -/
theorem le_rescale_exponentFor {num den : Nat} (pos : 0 < num)
    (near : Nat.log2 den ≤ Nat.log2 num + 1021) :
    den * 2 ^ (exponentFor num den).toNat * 2 ^ (52 : Nat) ≤
      num * 2 ^ (-(exponentFor num den)).toNat := by
  unfold exponentFor
  dsimp only
  generalize guessed : (Nat.log2 num : Int) - (Nat.log2 den : Int) - 52 = guess
  simp only [rescale_eq]
  split
  · have kept : max (guess - 1) minExponent = guess - 1 := by
      unfold minExponent
      omega
    rw [kept]
    have bits : Nat.log2 den + 1 + (guess - 1).toNat + 52 =
        Nat.log2 num + (-(guess - 1)).toNat := by omega
    have den_lt : den < 2 ^ (Nat.log2 den + 1) := Nat.lt_log2_self
    have le_num : 2 ^ Nat.log2 num ≤ num := Nat.log2_self_le (by omega)
    calc den * 2 ^ (guess - 1).toNat * 2 ^ 52
        ≤ 2 ^ (Nat.log2 den + 1) * 2 ^ (guess - 1).toNat * 2 ^ 52 :=
          Nat.mul_le_mul_right _ (Nat.mul_le_mul_right _ (Nat.le_of_lt den_lt))
      _ = 2 ^ Nat.log2 num * 2 ^ (-(guess - 1)).toNat := by
          rw [← Nat.pow_add, ← Nat.pow_add, bits, Nat.pow_add]
      _ ≤ num * 2 ^ (-(guess - 1)).toNat := Nat.mul_le_mul_right _ le_num
  · rename_i enough
    have kept : max guess minExponent = guess := by
      unfold minExponent
      omega
    rw [kept]
    exact Nat.not_lt.1 enough

/-! ## Quotients -/

/-- Where the scale is no coarser than twice the denominator, a quotient above an integer lies above
it by more than half. -/
theorem lt_roundEven_of_lt {num den scale c : Nat} (pos : 0 < den) (bound : num ≤ 2 ^ (53 : Nat))
    (bits : den * 2 ^ (52 : Nat) ≤ num * scale) (h : c * den < num) :
    c * scale < roundEven (num * scale) den := by
  have fine : den ≤ 2 * scale := by
    have := Nat.mul_le_mul_right scale bound
    omega
  have swap : c * scale * den = c * den * scale := Nat.mul_right_comm c scale den
  refine lt_roundEven pos ?_
  rcases Nat.lt_or_eq_of_le fine with finer | same
  · have one_more : (c * den + 1) * scale ≤ num * scale := Nat.mul_le_mul_right scale h
    rw [Nat.succ_mul] at one_more
    omega
  · -- A tie would go to the even number, but both sides of the quotient are even here.
    have scale_pos : 0 < scale := by omega
    have count : num = 2 ^ 53 := by
      have : 2 ^ 53 * scale ≤ num * scale := by omega
      exact Nat.le_antisymm bound (Nat.le_of_mul_le_mul_right this scale_pos)
    have two_more : c * den + 2 ≤ num := by
      have even : c * den = 2 * (c * scale) := by rw [same, Nat.mul_left_comm]
      omega
    have scaled := Nat.mul_le_mul_right scale two_more
    rw [Nat.add_mul] at scaled
    omega

/-- The rounded quotient is at most the same integers as the quotient, when all bits are there. -/
theorem roundEven_le_iff {num den : Nat} {exponent : Int} (pos : 0 < den)
    (bound : num ≤ 2 ^ (53 : Nat))
    (bits : den * 2 ^ exponent.toNat * 2 ^ (52 : Nat) ≤ num * 2 ^ (-exponent).toNat) (c : Nat) :
    roundEven (num * 2 ^ (-exponent).toNat) (den * 2 ^ exponent.toNat) * 2 ^ exponent.toNat ≤
        c * 2 ^ (-exponent).toNat ↔ num ≤ c * den := by
  by_cases up : 0 < exponent
  · -- Only 2 ^ 53 itself is so large, and only when it is not divided.
    have none_below : (-exponent).toNat = 0 := by omega
    have at_least : 2 ^ 1 ≤ 2 ^ exponent.toNat := Nat.pow_le_pow_right (by decide) (by omega)
    have shared : 1 * 2 ^ exponent.toNat ≤ den * 2 ^ exponent.toNat := Nat.mul_le_mul_right _ pos
    rw [none_below, Nat.pow_zero, Nat.mul_one] at bits
    have double : 2 ^ exponent.toNat = 2 := by omega
    have single : den = 1 := by
      rw [double] at bits
      omega
    have count : num = 2 ^ 53 := by
      rw [double, single] at bits
      omega
    have exact_ : roundEven (num * 2 ^ (-exponent).toNat) (den * 2 ^ exponent.toNat) *
        2 ^ exponent.toNat = num := by
      rw [none_below, double, single, count]
      decide
    have unscaled : c * 2 ^ (-exponent).toNat = c * den := by simp [none_below, single]
    rw [exact_, unscaled]
  · have none_above : exponent.toNat = 0 := by omega
    rw [none_above] at bits ⊢
    simp only [Nat.pow_zero, Nat.mul_one] at bits ⊢
    generalize 2 ^ (-exponent).toNat = scale at bits ⊢
    constructor
    · intro rounded
      refine Nat.le_of_not_lt fun above => ?_
      exact Nat.not_lt.2 rounded (lt_roundEven_of_lt pos bound bits above)
    · intro below
      refine roundEven_le pos ?_
      have := Nat.mul_le_mul_right scale below
      rwa [Nat.mul_right_comm] at this

theorem ceilMagnitude_zero (exponent : Int) : ceilMagnitude 0 exponent = 0 := by
  apply Nat.le_zero.1
  simp only [ceilMagnitude_le_iff, Nat.zero_mul, Nat.le_refl]

/-- The nearest number is the rounded significand at its exponent, as far as ceilings can tell: a
carry changes neither, and zero has an exponent of its own. -/
theorem exists_nearest_ceil {num den : Nat} (some_num : num ≠ 0)
    (inside : exponentFor num den < maxExponent) :
    ∃ significand exponent, nearest num den = some (significand, exponent) ∧
      ceilMagnitude significand exponent =
        ceilMagnitude (roundEven (num * 2 ^ (-(exponentFor num den)).toNat)
          (den * 2 ^ (exponentFor num den).toNat)) (exponentFor num den) := by
  simp only [nearest, if_neg some_num, rescale_eq]
  generalize exponentFor num den = exponent at inside ⊢
  generalize roundEven (num * 2 ^ (-exponent).toNat) (den * 2 ^ exponent.toNat) = significand
  by_cases carry : significand = significandBound
  · have beyond : ¬ maxExponent < exponent + 1 := by omega
    refine ⟨2 ^ 52, exponent + 1, ?_, ?_⟩
    · rw [if_pos carry]
      simp only [Nat.reducePow, Nat.reduceEqDiff, beyond, if_false]
    · rw [ceilMagnitude_carry, ← carry]
  · have beyond : ¬ maxExponent < exponent := by omega
    rw [if_neg carry]
    by_cases zero : significand = 0
    · refine ⟨0, 0, by rw [if_pos zero], ?_⟩
      rw [zero, ceilMagnitude_zero, ceilMagnitude_zero]
    · exact ⟨significand, exponent, by rw [if_neg zero, if_neg beyond], rfl⟩

/-- The nearest number to a quotient has the ceiling of the quotient. -/
theorem exists_nearest {num den : Nat} (pos : 0 < den) (num_le : num ≤ 2 ^ (53 : Nat))
    (den_le : den ≤ 2 ^ (53 : Nat)) :
    ∃ significand exponent, nearest num den = some (significand, exponent) ∧
      ceilMagnitude significand exponent = (num + (den - 1)) / den := by
  by_cases zero : num = 0
  · refine ⟨0, 0, by rw [nearest, if_pos zero], ?_⟩
    rw [zero, Nat.zero_add, Nat.div_eq_of_lt (by omega)]
    rfl
  · have num_bits : Nat.log2 num < 54 := (Nat.log2_lt zero).2 (by omega)
    have den_bits : Nat.log2 den < 54 := (Nat.log2_lt (by omega)).2 (by omega)
    have bits := le_rescale_exponentFor (by omega : 0 < num) (by omega : den.log2 ≤ _ + 1021)
    have inside : exponentFor num den < maxExponent := by
      have small := exponentFor_le num den
      unfold minExponent at small
      unfold maxExponent
      omega
    obtain ⟨significand, exponent, nearest_eq, same⟩ := exists_nearest_ceil zero inside
    refine ⟨significand, exponent, nearest_eq, same.trans (eq_of_le_iff fun c => ?_)⟩
    rw [ceilMagnitude_le_iff, roundEven_le_iff pos num_le bits, ceilDiv_le_iff pos]

end Binary64

/-- **The number of pages is the ceiling of the exact quotient**, for numbers up to 2 ^ 53. -/
theorem ceilQuotient_natCast {num den : Nat} (pos : 0 < den) (num_le : num ≤ 2 ^ (53 : Nat))
    (den_le : den ≤ 2 ^ (53 : Nat)) :
    ceilQuotient num den = .ok ((num + (den - 1)) / den : Nat) := by
  obtain ⟨significand, exponent, nearest_eq, ceiling⟩ := Binary64.exists_nearest pos num_le den_le
  have den_ne : ¬ (den : Int) = 0 := by omega
  have same_sign : (num : Int) < 0 ↔ (den : Int) < 0 := by omega
  unfold ceilQuotient
  rw [if_neg den_ne, Int.natAbs_natCast, Int.natAbs_natCast, nearest_eq]
  dsimp only
  rw [if_pos same_sign, ceiling]

/-- One more than 2 ^ 53 loses its last bit, and with it a page. -/
example : (ceilQuotient (2 ^ 53 + 1) 1).toOption = some (2 ^ 53) := by decide +kernel

end FollowGraph
