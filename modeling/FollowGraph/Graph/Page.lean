/-!
Pages of a list. Bounds may be negative: they count from the end then, and a bound outside the
list is moved to its nearest end.
-/

set_option autoImplicit false

namespace FollowGraph

/-- A bound of a slice of a list of the given length, as a position in it. -/
def sliceBound (length : Nat) (bound : Int) : Nat :=
  if bound < 0 then (bound + length).toNat else min bound.toNat length

/-- The items from one bound up to another. -/
def slice {α : Type} (items : List α) (start stop : Int) : List α :=
  (items.take (sliceBound items.length stop)).drop (sliceBound items.length start)

/-- Page number `page` when pages have `limit` items; pages count from zero. -/
def pageOf {α : Type} (items : List α) (page limit : Int) : List α :=
  slice items (page * limit) (page * limit + limit)

theorem pageOf_natCast {α : Type} (items : List α) (page limit : Nat) :
    pageOf items page limit = (items.drop (page * limit)).take limit := by
  have h₁ : ¬ ((page : Int) * limit < 0) := by
    rw [← Int.natCast_mul]; omega
  have h₂ : ¬ ((page : Int) * limit + limit < 0) := by
    rw [← Int.natCast_mul]; omega
  have e₁ : ((page : Int) * limit).toNat = page * limit := by
    rw [← Int.natCast_mul]; exact Int.toNat_natCast _
  have e₂ : ((page : Int) * limit + limit).toNat = page * limit + limit := by
    rw [← Int.natCast_mul, ← Int.natCast_add]; exact Int.toNat_natCast _
  simp only [pageOf, slice, sliceBound, h₁, h₂, if_false, e₁, e₂]
  rw [List.take_drop]
  rcases Nat.le_total (page * limit) items.length with h | h
  · rw [Nat.min_eq_left h]
    rcases Nat.le_total (page * limit + limit) items.length with h' | h'
    · rw [Nat.min_eq_left h']
    · rw [Nat.min_eq_right h', List.take_of_length_le h', List.take_of_length_le (Nat.le_refl _)]
  · rw [Nat.min_eq_right h, Nat.min_eq_right (by omega)]
    rw [List.take_of_length_le (Nat.le_refl _), List.take_of_length_le (by omega)]
    rw [List.drop_eq_nil_of_le (Nat.le_refl _), List.drop_eq_nil_of_le h]

end FollowGraph
