import FollowGraph.Json.Order

/-!
# Sorting keeps the items

Sorting can fail, when two items do not compare. If it does not, what comes out is what went in, in
another order: no item is lost and none is added, whether the items are texts or not. Texts without
repetition come out in strictly ascending order.
-/

set_option autoImplicit false

namespace FollowGraph

/-- A computation in two parts succeeds when both do. -/
theorem of_bind_eq_ok {α β : Type} {x : Except Failure α} {f : α → Except Failure β} {b : β}
    (h : x >>= f = .ok b) : ∃ a, x = .ok a ∧ f a = .ok b := by
  cases x with
  | error failure => cases h
  | ok a => exact ⟨a, rfl, h⟩

namespace Json

theorem run_append {descending : Bool} {last : Json} {items begun rest : List Json}
    (h : run descending last items = .ok (begun, rest)) : begun ++ rest = items := by
  induction items generalizing last begun with
  | nil =>
    cases h
    rfl
  | cons item others ih =>
    obtain ⟨less, -, h⟩ := of_bind_eq_ok h
    split at h
    · obtain ⟨⟨more, left⟩, hr, h⟩ := of_bind_eq_ok h
      cases h
      exact congrArg (item :: ·) (ih hr)
    · cases h
      rfl

theorem insertAll_perm {sorted items out : List Json} (h : insertAll sorted items = .ok out) :
    out.Perm (sorted ++ items) := by
  induction items generalizing sorted with
  | nil =>
    cases h
    rw [List.append_nil]
  | cons item rest ih =>
    obtain ⟨place, -, h⟩ := of_bind_eq_ok h
    refine (ih h).trans ?_
    have moved : (sorted.take place ++ item :: sorted.drop place).Perm (item :: sorted) := by
      refine List.perm_middle.trans ?_
      rw [List.take_append_drop]
    exact (moved.append_right rest).trans List.perm_middle.symm

theorem sorted_perm {items out : List Json} (h : sorted items = .ok out) : out.Perm items := by
  unfold sorted at h
  split at h
  · cases h
    exact List.mergeSort_perm items _
  · split at h
    · rename_i first second rest _
      obtain ⟨descending, -, h⟩ := of_bind_eq_ok h
      obtain ⟨⟨begun, left⟩, hr, h⟩ := of_bind_eq_ok h
      refine (insertAll_perm h).trans ?_
      have front : (if descending then (first :: begun).reverse else first :: begun).Perm
          (first :: begun) := by
        split
        · exact List.reverse_perm _
        · exact List.Perm.refl _
      refine (front.append_right left).trans ?_
      rw [List.cons_append, run_append hr]
    · cases h
      exact List.Perm.refl _

/-! ## Texts in order -/

section Texts

-- As where texts are compared.
attribute [local instance (2000)] List.instLE List.decidableLE

variable {a b c : Json}

/-- A text and a greater one. -/
def Before (a b : Json) : Prop := textAtMost a b = true ∧ a ≠ b

instance (a b : Json) : Decidable (a.Before b) := inferInstanceAs (Decidable (_ ∧ _))

theorem textAtMost_trans (first : textAtMost a b = true) (second : textAtMost b c = true) :
    textAtMost a c = true := by
  simp only [textAtMost, decide_eq_true_eq] at *
  exact List.le_trans first second

theorem textAtMost_total (a b : Json) : (textAtMost a b || textAtMost b a) = true := by
  simp only [textAtMost, Bool.or_eq_true, decide_eq_true_eq]
  exact List.le_total a.points b.points

/-- Two strings that are at most each other are the same. -/
theorem eq_of_textAtMost {s t : String} (first : textAtMost (.str s) (.str t) = true)
    (second : textAtMost (.str t) (.str s) = true) : s = t := by
  simp only [textAtMost, decide_eq_true_eq] at first second
  have points : s.toList.map Char.toNat = t.toList.map Char.toNat := List.le_antisymm first second
  exact String.toList_inj.1 ((List.map_inj_right fun _ _ => Char.toNat_inj.1).1 points)

/-- Sorted texts that do not repeat are strictly ascending. -/
theorem pairwise_sortTexts {texts : List Json} (nodup : texts.Nodup) :
    (sortTexts texts).Pairwise Before := by
  have sorted : (sortTexts texts).Pairwise fun a b => textAtMost a b = true :=
    List.pairwise_mergeSort (fun a b c => textAtMost_trans (a := a) (b := b) (c := c))
      textAtMost_total texts
  have differ : (sortTexts texts).Nodup := (List.mergeSort_perm texts _).nodup_iff.2 nodup
  exact sorted.and differ

end Texts

end Json
end FollowGraph
