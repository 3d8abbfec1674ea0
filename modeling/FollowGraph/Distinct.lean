/-!
Lists without repetition. Of several equal items the first keeps its place.
-/

set_option autoImplicit false

namespace FollowGraph

variable {α : Type} [DecidableEq α]

/-- The items of a list, each at its first place only. -/
def distinct : List α → List α
  | [] => []
  | a :: rest => a :: (distinct rest).filter (· ≠ a)

theorem mem_distinct {a : α} {items : List α} : a ∈ distinct items ↔ a ∈ items := by
  induction items with
  | nil => simp [distinct]
  | cons b rest ih => by_cases h : a = b <;> simp [distinct, ih, h]

theorem nodup_distinct (items : List α) : (distinct items).Nodup := by
  induction items with
  | nil => simp [distinct]
  | cons a rest ih =>
    simp only [distinct, List.nodup_cons, List.mem_filter]
    exact ⟨by simp, ih.filter _⟩

theorem distinct_of_nodup {items : List α} (h : items.Nodup) : distinct items = items := by
  induction items with
  | nil => rfl
  | cons a rest ih =>
    obtain ⟨new, nodup⟩ := List.nodup_cons.1 h
    rw [distinct, ih nodup, List.filter_eq_self.2]
    exact fun b there => decide_eq_true fun same => new (same ▸ there)

/-- Items that are kept stand in the order in which they are first met. -/
theorem pairwise_idxOf_distinct_filter (p : α → Bool) (items : List α) :
    (distinct (items.filter p)).Pairwise fun a b => items.idxOf a < items.idxOf b := by
  induction items with
  | nil => exact List.Pairwise.nil
  | cons a rest ih =>
    have further {b : α} (hb : b ≠ a) : (a :: rest).idxOf b = rest.idxOf b + 1 := by
      rw [List.idxOf_cons, beq_false_of_ne hb.symm, cond_false]
    have later {b c : α} (hb : b ≠ a) (hc : c ≠ a) (h : rest.idxOf b < rest.idxOf c) :
        (a :: rest).idxOf b < (a :: rest).idxOf c := by
      rw [further hb, further hc]
      exact Nat.succ_lt_succ h
    by_cases kept : p a = true
    · rw [List.filter_cons_of_pos kept, distinct, List.pairwise_cons]
      constructor
      · intro b hb
        have other : b ≠ a := by simpa using (List.mem_filter.1 hb).2
        rw [List.idxOf_cons_self, further other]
        exact Nat.succ_pos _
      · refine (ih.filter _).imp_of_mem fun {b c} hb hc h => ?_
        exact later (by simpa using (List.mem_filter.1 hb).2)
          (by simpa using (List.mem_filter.1 hc).2) h
    · rw [List.filter_cons_of_neg kept]
      refine ih.imp_of_mem fun {b c} hb hc h => ?_
      have differs {x : α} (hx : x ∈ distinct (rest.filter p)) : x ≠ a := by
        rintro rfl
        exact kept (List.mem_filter.1 (mem_distinct.1 hx)).2
      exact later (differs hb) (differs hc) h

end FollowGraph
