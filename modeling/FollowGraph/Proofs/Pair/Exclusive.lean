import FollowGraph.Proofs.Pair.Refinement

/-!
# Following and blocking exclude one another

The stores accept any edge. That a block stands alone between its two users is the work of the
operations: a follow is refused where there is a block, and a block first takes both following
edges away. On the pair machine this is an invariant of single steps; the refinement carries it to
the services, and an operation that is none of the five leaves the edges alone.
-/

set_option autoImplicit false

namespace FollowGraph

/-! ## On the machine -/

namespace Pairs

/-- Nobody follows or blocks themselves, and between a user and one they block there is nothing
else. -/
structure Exclusive (p : Pairs) : Prop where
  not_self : ∀ a, (a, a) ∉ p.following ∧ (a, a) ∉ p.blocked
  alone : ∀ a b, (a, b) ∈ p.blocked →
    (a, b) ∉ p.following ∧ (b, a) ∉ p.following ∧ (b, a) ∉ p.blocked

theorem Exclusive.mono {p q : Pairs} (h : p.Exclusive) (following : q.following ⊆ p.following)
    (blocked : q.blocked ⊆ p.blocked) : q.Exclusive where
  not_self a := ⟨fun hm => (h.not_self a).1 (following hm), fun hm => (h.not_self a).2 (blocked hm)⟩
  alone a b hb := by
    obtain ⟨out, back, other⟩ := h.alone a b (blocked hb)
    exact ⟨fun hm => out (following hm), fun hm => back (following hm),
      fun hm => other (blocked hm)⟩

/-- Less of anything excludes no less. -/
theorem Exclusive.erase {p : Pairs} (h : p.Exclusive) (kind : Relationship)
    (pair : UserId × UserId) : (p.erase kind pair).Exclusive := by
  cases kind with
  | following => exact h.mono (Finset.erase_subset _ _) (Finset.Subset.refl _)
  | blocked => exact h.mono (Finset.Subset.refl _) (Finset.erase_subset _ _)

theorem Exclusive.insert_following {p : Pairs} (h : p.Exclusive) {a b : UserId} (differ : a ≠ b)
    (free : ¬ p.Limited a b) : (p.insert .following (a, b)).Exclusive where
  not_self x := by
    refine ⟨?_, (h.not_self x).2⟩
    intro hm
    rcases Finset.mem_insert.1 hm with new | old
    · obtain ⟨rfl, rfl⟩ := Prod.mk.inj new
      exact differ rfl
    · exact (h.not_self x).1 old
  alone x y hb := by
    obtain ⟨out, back, other⟩ := h.alone x y hb
    -- The new pair is between these two only if they block one another, one way or the other.
    refine ⟨?_, ?_, other⟩
    · intro hm
      rcases Finset.mem_insert.1 hm with new | old
      · obtain ⟨rfl, rfl⟩ := Prod.mk.inj new
        exact free (.inl hb)
      · exact out old
    · intro hm
      rcases Finset.mem_insert.1 hm with new | old
      · obtain ⟨rfl, rfl⟩ := Prod.mk.inj new
        exact free (.inr hb)
      · exact back old

theorem Exclusive.insert_blocked {p : Pairs} (h : p.Exclusive) {a b : UserId} (differ : a ≠ b)
    (free : ¬ p.Limited a b) (out : (a, b) ∉ p.following) (back : (b, a) ∉ p.following) :
    (p.insert .blocked (a, b)).Exclusive where
  not_self x := by
    refine ⟨(h.not_self x).1, ?_⟩
    intro hm
    rcases Finset.mem_insert.1 hm with new | old
    · obtain ⟨rfl, rfl⟩ := Prod.mk.inj new
      exact differ rfl
    · exact (h.not_self x).2 old
  alone x y hb := by
    rcases Finset.mem_insert.1 hb with new | old
    · obtain ⟨rfl, rfl⟩ := Prod.mk.inj new
      refine ⟨out, back, ?_⟩
      intro hm
      rcases Finset.mem_insert.1 hm with turned | old
      · exact differ (Prod.mk.inj turned).2
      · exact free (.inr old)
    · obtain ⟨out', back', other⟩ := h.alone x y old
      refine ⟨out', back', ?_⟩
      intro hm
      rcases Finset.mem_insert.1 hm with new | old'
      · obtain ⟨rfl, rfl⟩ := Prod.mk.inj new
        exact free (.inr old)
      · exact other old'

/-- What a step can do to the pairs, and what it has made sure of. -/
inductive Move (p : Pairs) : Pairs → Prop where
  | stay : Move p p
  | take (kind : Relationship) (pair : UserId × UserId) : Move p (p.erase kind pair)
  | follow {a b : UserId} (differ : a ≠ b) (free : ¬ p.Limited a b) :
      Move p (p.insert .following (a, b))
  | block {a b : UserId} (differ : a ≠ b) (free : ¬ p.Limited a b) :
      Move p (((p.erase .following (a, b)).erase .following (b, a)).insert .blocked (a, b))

theorem move_follow (p : Pairs) (a b : UserId) : Move p (p.follow a b).2 := by
  unfold Pairs.follow
  split
  · exact .stay
  split
  · exact .stay
  split
  · exact .stay
  split
  · exact .stay
  · rename_i differ _ _ free
    exact .follow differ free

theorem move_unfollow (p : Pairs) (a b : UserId) : Move p (p.unfollow a b).2 := by
  unfold unfollow
  split
  · exact .stay
  split
  · exact .stay
  split
  · exact .stay
  · exact .take .following (a, b)

theorem move_removeFollower (p : Pairs) (a b : UserId) : Move p (p.removeFollower a b).2 := by
  unfold removeFollower
  split
  · exact .stay
  split
  · exact .stay
  split
  · exact .stay
  · exact .take .following (b, a)

theorem move_block (p : Pairs) (a b : UserId) : Move p (p.block a b).2 := by
  unfold Pairs.block
  split
  · exact .stay
  split
  · exact .stay
  split
  · exact .stay
  · rename_i differ _ free
    exact .block differ free

theorem move_unblock (p : Pairs) (a b : UserId) : Move p (p.unblock a b).2 := by
  unfold unblock
  split
  · exact .stay
  split
  · exact .stay
  dsimp only
  split
  · exact .take .blocked (a, b)
  · exact .take .blocked (b, a)

theorem move_step (p : Pairs) (op : PairOperation) : Move p (p.step op).2 := by
  cases op with
  | follow a b => exact move_follow p _ _
  | unfollow a b => exact move_unfollow p _ _
  | removeFollower a b => exact move_removeFollower p _ _
  | block a b => exact move_block p _ _
  | unblock a b => exact move_unblock p _ _

theorem Exclusive.move {p q : Pairs} (h : p.Exclusive) (hm : Move p q) : q.Exclusive := by
  cases hm with
  | stay => exact h
  | take kind pair => exact h.erase kind pair
  | follow differ free => exact h.insert_following differ free
  | block differ free =>
    refine ((h.erase _ _).erase _ _).insert_blocked differ free ?_ ?_
    · exact fun there => Finset.notMem_erase _ _ (Finset.mem_of_mem_erase there)
    · exact Finset.notMem_erase _ _

theorem limited_comm {p : Pairs} {a b : UserId} : p.Limited a b ↔ p.Limited b a := Or.comm

/-- When an unblock succeeds, and what it leaves. -/
theorem of_unblock_succeeded {p : Pairs} {a b : UserId}
    (succeeded : (p.unblock a b).1.success = true) :
    a ≠ b ∧ p.Limited a b ∧ (p.unblock a b).2 =
      if (a, b) ∈ p.blocked then p.erase .blocked (a, b) else p.erase .blocked (b, a) := by
  unfold unblock at succeeded ⊢
  by_cases same : a = b
  · rw [if_pos same] at succeeded
    cases succeeded
  by_cases limited : p.Limited a b
  · rw [if_neg same, if_neg (not_not.2 limited)]
    exact ⟨same, limited, rfl⟩
  · rw [if_neg same, if_pos limited] at succeeded
    cases succeeded

/-- An unblock that succeeds leaves no block, since there was only one. -/
theorem Exclusive.free_after_unblock {p : Pairs} (h : p.Exclusive) {a b : UserId}
    (succeeded : (p.unblock a b).1.success = true) : ¬ (p.unblock a b).2.Limited a b := by
  obtain ⟨-, -, left⟩ := of_unblock_succeeded succeeded
  rw [left]
  by_cases mine : (a, b) ∈ p.blocked
  · rw [if_pos mine]
    rintro (again | other)
    · exact Finset.notMem_erase _ _ again
    · exact (h.alone a b mine).2.2 (Finset.mem_of_mem_erase other)
  · rw [if_neg mine]
    rintro (own | again)
    · exact mine (Finset.mem_of_mem_erase own)
    · exact Finset.notMem_erase _ _ again

theorem unblock_of_free {p : Pairs} {a b : UserId} (differ : a ≠ b) (free : ¬ p.Limited a b) :
    p.unblock a b = (.forbidden "User not blocked", p) := by
  unfold unblock
  rw [if_neg differ, if_pos free]

end Pairs

/-! ## On the graph -/

/-- No self edges, and a block excludes every other edge between its two users. -/
structure Graph.Exclusive (g : Graph) : Prop where
  no_self : ∀ e ∈ g.edges, e.source ≠ e.target
  alone : ∀ a b, (⟨a, b, .blocked⟩ : Edge) ∈ g.edges →
    (⟨a, b, .following⟩ : Edge) ∉ g.edges ∧ (⟨b, a, .following⟩ : Edge) ∉ g.edges ∧
    (⟨b, a, .blocked⟩ : Edge) ∉ g.edges

theorem Graph.exclusive_of_pairs {g : Graph} (h : g.pairs.Exclusive) : g.Exclusive where
  no_self := by
    rintro ⟨a, b, kind⟩ he same
    obtain rfl : a = b := same
    cases kind with
    | following => exact (h.not_self a).1 (mem_pairsOf.2 he)
    | blocked => exact (h.not_self a).2 (mem_pairsOf.2 he)
  alone a b hb := by
    obtain ⟨out, back, other⟩ := h.alone a b (mem_pairsOf.2 hb)
    exact ⟨fun he => out (mem_pairsOf.2 he), fun he => back (mem_pairsOf.2 he),
      fun he => other (mem_pairsOf.2 he)⟩

/-- Exclusivity is a matter of the edges alone. -/
theorem Graph.exclusive_pairs_congr {g g' : Graph} (same : g'.edges = g.edges)
    (h : g.pairs.Exclusive) : g'.pairs.Exclusive := by
  have of_kind (kind : Relationship) : g'.pairsOf kind = g.pairsOf kind := by
    unfold pairsOf
    rw [same]
  exact h.mono (of_kind .following).subset (of_kind .blocked).subset

/-! ## On the services -/

/-- An operation is one of the five, or has no effect on edges. -/
theorem Operation.pair_or_keeps (op : Operation) :
    (∃ pairOp : PairOperation, op = pairOp.operation) ∨ .edges ∉ op.effects := by
  cases op with
  | follow a b => exact .inl ⟨.follow a b, rfl⟩
  | unfollow a b => exact .inl ⟨.unfollow a b, rfl⟩
  | removeFollower a b => exact .inl ⟨.removeFollower a b, rfl⟩
  | block a b => exact .inl ⟨.block a b, rfl⟩
  | unblock a b => exact .inl ⟨.unblock a b, rfl⟩
  | _ => exact .inr (by simp [Operation.effects])

namespace World

/-- What holds all along a run that began with an empty graph. -/
structure Sound (w : World) : Prop where
  wellFormed : w.graph.WellFormed
  exclusive : w.graph.pairs.Exclusive

theorem sound_of_empty (w : World) : ({ w with graph := .empty } : World).Sound where
  wellFormed := Graph.wellFormed_empty
  exclusive := ⟨fun _ => ⟨Finset.notMem_empty _, Finset.notMem_empty _⟩,
    fun _ _ h => absurd h (Finset.notMem_empty _)⟩

theorem Sound.step {w : World} (h : w.Sound) (s : Step) : (w.step s).Sound := by
  refine ⟨wellFormed_step h.wellFormed s, ?_⟩
  cases s with
  | wait seconds => exact h.exclusive
  | perform op =>
    rcases op.pair_or_keeps with ⟨pairOp, rfl⟩ | keeps
    · obtain ⟨program, hop, refines⟩ := pairOp.refines
      obtain ⟨-, moved, -⟩ := refines.perform hop h.wellFormed.counted
      exact moved ▸ h.exclusive.move (Pairs.move_step _ pairOp)
    · exact Graph.exclusive_pairs_congr (run_edges op.uses_effects keeps w) h.exclusive

theorem Sound.after {w : World} (h : w.Sound) (steps : List Step) : (w.after steps).Sound :=
  after_keeps (fun _ s hw => hw.step s) h steps

theorem perform_unblock {w : World} (counted : w.graph.Counted) (a b : String) :
    (w.perform (.unblock a b)).1 = .ok (w.graph.pairs.unblock (.str a) (.str b)).1 ∧
    (w.perform (.unblock a b)).2.graph.pairs = (w.graph.pairs.unblock (.str a) (.str b)).2 ∧
    (w.perform (.unblock a b)).2.graph.Counted :=
  (refines_unblock (.str a) (.str b)).perform rfl counted

/-- **Following and blocking exclude one another over whole runs.** From an empty graph, whatever
operations were made by whomever and however much time went by between them: there is no self
edge, and a block excludes every other edge of its pair. An unblock that succeeds leaves the pair
free both ways, so that another one by either side is refused. -/
theorem exclusive_after (w : World) (steps : List Step) :
    let reached := ({ w with graph := .empty } : World).after steps
    reached.graph.Exclusive ∧
    ∀ (a b : String) (response : Response),
      (reached.perform (.unblock a b)).1 = .ok response → response.success = true →
      let next := (reached.perform (.unblock a b)).2
      (⟨.str a, .str b, .blocked⟩ : Edge) ∉ next.graph.edges ∧
      (⟨.str b, .str a, .blocked⟩ : Edge) ∉ next.graph.edges ∧
      (next.perform (.unblock a b)).1 = .ok (.forbidden "User not blocked") ∧
      (next.perform (.unblock b a)).1 = .ok (.forbidden "User not blocked") := by
  intro reached
  have sound : reached.Sound := (sound_of_empty w).after steps
  refine ⟨Graph.exclusive_of_pairs sound.exclusive, ?_⟩
  intro a b response answered succeeded next
  obtain ⟨answer, moved, counted⟩ := perform_unblock sound.wellFormed.counted a b
  rw [answer] at answered
  cases answered
  obtain ⟨differ, -, -⟩ := Pairs.of_unblock_succeeded succeeded
  have free : ¬ next.graph.pairs.Limited (.str a) (.str b) := by
    rw [moved]
    exact sound.exclusive.free_after_unblock succeeded
  refine ⟨fun own => free (.inl (Graph.mem_pairsOf.2 own)),
    fun other => free (.inr (Graph.mem_pairsOf.2 other)), ?_, ?_⟩
  · rw [(perform_unblock counted a b).1, Pairs.unblock_of_free differ free]
  · rw [(perform_unblock counted b a).1, Pairs.unblock_of_free differ.symm
      (fun limited => free (Pairs.limited_comm.1 limited))]

end World
end FollowGraph
