import FollowGraph.Proofs.Pair.Commuting
import FollowGraph.Proofs.Pair.Exclusive

/-!
# Undoing an operation

A follow that is taken back leaves the graph as it was, and a block that is taken back leaves it
without the following edges of the pair, with all edges in their old order and all counters right.

The pair machine says which edges there are afterwards. Their order is a matter of the calls that
were made: an operation takes edges away and puts at most one at the end (`Graph.AddsOnly`), and so
does one operation after another as long as it is the same edge. Of two such graphs with the same
pairs there is only one (`Graph.AddsOnly.unique`), the users' counters included, so no run needs to
be computed to compare its end with another one's.
-/

set_option autoImplicit false

namespace FollowGraph

/-! ## What is left of a graph -/

namespace Graph

variable {f g g' : Graph} {e : Edge}

theorem pairs_has {g : Graph} {e : Edge} :
    g.pairs.Has e.kind (e.source, e.target) ↔ e ∈ g.edges := by
  obtain ⟨a, b, kind⟩ := e
  cases kind <;> exact mem_pairsOf

/-- A graph after some edges were taken away, and after one edge was put at the end, if any. Nobody
has another profile or other tags. -/
structure AddsOnly (e : Edge) (g g' : Graph) : Prop where
  profiles : g'.profiles = g.profiles
  interests : g'.interests = g.interests
  edges : ∃ kept fresh, g'.edges = kept ++ fresh ∧ kept.Sublist g.edges ∧ ∀ x ∈ fresh, x = e

namespace AddsOnly

theorem of_sublist (profiles : g'.profiles = g.profiles) (interests : g'.interests = g.interests)
    (edges : g'.edges.Sublist g.edges) : AddsOnly e g g' :=
  ⟨profiles, interests, g'.edges, [], (List.append_nil _).symm, edges,
    fun _ there => by cases there⟩

theorem refl (e : Edge) (g : Graph) : AddsOnly e g g := of_sublist rfl rfl (.refl _)

theorem trans (first : AddsOnly e f g) (second : AddsOnly e g g') : AddsOnly e f g' where
  profiles := second.profiles.trans first.profiles
  interests := second.interests.trans first.interests
  edges := by
    obtain ⟨kept, fresh, split, old, only⟩ := first.edges
    obtain ⟨left, added, split', sub, only'⟩ := second.edges
    -- What is left now was kept then, or added then.
    rw [split, List.sublist_append_iff] at sub
    obtain ⟨kept', fresh', rfl, sub, sub'⟩ := sub
    refine ⟨kept', fresh' ++ added, by rw [split', List.append_assoc], sub.trans old, ?_⟩
    intro x there
    rcases List.mem_append.1 there with before | after
    · exact only x (sub'.subset before)
    · exact only' x after

theorem change {call : GraphCall} (h : Change g call g')
    (within : (Call.graph call).Within [.edges, .events])
    (only : ∀ x : Edge, Call.graph call = x.creation → x = e) : AddsOnly e g g' := by
  have out {effect : Effect} (other : effect ∉ [Effect.edges, .events]) :
      (Call.graph call).effect ≠ some effect := fun writes => other (within effect writes)
  have profiles : g'.profiles = g.profiles := h.profiles_eq (out (by decide))
  cases h with
  | nothing => exact .refl e g
  | upsert given => rcases given with rfl | rfl <;> exact absurd rfl (out (by decide))
  | addEdge added =>
    obtain ⟨-, rfl⟩ := addEdge?_eq_some_iff.1 added
    refine ⟨profiles, interests_count .., g.edges, [_], edges_count .., .refl _, fun x there => ?_⟩
    exact only x (List.mem_singleton.1 there ▸ rfl)
  | removeEdge removed =>
    obtain ⟨-, rfl⟩ := removeEdge?_eq_some_iff.1 removed
    refine .of_sublist profiles (interests_count ..) ?_
    rw [edges_count]
    exact List.erase_sublist
  | setInterests _ _ => exact absurd rfl (out (by decide))

/-- Where no edge repeats, the old ones that are still there come first, in their old order. -/
theorem edges_eq (h : AddsOnly e g g') (new : e ∉ g.edges) (nodup : g.edges.Nodup)
    (nodup' : g'.edges.Nodup) :
    g'.edges = g.edges.filter (· ∈ g'.edges) ++ if e ∈ g'.edges then [e] else [] := by
  obtain ⟨kept, fresh, split, old, only⟩ := h.edges
  rw [split, List.nodup_append] at nodup'
  have kept_eq : kept = g.edges.filter (· ∈ g'.edges) := by
    refine (nodup.perm_iff_eq_of_sublist old List.filter_sublist).1 ?_
    refine (List.perm_ext_iff_of_nodup nodup'.1 (nodup.filter _)).2 fun x => ?_
    simp only [List.mem_filter, split, List.mem_append, decide_eq_true_eq]
    constructor
    · exact fun there => ⟨old.subset there, .inl there⟩
    · rintro ⟨was, there | added⟩
      · exact there
      · exact absurd (only x added ▸ was) new
  have fresh_eq : fresh = if e ∈ g'.edges then [e] else [] := by
    have mem : e ∈ g'.edges ↔ e ∈ fresh := by
      rw [split, List.mem_append]
      exact or_iff_right fun there => new (old.subset there)
    simp only [mem]
    have once := nodup'.2.1
    match fresh, once, only with
    | [], _, _ => rfl
    | [x], _, only => rw [only x List.mem_cons_self, if_pos List.mem_cons_self]
    | x :: y :: _, once, only =>
      have same : x = y := (only x (by simp)).trans (only y (by simp)).symm
      simp [same] at once
  rw [← kept_eq, ← fresh_eq]
  exact split

/-- A graph is settled by the one that it comes from, and by its pairs. -/
theorem unique {h h' : Graph} (first : AddsOnly e g h) (second : AddsOnly e g h')
    (new : e ∉ g.edges) (counted : g.Counted) (left : h.Counted) (left' : h'.Counted)
    (pairs : h'.pairs = h.pairs) : h' = h := by
  have members (x : Edge) : x ∈ h'.edges ↔ x ∈ h.edges := by
    rw [← pairs_has, pairs, pairs_has]
  have edges : h'.edges = h.edges := by
    rw [first.edges_eq new counted.edges_nodup left.edges_nodup,
      second.edges_eq new counted.edges_nodup left'.edges_nodup]
    simp only [members]
  have users : h'.users = h.users :=
    left.users_eq left' (second.profiles.trans first.profiles.symm) (edges ▸ .refl _)
  have interests : h'.interests = h.interests := second.interests.trans first.interests.symm
  cases h
  cases h'
  cases users
  cases edges
  cases interests
  rfl

end AddsOnly
end Graph

/-! ## When the machine lets an operation pass -/

namespace Pairs

variable {p : Pairs} {a b : UserId}

theorem of_follow_succeeded (succeeded : (p.follow a b).1.success = true) :
    a ≠ b ∧ ¬ p.Has .following (a, b) ∧ ¬ p.Limited a b ∧
      (p.follow a b).2 = p.insert .following (a, b) := by
  unfold follow at succeeded ⊢
  split_ifs at succeeded ⊢ with same both there limited
  · cases succeeded
  · cases succeeded
  · cases succeeded
  · exact ⟨same, there, limited, rfl⟩
  · cases succeeded

theorem of_block_succeeded (succeeded : (p.block a b).1.success = true) :
    a ≠ b ∧ p.Both a b ∧ ¬ p.Limited a b := by
  unfold block at succeeded
  split_ifs at succeeded with same both limited
  · cases succeeded
  · cases succeeded
  · exact ⟨same, both, limited⟩
  · cases succeeded

theorem block_of_free (differ : a ≠ b) (both : p.Both a b) (free : ¬ p.Limited a b) :
    p.block a b = (.ok "User blocked successfully" .null,
      ((p.erase .following (a, b)).erase .following (b, a)).insert .blocked (a, b)) := by
  unfold block
  rw [if_neg differ, if_neg (not_not.2 both), if_neg free]

theorem unfollow_of_free (differ : a ≠ b) (there : (a, b) ∈ p.following)
    (free : ¬ p.Limited a b) :
    p.unfollow a b = (.ok "User unfollowed successfully" .null, p.erase .following (a, b)) := by
  unfold unfollow
  rw [if_neg differ, if_neg (not_not.2 there), if_neg free]

theorem removeFollower_of_free (differ : a ≠ b) (there : (b, a) ∈ p.following)
    (free : ¬ p.Limited a b) :
    p.removeFollower a b =
      (.ok "Follower removed successfully" .null, p.erase .following (b, a)) := by
  unfold removeFollower
  rw [if_neg differ, if_neg free, if_neg (not_not.2 there)]

/-- A block is taken away by either user when it is the only one of the pair. -/
theorem unblock_of_limited {blocker blocked : UserId} (differ : a ≠ b)
    (pair : (a, b) = (blocker, blocked) ∨ (a, b) = (blocked, blocker))
    (there : (blocker, blocked) ∈ p.blocked) (alone : (blocked, blocker) ∉ p.blocked) :
    p.unblock a b =
      (.ok "User unblocked successfully" .null, p.erase .blocked (blocker, blocked)) := by
  unfold unblock
  rw [if_neg differ]
  rcases pair with same | same <;> cases same
  · rw [if_neg (not_not.2 (.inl there)), if_pos there]
  · rw [if_neg (not_not.2 (.inr there)), if_neg alone]

/-- What a block comes to is the same after one of its following pairs was taken away. -/
theorem block_erase {x : UserId × UserId} (succeeded : (p.block a b).1.success = true)
    (own : x = (a, b) ∨ x = (b, a)) : (p.erase .following x).block a b = p.block a b := by
  obtain ⟨differ, both, free⟩ := of_block_succeeded succeeded
  rw [block_of_free differ both free, block_of_free differ (p := p.erase .following x) both free]
  have gone : ((p.following.erase x).erase (a, b)).erase (b, a) =
      (p.following.erase (a, b)).erase (b, a) := by
    rcases own with rfl | rfl
    · rw [Finset.erase_idem]
    · rw [Finset.erase_right_comm, Finset.erase_idem, Finset.erase_right_comm]
  exact congrArg
    (fun following => (_, { p with following, blocked := Insert.insert (a, b) p.blocked })) gone

theorem erase_insert {kind : Relationship} {x : UserId × UserId} (new : ¬ p.Has kind x) :
    (p.insert kind x).erase kind x = p := by
  cases kind with
  | following => exact Pairs.ext rfl (Finset.erase_insert new) rfl
  | blocked => exact Pairs.ext rfl rfl (Finset.erase_insert new)

end Pairs

/-! ## Operations that succeed -/

/-- An operation puts no edge but this one into the graph. -/
def PairOperation.Adds (op : PairOperation) (e : Edge) : Prop :=
  ∀ x : Edge, op.operation.Writes x.creation → x = e

namespace World

variable {u v w : World} {op : PairOperation} {e : Edge} {a b : String}

/-- An operation is answered with a success, and leaves some stores. -/
def Succeeds (w : World) (op : PairOperation) (v : World) : Prop :=
  ∃ response, w.perform op.operation = (.ok response, v) ∧ response.success = true

/-- Operations succeed one after the other. -/
def SucceedInTurn (w : World) : List PairOperation → World → Prop
  | [], v => v = w
  | op :: rest, v => ∃ u, w.Succeeds op u ∧ u.SucceedInTurn rest v

/-- An operation succeeds where the machine's does. -/
theorem succeeds_of (counted : w.graph.Counted) (op : PairOperation)
    (succeeded : (w.graph.pairs.step op).1.success = true) :
    ∃ v, w.Succeeds op v ∧ v.graph.pairs = (w.graph.pairs.step op).2 ∧ v.graph.Counted := by
  obtain ⟨answered, pairs, left⟩ := w.perform_pairOperation counted op
  exact ⟨_, ⟨_, Prod.ext answered rfl, succeeded⟩, pairs, left⟩

theorem Succeeds.moved (h : w.Succeeds op v) (counted : w.graph.Counted) :
    (w.graph.pairs.step op).1.success = true ∧ v.graph.pairs = (w.graph.pairs.step op).2 ∧
      v.graph.Counted := by
  obtain ⟨response, performed, succeeded⟩ := h
  obtain ⟨answered, pairs, left⟩ := w.perform_pairOperation counted op
  rw [performed] at answered pairs left
  cases answered
  exact ⟨succeeded, pairs, left⟩

theorem keeps_addsOnly (adds : op.Adds e) :
    backend.Keeps op.operation.Makes fun w v : World => Graph.AddsOnly e w.graph v.graph where
  refl w := .refl e w.graph
  trans := .trans
  record _ w := .refl e w.graph
  answer c w makes := by
    rcases (answered_answer c w).graph_change with same | ⟨call, rfl, change⟩
    · show Graph.AddsOnly e w.graph (w.answer c).2.graph
      rw [same]
      exact .refl e w.graph
    · refine .change change (fun effect there => ?_) fun x creates => ?_
      · have within := Operation.within_of_makes _ makes effect there
        cases op <;> simp_all [PairOperation.operation, Operation.effects]
      · rcases makes with reads | writes
        · rw [creates] at reads
          cases reads
        · exact adds x (creates ▸ writes)

theorem Succeeds.addsOnly (h : w.Succeeds op v) (adds : op.Adds e) :
    Graph.AddsOnly e w.graph v.graph := by
  obtain ⟨response, performed, -⟩ := h
  have left : v = (w.perform op.operation).2 := (congrArg Prod.snd performed).symm
  subst left
  exact op.operation.uses_makes.run_keeps (keeps_addsOnly adds) w

theorem SucceedInTurn.addsOnly {ops : List PairOperation} (h : w.SucceedInTurn ops v)
    (adds : ∀ op ∈ ops, op.Adds e) : Graph.AddsOnly e w.graph v.graph := by
  induction ops generalizing w with
  | nil =>
    cases h
    exact .refl e _
  | cons op rest ih =>
    obtain ⟨u, done, others⟩ := h
    obtain ⟨first, later⟩ := List.forall_mem_cons.1 adds
    exact (done.addsOnly first).trans (ih others later)

/-! ## Following edges taken away before a block -/

/-- An operation by `a` that takes away a following edge to or from `b`, which is there. -/
def Detaches (w : World) (a b : String) (op : PairOperation) : Prop :=
  op = .unfollow a b ∧ Edge.following (.str a) (.str b) ∈ w.graph.edges ∨
    op = .removeFollower a b ∧ Edge.following (.str b) (.str a) ∈ w.graph.edges

/-- Such an operation succeeds before a block that would. The block then comes to the same, and
another one of them still has its edge. -/
theorem Detaches.succeeds (h : w.Detaches a b op) (counted : w.graph.Counted)
    (blocks : (w.graph.pairs.block (.str a) (.str b)).1.success = true) :
    ∃ v, w.Succeeds op v ∧ v.graph.Counted ∧
      v.graph.pairs.block (.str a) (.str b) = w.graph.pairs.block (.str a) (.str b) ∧
      ∀ other, other ≠ op → w.Detaches a b other → v.Detaches a b other := by
  obtain ⟨differ, -, free⟩ := Pairs.of_block_succeeded blocks
  have kept {v : World} {x y : String} {i j : UserId}
      (pairs : v.graph.pairs = w.graph.pairs.erase .following (i, j))
      (away : (Json.str x, Json.str y) ≠ (i, j))
      (there : Edge.following (.str x) (.str y) ∈ w.graph.edges) :
      Edge.following (.str x) (.str y) ∈ v.graph.edges := by
    rw [← Graph.pairs_has, pairs, Pairs.has_erase]
    exact ⟨fun same => away same.2, Graph.pairs_has.2 there⟩
  rcases h with ⟨rfl, there⟩ | ⟨rfl, there⟩
  · have step := Pairs.unfollow_of_free differ (Graph.mem_pairsOf.2 there) free
    obtain ⟨v, done, pairs, left⟩ := succeeds_of counted (.unfollow a b) (by
      rw [Pairs.step, step]
      rfl)
    rw [Pairs.step, step] at pairs
    refine ⟨v, done, left, pairs ▸ Pairs.block_erase blocks (.inl rfl), ?_⟩
    rintro other differs (⟨rfl, -⟩ | ⟨rfl, here⟩)
    · exact absurd rfl differs
    · exact .inr ⟨rfl, kept pairs (by simp [differ.symm]) here⟩
  · have step := Pairs.removeFollower_of_free differ (Graph.mem_pairsOf.2 there) free
    obtain ⟨v, done, pairs, left⟩ := succeeds_of counted (.removeFollower a b) (by
      rw [Pairs.step, step]
      rfl)
    rw [Pairs.step, step] at pairs
    refine ⟨v, done, left, pairs ▸ Pairs.block_erase blocks (.inr rfl), ?_⟩
    rintro other differs (⟨rfl, here⟩ | ⟨rfl, -⟩)
    · exact .inl ⟨rfl, kept pairs (by simp [differ]) here⟩
    · exact absurd rfl differs

/-- Any of them succeed one after the other, and the block after them. -/
theorem succeedInTurn_block {steps : List PairOperation} (counted : w.graph.Counted)
    (blocks : (w.graph.pairs.block (.str a) (.str b)).1.success = true) (once : steps.Nodup)
    (detach : ∀ op ∈ steps, w.Detaches a b op) :
    ∃ v, w.SucceedInTurn (steps ++ [.block a b]) v ∧
      v.graph.pairs = (w.graph.pairs.block (.str a) (.str b)).2 ∧ v.graph.Counted := by
  induction steps generalizing w with
  | nil =>
    obtain ⟨v, done, pairs, left⟩ := succeeds_of counted (.block a b) blocks
    exact ⟨v, ⟨v, done, rfl⟩, pairs, left⟩
  | cons op rest ih =>
    obtain ⟨new, once⟩ := List.nodup_cons.1 once
    obtain ⟨here, later⟩ := List.forall_mem_cons.1 detach
    obtain ⟨u, done, left, same, others⟩ := here.succeeds counted blocks
    obtain ⟨v, rest_done, pairs, last⟩ := ih left (same ▸ blocks) once fun other there =>
      others other (fun again => new (again ▸ there)) (later other there)
    exact ⟨v, ⟨u, done, rest_done⟩, same ▸ pairs, last⟩

/-! ## Operations taken back -/

theorem adds_following : (PairOperation.follow a b).Adds (.following (.str a) (.str b)) := by
  rintro ⟨_, _, _⟩ ⟨⟩
  rfl

theorem adds_blocked : (PairOperation.block a b).Adds (.blocked (.str a) (.str b)) := by
  rintro ⟨_, _, _⟩ ⟨⟩
  rfl

theorem adds_nothing (takes : ∀ a b, op ≠ .follow a b ∧ op ≠ .block a b) : op.Adds e := by
  rintro ⟨_, _, _⟩ writes
  cases op with
  | follow a b => exact absurd rfl (takes a b).1
  | block a b => exact absurd rfl (takes a b).2
  | unfollow _ _ | removeFollower _ _ | unblock _ _ => cases writes

theorem Succeeds.wellFormed (h : w.Succeeds op v) (wf : w.graph.WellFormed) :
    v.graph.WellFormed := by
  obtain ⟨response, performed, -⟩ := h
  have left : v = (w.perform op.operation).2 := (congrArg Prod.snd performed).symm
  exact left ▸ wellFormed_run _ wf

/-- A follow is taken back by its follower, or by the user who is followed. -/
theorem Succeeds.follow_undone (h : w.Succeeds (.follow a b) u) (counted : w.graph.Counted)
    {back : PairOperation} (undoes : back = .unfollow a b ∨ back = .removeFollower b a) :
    ∃ v, u.Succeeds back v ∧ v.graph = w.graph := by
  obtain ⟨succeeded, pairs, counted₁⟩ := h.moved counted
  obtain ⟨differ, unfollowed, free, inserted⟩ := Pairs.of_follow_succeeded succeeded
  have added : u.graph.pairs = w.graph.pairs.insert .following (.str a, .str b) :=
    pairs.trans inserted
  have there : (Json.str a, Json.str b) ∈ u.graph.pairs.following := by
    rw [added]
    exact Finset.mem_insert_self _ _
  have free₁ : ¬ u.graph.pairs.Limited (.str a) (.str b) := added ▸ free
  have step : ∃ message, u.graph.pairs.step back =
      (.ok message .null, u.graph.pairs.erase .following (.str a, .str b)) := by
    rcases undoes with rfl | rfl
    · exact ⟨_, Pairs.unfollow_of_free differ there free₁⟩
    · exact ⟨_, Pairs.removeFollower_of_free differ.symm there (free₁ ∘ Pairs.limited_comm.1)⟩
  obtain ⟨message, step⟩ := step
  obtain ⟨v, done, pairs₂, counted₂⟩ := succeeds_of counted₁ back (by
    rw [step]
    rfl)
  refine ⟨v, done, ?_⟩
  have same : v.graph.pairs = w.graph.pairs := by
    rw [pairs₂, step, added]
    exact Pairs.erase_insert unfollowed
  have takes : back.Adds (.following (.str a) (.str b)) :=
    adds_nothing fun _ _ => by rcases undoes with rfl | rfl <;> simp
  have new : Edge.following (.str a) (.str b) ∉ w.graph.edges :=
    fun there => unfollowed (Graph.pairs_has.2 there)
  exact (Graph.AddsOnly.refl _ _).unique ((h.addsOnly adds_following).trans (done.addsOnly takes))
    new counted counted counted₂ same

/-- A block is taken back by either user, and leaves what it left when it was set. -/
theorem Succeeds.block_undone (h : w.Succeeds (.block a b) u) (counted : w.graph.Counted)
    {back : PairOperation} (undoes : back = .unblock a b ∨ back = .unblock b a) :
    ∃ v, u.Succeeds back v ∧
      v.graph.edges = w.graph.edges.filter (!·.isFollowBetween (.str a) (.str b)) ∧
      v.graph.profiles = w.graph.profiles ∧ v.graph.interests = w.graph.interests := by
  obtain ⟨succeeded, pairs, counted₁⟩ := h.moved counted
  obtain ⟨differ, both, free⟩ := Pairs.of_block_succeeded succeeded
  obtain ⟨unset, unset'⟩ := not_or.1 free
  rw [Pairs.step, Pairs.block_of_free differ both free] at pairs
  let left := (w.graph.pairs.erase .following (.str a, .str b)).erase .following (.str b, .str a)
  have unblocked : ¬ left.Has .blocked (.str a, .str b) := unset
  have set : u.graph.pairs = left.insert .blocked (.str a, .str b) := pairs
  have there : (Json.str a, Json.str b) ∈ u.graph.pairs.blocked := by
    rw [set]
    exact Finset.mem_insert_self _ _
  have alone : (Json.str b, Json.str a) ∉ u.graph.pairs.blocked := by
    rw [set]
    refine fun again => (Finset.mem_insert.1 again).elim (fun same => ?_) unset'
    exact differ (Prod.mk.inj same).2
  have step : u.graph.pairs.step back = (.ok "User unblocked successfully" .null,
      u.graph.pairs.erase .blocked (.str a, .str b)) := by
    rcases undoes with rfl | rfl
    · exact Pairs.unblock_of_limited differ (.inl rfl) there alone
    · exact Pairs.unblock_of_limited differ.symm (.inr rfl) there alone
  obtain ⟨v, done, pairs₂, counted₂⟩ := succeeds_of counted₁ back (by
    rw [step]
    rfl)
  have same : v.graph.pairs = left := by
    rw [pairs₂, step, set]
    exact Pairs.erase_insert unblocked
  have takes : back.Adds (.blocked (.str a) (.str b)) :=
    adds_nothing fun _ _ => by rcases undoes with rfl | rfl <;> simp
  have adds := (h.addsOnly adds_blocked).trans (done.addsOnly takes)
  have new : Edge.blocked (.str a) (.str b) ∉ w.graph.edges :=
    fun there => unset (Graph.mem_pairsOf.2 there)
  have gone : Edge.blocked (.str a) (.str b) ∉ v.graph.edges := by
    rw [← Graph.pairs_has, same]
    exact unblocked
  refine ⟨v, done, ?_, adds.profiles, adds.interests⟩
  rw [adds.edges_eq new counted.edges_nodup counted₂.edges_nodup, if_neg gone, List.append_nil]
  refine List.filter_congr fun x was => ?_
  rw [Bool.eq_iff_iff, decide_eq_true_eq, ← Graph.pairs_has, same, Pairs.has_erase,
    Pairs.has_erase, Graph.pairs_has]
  obtain ⟨s, t, kind⟩ := x
  cases kind <;> simp [Edge.isFollowBetween, was, and_comm]

/-- **Operations can be undone.** On every well-formed graph: a follow that succeeds is taken back
by an unfollow of the follower or a removal by the other user, and the graph is what it was, with
the order of its edges and all counters. A block that succeeds is taken back by an unblock from
either side, and what is left are all edges but the following ones of the pair, in their order, with
counters that fit them, and nobody's profile or tags are different. To take any of those following
edges away before the block, in any order, comes to the same graph as the block alone. -/
theorem perform_undo (w : World) (wellFormed : w.graph.WellFormed) (a b : String) :
    (∀ u, w.Succeeds (.follow a b) u → ∀ back ∈ [.unfollow a b, .removeFollower b a],
      ∃ v, u.Succeeds back v ∧ v.graph = w.graph) ∧
    ∀ u, w.Succeeds (.block a b) u →
      (∀ back ∈ [.unblock a b, .unblock b a], ∃ v, u.Succeeds back v ∧
        v.graph.edges = w.graph.edges.filter (!·.isFollowBetween (.str a) (.str b)) ∧
        v.graph.profiles = w.graph.profiles ∧ v.graph.interests = w.graph.interests ∧
        v.graph.WellFormed) ∧
      ∀ steps : List PairOperation, steps.Nodup → (∀ op ∈ steps, w.Detaches a b op) →
        ∃ v, w.SucceedInTurn (steps ++ [.block a b]) v ∧ v.graph = u.graph := by
  have counted := wellFormed.counted
  constructor
  · intro u follows back there
    exact follows.follow_undone counted (by simpa using there)
  intro u blocks
  constructor
  · intro back there
    obtain ⟨v, done, edges, profiles, interests⟩ :=
      blocks.block_undone counted (by simpa using there)
    exact ⟨v, done, edges, profiles, interests, done.wellFormed (blocks.wellFormed wellFormed)⟩
  · intro steps once detach
    obtain ⟨succeeded, pairs, counted₁⟩ := blocks.moved counted
    obtain ⟨v, done, pairs₂, counted₂⟩ := succeedInTurn_block counted succeeded once detach
    have adds : ∀ op ∈ steps ++ [.block a b], op.Adds (.blocked (.str a) (.str b)) := by
      intro op there
      rcases List.mem_append.1 there with step | last
      · rcases detach op step with ⟨rfl, -⟩ | ⟨rfl, -⟩ <;> exact adds_nothing (by simp)
      · exact List.mem_singleton.1 last ▸ adds_blocked
    obtain ⟨-, -, free⟩ := Pairs.of_block_succeeded succeeded
    have new : Edge.blocked (.str a) (.str b) ∉ w.graph.edges :=
      fun there => free (.inl (Graph.mem_pairsOf.2 there))
    exact ⟨v, done, (blocks.addsOnly adds_blocked).unique (done.addsOnly adds) new counted
      counted₁ counted₂ (pairs₂.trans pairs.symm)⟩

/-- Two users who follow each other: one is followed by a third and takes that back, and blocks the
other, at once or after the following edges were taken away. -/
theorem perform_undo_acquainted :
    acquainted.graph.WellFormed ∧
    (∃ u v, acquainted.Succeeds (.follow "cid" "ann") u ∧
      u.Succeeds (.removeFollower "ann" "cid") v ∧ v.graph = acquainted.graph) ∧
    ∃ u, acquainted.Succeeds (.block "ann" "bob") u ∧
      (∃ v, u.Succeeds (.unblock "bob" "ann") v ∧ v.graph.edges = []) ∧
      ∃ v, acquainted.SucceedInTurn
        [.removeFollower "ann" "bob", .unfollow "ann" "bob", .block "ann" "bob"] v ∧
        v.graph = u.graph := by
  have wellFormed : acquainted.graph.WellFormed := Graph.wellFormed_empty.after _
  have counted := wellFormed.counted
  obtain ⟨u, followed, -, -⟩ := succeeds_of counted (.follow "cid" "ann") (by decide +kernel)
  obtain ⟨x, blocked, -, -⟩ := succeeds_of counted (.block "ann" "bob") (by decide +kernel)
  obtain ⟨follows, -⟩ := perform_undo acquainted wellFormed "cid" "ann"
  obtain ⟨-, blocks⟩ := perform_undo acquainted wellFormed "ann" "bob"
  obtain ⟨v, removed, same⟩ := follows u followed (.removeFollower "ann" "cid") (by simp)
  obtain ⟨backs, detaches⟩ := blocks x blocked
  obtain ⟨y, freed, left, -⟩ := backs (.unblock "bob" "ann") (by simp)
  have present : ∀ op ∈ [PairOperation.removeFollower "ann" "bob", .unfollow "ann" "bob"],
      acquainted.Detaches "ann" "bob" op := by
    intro op there
    simp only [List.mem_cons, List.not_mem_nil, or_false] at there
    rcases there with rfl | rfl
    · exact .inr ⟨rfl, by decide +kernel⟩
    · exact .inl ⟨rfl, by decide +kernel⟩
  refine ⟨wellFormed, ⟨u, v, followed, removed, same⟩, x, blocked, ⟨y, freed, ?_⟩, ?_⟩
  · rw [left]
    decide +kernel
  · exact detaches _ (by decide) present

end World

end FollowGraph
