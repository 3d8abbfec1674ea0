import FollowGraph.Proofs.Graph.Texts
import FollowGraph.Proofs.Pair.Machine
import FollowGraph.Proofs.Service.Contracts
import FollowGraph.Proofs.Service.Run
import FollowGraph.Proofs.Store.Silent

/-!
# The services refine the pair machine

Each operation on a pair of users answers as the pair machine does and moves the pairs of the graph
as the machine moves its own. The proof goes call by call: on stores without a log every check is
an equation between its run and a fact about the graph, and an operation is a chain of checks.

`Refines` is stated for whole programs, so a block can use what is known of the two operations that
it runs on its way.
-/

set_option autoImplicit false

namespace FollowGraph

open World (silent)

/-! ## What each check comes to -/

section Checks

variable (w : World) (a b : UserId) (kind : Relationship)

theorem on_relationshipExists :
    (Ask.relationshipExists a b kind).holds.on silent w =
      (.ok (w.graph.hasEdge ⟨a, b, kind⟩), w) := by
  show (Except.ok (!!_), w) = _
  rw [Bool.not_not]

theorem on_isFollowing :
    (Queries.isFollowing a b).holds.on silent w =
      (.ok (w.graph.hasEdge ⟨a, b, .following⟩), w) :=
  on_relationshipExists w a b .following

theorem on_blockedDirection :
    (Queries.blockedDirection a b).on silent w =
      (.ok (if w.graph.hasEdge ⟨a, b, .blocked⟩ then some (a, b)
        else if w.graph.hasEdge ⟨b, a, .blocked⟩ then some (b, a) else none), w) := by
  unfold Queries.blockedDirection
  simp only [Attempt.on_bind, on_relationshipExists, Attempt.on_ite, Attempt.on_pure,
    Attempt.on_log, World.silent_record]
  cases w.graph.hasEdge ⟨a, b, .blocked⟩ <;> cases w.graph.hasEdge ⟨b, a, .blocked⟩ <;> rfl

theorem on_isBlocked :
    (Queries.isBlocked a b).on silent w =
      (.ok (w.graph.hasEdge ⟨a, b, .blocked⟩ || w.graph.hasEdge ⟨b, a, .blocked⟩), w) := by
  unfold Queries.isBlocked
  simp only [Attempt.on_bind, on_blockedDirection, Attempt.on_pure]
  cases w.graph.hasEdge ⟨a, b, .blocked⟩ <;> cases w.graph.hasEdge ⟨b, a, .blocked⟩ <;> rfl

theorem on_findNode {userId : UserId} (h : userId.requireHashable = .ok ()) :
    (Ask.findNode userId).on silent w = (.ok (.ofUser? (w.graph.findNode userId)), w) := by
  show (Except.bind userId.requireHashable fun _ => .ok _, w) = _
  rw [h]
  rfl

theorem isNull_findNode (g : Graph) (userId : UserId) :
    (Value.ofUser? (g.findNode userId)).isNull = !g.hasUser userId := by
  rw [← Graph.isSome_findNode]
  cases g.findNode userId <;> rfl

variable {a b}

theorem on_bothExist (ha : a.requireHashable = .ok ()) (hb : b.requireHashable = .ok ()) :
    (Follow.bothExist a b).on silent w = (.ok (w.graph.hasUser b && w.graph.hasUser a), w) := by
  unfold Follow.bothExist
  simp only [Attempt.on_bind, on_findNode w hb, Attempt.on_ite, isNull_findNode, on_findNode w ha,
    Attempt.on_pure]
  cases w.graph.hasUser b <;> cases w.graph.hasUser a <;> rfl

/-- A write that comes to something holds, and the graph is the new one. -/
theorem on_createEdge (ha : a.requireHashable = .ok ()) (hb : b.requireHashable = .ok ())
    {g' : Graph} (added : w.graph.addEdge? ⟨a, b, kind⟩ = some g') :
    (Ask.createEdge a b kind).holds.on silent w = (.ok true, { w with graph := g' }) := by
  have stored := (Graph.addEdge?_eq_some_iff.1 added).1
  have created : w.graph.createEdge ⟨a, b, kind⟩ = .ok (some g') := by
    simp [Graph.createEdge, Graph.lookUp, ha, hb, stored.1, stored.2.1, added, bind, pure,
      Except.bind, Except.pure]
  rw [Attempt.holds, Attempt.on_map]
  show ((w.graph.written _).1.map _, { w with graph := (w.graph.written _).2 }) = _
  rw [created]
  rfl

theorem on_deleteEdge {g' : Graph} (removed : w.graph.removeEdge? ⟨a, b, kind⟩ = some g') :
    (Ask.deleteEdge a b kind).holds.on silent w = (.ok true, { w with graph := g' }) := by
  rw [Attempt.holds, Attempt.on_map]
  show ((w.graph.written _).1.map _, { w with graph := (w.graph.written _).2 }) = _
  rw [removed]
  rfl

end Checks

/-! ## Single operations -/

/-- On every counted graph a program answers as a step of the machine does, moves the pairs as it
does, and leaves the graph counted. -/
def Refines (program : Program Response) (step : Pairs → Response × Pairs) : Prop :=
  ∀ w : World, w.graph.Counted →
    (program.run silent w).1 = (step w.graph.pairs).1 ∧
    (program.run silent w).2.graph.pairs = (step w.graph.pairs).2 ∧
    (program.run silent w).2.graph.Counted

/-- What is refused at once refines the machine's own refusal, and matters no further. -/
theorem Refines.guarded {refused : Prop} [Decidable refused] {refusal : Response}
    {program : Program Response} {step : Pairs → Response × Pairs}
    (h : ¬ refused → Refines program step) :
    Refines (if refused then pure refusal else program)
      (fun p => if refused then (refusal, p) else step p) := by
  intro w hc
  by_cases now : refused
  · simp only [if_pos now]
    exact ⟨rfl, rfl, hc⟩
  · simp only [if_neg now]
    exact h now w hc

namespace Graph

theorem removeEdge?_of_hasEdge {g : Graph} {e : Edge} (h : g.hasEdge e = true) :
    ∃ g', g.removeEdge? e = some g' :=
  ⟨_, removeEdge?_eq_some_iff.2 ⟨hasEdge_iff.1 h, rfl⟩⟩

theorem addEdge?_of_both {g : Graph} {e : Edge}
    (both : (g.hasUser e.target && g.hasUser e.source) = true) (absent : g.hasEdge e = false) :
    ∃ g', g.addEdge? e = some g' := by
  refine ⟨_, addEdge?_eq_some_iff.2 ⟨⟨?_, ?_, fun there => ?_⟩, rfl⟩⟩
  · exact (Bool.and_eq_true_iff.1 both).2
  · exact (Bool.and_eq_true_iff.1 both).1
  · rw [hasEdge_iff.2 there] at absent
    cases absent

end Graph

/-- Announcing a follower is nothing to the graph. -/
theorem graph_notifyNewFollow (a b : UserId) (w : World) :
    ((Follow.notifyNewFollow a b).run silent w).2.graph = w.graph := by
  have quiet := (World.run_silent (Follow.notifyNewFollow a b) w).2
  have kept := World.run_graph
    (Follow.obeys_notifyNewFollow a b fun _ _ =>
      Call.within_of_effect rfl (List.mem_singleton.2 rfl)).uses (by simp [Effect.InGraph]) w
  exact (congrArg World.graph quiet).symm.trans kept

theorem refines_follow {a b : UserId} (ha : a.requireHashable = .ok ())
    (hb : b.requireHashable = .ok ()) : Refines (Follow.follow a b) (·.follow a b) := by
  unfold Follow.follow Pairs.follow Follow.followEdge
  refine .guarded ?_
  intro same w hc
  simp only [Program.bind_eq, Program.run_bind, Attempt.run_catching,
    Attempt.on_bind, on_bothExist w ha hb, on_isFollowing, Attempt.on_ite, on_isBlocked,
    Attempt.on_pure, Graph.mem_pairs_following, Graph.pairs_limited, Graph.pairs_both]
  cases both : w.graph.hasUser b && w.graph.hasUser a with
  | false => exact ⟨rfl, rfl, hc⟩
  | true =>
    cases following : w.graph.hasEdge ⟨a, b, .following⟩ with
    | true => exact ⟨rfl, rfl, hc⟩
    | false =>
      cases limited : w.graph.hasEdge ⟨a, b, .blocked⟩ || w.graph.hasEdge ⟨b, a, .blocked⟩ with
      | true => exact ⟨rfl, rfl, hc⟩
      | false =>
        obtain ⟨g', added⟩ := Graph.addEdge?_of_both (e := ⟨a, b, .following⟩) both following
        simp only [on_createEdge w .following ha hb added, Attempt.on_log, Bool.not_true,
          Bool.false_eq_true, if_false, if_true, World.silent_record, Program.run_bind]
        have kept := graph_notifyNewFollow a b { w with graph := g' }
        refine ⟨rfl, ?_, ?_⟩
        · exact (congrArg Graph.pairs kept).trans (Graph.pairs_addEdge added)
        · exact kept ▸ hc.addEdge added

theorem refines_unfollow (a b : UserId) : Refines (Follow.unfollow a b) (·.unfollow a b) := by
  unfold Follow.unfollow Pairs.unfollow
  refine .guarded ?_
  intro same w hc
  simp only [Attempt.run_catching, Attempt.on_bind, on_isFollowing, Attempt.on_ite,
    on_isBlocked, Attempt.on_pure, Graph.mem_pairs_following, Graph.pairs_limited]
  cases following : w.graph.hasEdge ⟨a, b, .following⟩ with
  | false => exact ⟨rfl, rfl, hc⟩
  | true =>
    cases limited : w.graph.hasEdge ⟨a, b, .blocked⟩ || w.graph.hasEdge ⟨b, a, .blocked⟩ with
    | true => exact ⟨rfl, rfl, hc⟩
    | false =>
      obtain ⟨g', removed⟩ := Graph.removeEdge?_of_hasEdge following
      simp only [on_deleteEdge w .following removed, Attempt.on_log]
      exact ⟨rfl, hc.pairs_removeEdge removed, hc.removeEdge removed⟩

theorem refines_removeFollower (a b : UserId) :
    Refines (Follow.removeFollower a b) (·.removeFollower a b) := by
  unfold Follow.removeFollower Pairs.removeFollower
  refine .guarded ?_
  intro same w hc
  simp only [Attempt.run_catching, Attempt.on_bind, on_isFollowing, Attempt.on_ite,
    on_isBlocked, Attempt.on_pure, Graph.mem_pairs_following, Graph.pairs_limited]
  cases limited : w.graph.hasEdge ⟨a, b, .blocked⟩ || w.graph.hasEdge ⟨b, a, .blocked⟩ with
  | true => exact ⟨rfl, rfl, hc⟩
  | false =>
    cases following : w.graph.hasEdge ⟨b, a, .following⟩ with
    | false => exact ⟨rfl, rfl, hc⟩
    | true =>
      obtain ⟨g', removed⟩ := Graph.removeEdge?_of_hasEdge following
      simp only [on_deleteEdge w .following removed, Attempt.on_log]
      exact ⟨rfl, hc.pairs_removeEdge removed, hc.removeEdge removed⟩

theorem refines_unblock (a b : UserId) : Refines (Block.unblock a b) (·.unblock a b) := by
  unfold Block.unblock Pairs.unblock
  refine .guarded ?_
  intro same w hc
  simp only [Attempt.run_catching, Attempt.on_bind, on_blockedDirection,
    Graph.pairs_limited, Graph.mem_pairs_blocked]
  cases mine : w.graph.hasEdge ⟨a, b, .blocked⟩ with
  | true =>
    obtain ⟨g', removed⟩ := Graph.removeEdge?_of_hasEdge mine
    simp only [if_true, Attempt.on_bind, on_deleteEdge w .blocked removed, Attempt.on_log]
    exact ⟨rfl, hc.pairs_removeEdge removed, hc.removeEdge removed⟩
  | false =>
    cases theirs : w.graph.hasEdge ⟨b, a, .blocked⟩ with
    | false => exact ⟨rfl, rfl, hc⟩
    | true =>
      obtain ⟨g', removed⟩ := Graph.removeEdge?_of_hasEdge theirs
      simp only [Bool.false_eq_true, if_false, if_true, Attempt.on_bind,
        on_deleteEdge w .blocked removed, Attempt.on_log]
      exact ⟨rfl, hc.pairs_removeEdge removed, hc.removeEdge removed⟩

/-! ## Blocking -/

/-- A step before a block runs its operation when it applies; its answer only matters to the
log. -/
theorem run_detach (step : String) (a b x y : UserId) (operation : Program Response) (w : World) :
    ((Block.detach step a b (Queries.isFollowing x y).holds operation).run silent w).2 =
      if w.graph.hasEdge ⟨x, y, .following⟩ then (operation.run silent w).2 else w := by
  unfold Block.detach
  simp only [Program.bind_eq, Program.run_bind, Attempt.run_catching, Attempt.on_bind,
    on_isFollowing, Attempt.on_ite, Attempt.on_always, Attempt.on_pure]
  cases w.graph.hasEdge ⟨x, y, .following⟩ with
  | false => rfl
  | true =>
    simp only [if_true]
    cases (operation.run silent w).1.success <;> rfl

/-- Such a step takes its pair away, if its operation does whenever the pair is there. -/
theorem Refines.detach {operation : Program Response} {move : Pairs → Response × Pairs}
    (h : Refines operation move) {w : World} (hc : w.graph.Counted) {x y : UserId}
    (moves : (x, y) ∈ w.graph.pairs.following →
      (move w.graph.pairs).2 = w.graph.pairs.erase .following (x, y))
    (step : String) (a b : UserId) {w' : World}
    (hw : w' = ((Block.detach step a b (Queries.isFollowing x y).holds operation).run silent w).2) :
    w'.graph.pairs = w.graph.pairs.erase .following (x, y) ∧ w'.graph.Counted := by
  rw [run_detach] at hw
  subst hw
  cases there : w.graph.hasEdge ⟨x, y, .following⟩ with
  | false =>
    refine ⟨?_, hc⟩
    have absent : (x, y) ∉ w.graph.pairs.following := by simp [there]
    simp [Pairs.erase, Finset.erase_eq_of_notMem absent]
  | true =>
    obtain ⟨-, pairs, counted⟩ := h w hc
    exact ⟨pairs.trans (moves (Graph.mem_pairs_following.2 there)), counted⟩

theorem refines_block {a b : UserId} (ha : a.requireHashable = .ok ())
    (hb : b.requireHashable = .ok ()) : Refines (Block.block a b) (·.block a b) := by
  unfold Block.block Pairs.block
  refine .guarded ?_
  intro same w hc
  simp only [Attempt.run_catching, Attempt.on_bind, on_bothExist w ha hb,
    Attempt.on_ite, on_isBlocked, Attempt.on_pure, Attempt.on_always, Graph.pairs_limited,
    Graph.pairs_both]
  cases both : w.graph.hasUser b && w.graph.hasUser a with
  | false => exact ⟨rfl, rfl, hc⟩
  | true =>
    cases limited : w.graph.hasEdge ⟨a, b, .blocked⟩ || w.graph.hasEdge ⟨b, a, .blocked⟩ with
    | true => exact ⟨rfl, rfl, hc⟩
    | false =>
      have free : ¬ w.graph.pairs.Limited a b := by simp [Graph.pairs_limited, limited]
      -- Neither step sees a block, so neither refuses, and neither sets one.
      generalize h₁ : ((Block.detach "unfollow" a b _ _).run silent w).2 = w₁
      obtain ⟨pairs₁, hc₁⟩ := (refines_unfollow a b).detach hc (by
        intro there
        simp [Pairs.unfollow, same, there, free]) "unfollow" a b h₁.symm
      have free₁ : ¬ w₁.graph.pairs.Limited a b := by rw [pairs₁]; exact free
      generalize h₂ : ((Block.detach "remove follower" a b _ _).run silent w₁).2 = w₂
      obtain ⟨pairs₂, hc₂⟩ := (refines_removeFollower a b).detach hc₁ (by
        intro there
        simp [Pairs.removeFollower, same, there, free₁]) "remove follower" a b h₂.symm
      have free₂ : ¬ w₂.graph.pairs.Limited a b := by rw [pairs₂]; exact free₁
      have both₂ : w₂.graph.pairs.Both a b := by
        rw [pairs₂, pairs₁]
        exact Graph.pairs_both.2 both
      have absent : w₂.graph.hasEdge ⟨a, b, .blocked⟩ = false := by
        have := fun there => free₂ (.inl (Graph.mem_pairs_blocked.2 there))
        simpa using this
      obtain ⟨g', added⟩ := Graph.addEdge?_of_both (e := ⟨a, b, .blocked⟩)
        (Graph.pairs_both.1 both₂) absent
      simp only [on_createEdge w₂ .blocked ha hb added, Attempt.on_log]
      refine ⟨rfl, ?_, hc₂.addEdge added⟩
      rw [← pairs₁, ← pairs₂]
      exact Graph.pairs_addEdge added

/-! ## All five -/

theorem PairOperation.refines (op : PairOperation) :
    ∃ program, op.operation.program = Attempt.always program ∧ Refines program (·.step op) := by
  cases op with
  | follow a b => exact ⟨_, rfl, refines_follow rfl rfl⟩
  | unfollow a b => exact ⟨_, rfl, refines_unfollow _ _⟩
  | removeFollower a b => exact ⟨_, rfl, refines_removeFollower _ _⟩
  | block a b => exact ⟨_, rfl, refines_block rfl rfl⟩
  | unblock a b => exact ⟨_, rfl, refines_unblock _ _⟩

/-- What refines on stores without a log does so on those with one. -/
theorem Refines.perform {program : Program Response} {move : Pairs → Response × Pairs}
    (h : Refines program move) {op : Operation} (hop : op.program = Attempt.always program)
    {w : World} (hc : w.graph.Counted) :
    (w.perform op).1 = .ok (move w.graph.pairs).1 ∧
    (w.perform op).2.graph.pairs = (move w.graph.pairs).2 ∧ (w.perform op).2.graph.Counted := by
  obtain ⟨answer, pairs, counted⟩ := h w hc
  obtain ⟨same, unlogged⟩ := World.run_silent program w
  have graph := congrArg World.graph unlogged
  change (program.run World.backend w).2.graph = (program.run silent w).2.graph at graph
  unfold World.perform
  rw [hop, Attempt.on_always, same, graph]
  exact ⟨congrArg Except.ok answer, pairs, counted⟩

namespace World

/-- **The services refine the pair machine.** On stores whose graph is counted, however its edges
lie, each of the five operations answers what the machine answers and leaves a counted graph
with the pairs that the machine has then. A pair may be following and blocked at once, or blocked
both ways. -/
theorem perform_pairOperation (w : World) (counted : w.graph.Counted) (op : PairOperation) :
    (w.perform op.operation).1 = .ok (w.graph.pairs.step op).1 ∧
    (w.perform op.operation).2.graph.pairs = (w.graph.pairs.step op).2 ∧
    (w.perform op.operation).2.graph.Counted := by
  obtain ⟨program, hop, refines⟩ := op.refines
  exact refines.perform hop counted

/-- Two users of whom one follows and blocks the other. -/
def entangled : World :=
  { empty with
    graph := Graph.empty.after (["ann", "bob"].filterMap Graph.newUser? ++
      [.createEdge (.str "ann") (.str "bob") .following,
       .createEdge (.str "ann") (.str "bob") .blocked]) }

theorem counted_entangled : entangled.graph.Counted :=
  (Graph.wellFormed_empty.after _).counted

/-- Unfollowing is refused, since the pair is limited; the block can be taken away. -/
theorem perform_pairOperation_entangled :
    entangled.graph.Counted ∧
    (entangled.perform (.unfollow "ann" "bob")).1 = .ok (.forbidden "This user is limited to you") ∧
    (entangled.perform (.unblock "bob" "ann")).1 = .ok (.ok "User unblocked successfully" .null) := by
  have refused := (perform_pairOperation entangled counted_entangled (.unfollow "ann" "bob")).1
  have freed := (perform_pairOperation entangled counted_entangled (.unblock "bob" "ann")).1
  exact ⟨counted_entangled, refused, freed⟩

end World
end FollowGraph
