import FollowGraph.Proofs.Pair.Conduct
import FollowGraph.Proofs.Pair.Exclusive
import FollowGraph.Proofs.Pair.Permitted
import FollowGraph.Proofs.Service.Flaky

/-!
# How a pair degrades when calls fail

A block first takes the following edges of its pair away, and passes over what fails in that. So a
run in which calls fail can leave a following edge beside a block. This module says what is left of
exclusivity then.

`Flaky.Contained` is what no failure breaks: well formed graphs, no self edges, no two blocks
between the same users. A following edge beside a block is always the work of a `block` in which a
call failed (`Flaky.tainted_of_beside`). It is stuck there: while the block stays nobody can take
the edge away or add another one (`Flaky.kept_step`), and the operations meant for that refuse. Once
the block is lifted they work again.
-/

set_option autoImplicit false

namespace FollowGraph

open History

namespace Flaky

variable (schedule : Schedule) {s t : Flaky} {g : Graph} {h : History}

/-! ## What an operation is told -/

/-- A history and the stores after it: what the graph lived through, and which calls failed. -/
structure Told (g : Graph) (h : History) (s : Flaky) : Prop where
  lived : g.Lived h s.world.graph
  flawed : Flawed h → ∃ m ∈ s.calls, m.failed = true
  unsteady : (∃ m ∈ s.calls, m.failed = true) → ¬ Steady h

theorem Told.answer (told : Told g h s) (c : Call) :
    Told g (h ++ [⟨c, ((backend schedule).answer c s).1⟩]) ((backend schedule).answer c s).2 := by
  cases hf : schedule s.total c with
  | some failure =>
    rw [answer_of_failing schedule hf]
    refine ⟨told.lived.snoc (.failed rfl rfl), fun _ => ⟨⟨c, true⟩, ?_, rfl⟩, fun _ steady => ?_⟩
    · exact List.mem_append_right _ (List.mem_singleton.2 rfl)
    · exact not_steady_error (steady_append.1 steady).2
  | none =>
    rw [answer_of_passing schedule hf]
    refine ⟨told.lived.snoc (World.answers c s.world), ?_, ?_⟩
    · intro flawed
      rcases flawed_append.1 flawed with old | new
      · obtain ⟨m, there, failed⟩ := told.flawed old
        exact ⟨m, List.mem_append_left _ there, failed⟩
      · exact absurd new (s.world.not_flawed_answer c)
    · rintro ⟨m, there, failed⟩ steady
      rcases List.mem_append.1 there with old | new
      · exact told.unsteady ⟨m, old, failed⟩ (steady_append.1 steady).1
      · cases List.mem_singleton.1 new
        cases failed

theorem told_run {α : Type} (x : Attempt α) (s : Flaky) :
    Told s.world.graph (x.trace (backend schedule) { s with calls := [] })
      (x.on (backend schedule) { s with calls := [] }).2 := by
  have begun : Told s.world.graph [] { s with calls := [] } := by
    refine ⟨.nil _, ?_, ?_⟩
    · rintro ⟨e, failure, there | there⟩ <;> cases there
    · rintro ⟨m, there, -⟩
      cases there
  have told := Program.run_related (b := backend schedule) (I := Told s.world.graph)
    (fun _ _ c told => told.answer schedule c)
    (fun _ _ _ told => ⟨told.lived, told.flawed, told.unsteady⟩) (ExceptT.run x) begun
  rw [List.nil_append] at told
  exact told

/-- What an operation on a pair hears along the way, and what it answers. -/
theorem perform_pair (s : Flaky) (op : PairOperation) :
    ∃ h r, op.Permitted h ∧ Told s.world.graph h (s.perform schedule op.operation).2 ∧
      (s.perform schedule op.operation).1 = .ok r ∧ (r.success = true ↔ op.Wrote h) := by
  obtain ⟨permitted, r, answered, wrote⟩ := op.guarded.run (backend schedule) { s with calls := [] }
  exact ⟨_, r, permitted, told_run schedule _ s, answered, wrote⟩

theorem edges_perform {op : Operation} (keeps : .edges ∉ op.effects) (s : Flaky) :
    (s.perform schedule op).2.world.graph.edges = s.world.graph.edges :=
  op.uses_effects.run_keeps (keeps_worlds schedule (World.keeps_edges keeps)) _

/-! ## What no failure breaks -/

/-- The graph is well formed, nobody follows or blocks themselves, and of two users at most one
blocks the other. -/
structure Contained (s : Flaky) : Prop where
  wellFormed : s.world.graph.WellFormed
  no_self : ∀ e ∈ s.world.graph.edges, e.source ≠ e.target
  one_block : ∀ a b, Edge.blocked a b ∈ s.world.graph.edges →
    Edge.blocked b a ∉ s.world.graph.edges

theorem contained_of_empty (w : World) :
    (ofWorld { w with graph := .empty }).Contained where
  wellFormed := Graph.wellFormed_empty
  no_self _ there := by cases there
  one_block _ _ there := by cases there

theorem Contained.step (contained : s.Contained) (next : Step) :
    (s.step schedule next).Contained := by
  cases next with
  | wait seconds => exact ⟨contained.wellFormed, contained.no_self, contained.one_block⟩
  | perform op =>
    have wellFormed := (Program.uses_any (ExceptT.run op.program)).run_keeps
      (keeps_worlds schedule World.keeps_wellFormed) { s with calls := [] } contained.wellFormed
    rcases op.pair_or_keeps with ⟨pairOp, rfl⟩ | keeps
    · obtain ⟨h, r, permitted, told, -, -⟩ := perform_pair schedule s pairOp
      exact ⟨wellFormed, permitted.no_self told.lived contained.no_self,
        permitted.one_block told.lived contained.wellFormed.edges_nodup contained.one_block⟩
    · have same := edges_perform schedule keeps s
      refine ⟨wellFormed, ?_, ?_⟩
      · intro e there
        exact contained.no_self e (same ▸ there)
      · intro a b there other
        exact contained.one_block a b (same ▸ there) (same ▸ other)

/-! ## Where a following edge beside a block comes from -/

/-- An edge that a step adds is the work of an operation on a pair. -/
theorem created_step {e : Edge} {next : Step} (before : e ∉ s.world.graph.edges)
    (after : e ∈ (s.step schedule next).world.graph.edges) :
    ∃ (op : PairOperation) (h : History), next = .perform op.operation ∧ op.Permitted h ∧
      Told s.world.graph h (s.step schedule next) ∧
      (⟨e.creation, .ok (.bool true)⟩ : Asked) ∈ h := by
  cases next with
  | wait seconds => exact absurd after before
  | perform op =>
    rcases op.pair_or_keeps with ⟨pairOp, rfl⟩ | keeps
    · obtain ⟨h, r, permitted, told, -, -⟩ := perform_pair schedule s pairOp
      exact ⟨pairOp, h, rfl, permitted, told, told.lived.created before after⟩
    · have same := edges_perform schedule keeps s
      exact absurd (same ▸ after) before

/-- A block was set by a `block` in which a call failed, and was there ever since. -/
def Tainted (s : Flaky) (steps : List Step) (q : Edge) : Prop :=
  ∃ before a b after, steps = before ++ .perform (.block a b) :: after ∧
    q = .blocked (.str a) (.str b) ∧ q ∉ (s.after schedule before).world.graph.edges ∧
    (∃ m ∈ ((s.after schedule before).perform schedule (.block a b)).2.calls, m.failed = true) ∧
    ∀ t ∈ (s.after schedule before).moments schedule (.perform (.block a b) :: after),
      q ∈ t.world.graph.edges

theorem Tainted.snoc {steps : List Step} {q : Edge} (tainted : Tainted schedule s steps q)
    {next : Step} (still : q ∈ ((s.after schedule steps).step schedule next).world.graph.edges) :
    Tainted schedule s (steps ++ [next]) q := by
  obtain ⟨before, a, b, after, rfl, set, absent, failed, stays⟩ := tainted
  refine ⟨before, a, b, after ++ [next], by simp, set, absent, failed, ?_⟩
  rw [← List.cons_append, moments_append, ← after_append]
  intro t there
  rcases List.mem_append.1 there with old | new
  · exact stays t old
  · rw [List.mem_singleton.1 new]
    exact still

/-- **A following edge beside a block was left there by a call that failed.** -/
theorem tainted_of_beside (contained : s.Contained) (begun : s.world.graph.edges = [])
    (steps : List Step) {f q : Edge} (follows : f.kind = .following) (blocks : q.kind = .blocked)
    (pair : q.Between f.source f.target)
    (hf : f ∈ (s.after schedule steps).world.graph.edges)
    (hq : q ∈ (s.after schedule steps).world.graph.edges) : Tainted schedule s steps q := by
  induction steps using List.reverseRecOn with
  | nil =>
    change f ∈ s.world.graph.edges at hf
    rw [begun] at hf
    cases hf
  | append_singleton steps next ih =>
    rw [after_append] at hf hq
    have reached := after_keeps schedule (fun _ next h => h.step schedule next) contained steps
    by_cases oldBlock : q ∈ (s.after schedule steps).world.graph.edges
    · by_cases oldFollow : f ∈ (s.after schedule steps).world.graph.edges
      · exact (ih oldFollow oldBlock).snoc schedule hq
      · -- Nobody can follow past a block.
        obtain ⟨op, h, rfl, permitted, told, made⟩ := created_step schedule oldFollow hf
        obtain ⟨adds, -, free⟩ := permitted.created made
        exact absurd free (permitted.not_free told.lived oldBlock blocks pair
          (PairOperation.not_unblock_of_adds adds))
    · obtain ⟨op, h, rfl, permitted, told, made⟩ := created_step schedule oldBlock hq
      have adds := (permitted.created made).1
      cases op with
      | unfollow | removeFollower | unblock => cases adds
      | follow a b =>
        cases adds
        cases blocks
      | block a b =>
        cases adds
        refine ⟨steps, a, b, [], rfl, rfl, oldBlock, ?_, ?_⟩
        · refine told.flawed ?_
          by_contra unflawed
          exact permitted.cleared_by_block told.lived reached.wellFormed.edges_nodup made unflawed
            follows (pair.trans f.between_ends) hf
        · intro t there
          rw [List.mem_singleton.1 there]
          exact hq

/-! ## Until the block is lifted -/

/-- The step is an unblock of a pair, and succeeds. -/
def Frees (s : Flaky) (a b : String) (next : Step) : Prop :=
  ∃ op r, (op = .unblock a b ∨ op = .unblock b a) ∧ next = .perform op ∧
    (s.perform schedule op).1 = .ok r ∧ r.success = true

/-- No unblock of a pair succeeds along some steps. -/
def Unfreed (s : Flaky) (a b : String) (steps : List Step) : Prop :=
  ∀ before next after, steps = before ++ next :: after →
    ¬ (s.after schedule before).Frees schedule a b next

/-- While a block stays between two users, a step changes none of the edges between them. -/
theorem kept_step {a b : String} {q e : Edge} (limited : q ∈ s.world.graph.edges)
    (blocks : q.kind = .blocked) (pair : q.Between (.str a) (.str b)) {next : Step}
    (unfreed : ¬ s.Frees schedule a b next) (between : e.Between (.str a) (.str b)) :
    e ∈ (s.step schedule next).world.graph.edges ↔ e ∈ s.world.graph.edges := by
  cases next with
  | wait seconds => exact Iff.rfl
  | perform op =>
    rcases op.pair_or_keeps with ⟨pairOp, rfl⟩ | keeps
    · obtain ⟨h, r, permitted, told, answered, wrote⟩ := perform_pair schedule s pairOp
      refine permitted.kept_while_blocked told.lived limited blocks pair ?_ between
      intro f kind between made
      obtain ⟨which, written⟩ := permitted.unblocks made kind between
      refine unfreed ⟨_, r, ?_, rfl, answered, wrote.2 written⟩
      rcases which with rfl | rfl
      · exact .inl rfl
      · exact .inr rfl
    · exact iff_of_eq (congrArg (e ∈ ·) (edges_perform schedule keeps s))

theorem kept_after {a b : String} {q e : Edge} (limited : q ∈ s.world.graph.edges)
    (blocks : q.kind = .blocked) (pair : q.Between (.str a) (.str b)) {steps : List Step}
    (unfreed : s.Unfreed schedule a b steps) (between : e.Between (.str a) (.str b)) :
    e ∈ (s.after schedule steps).world.graph.edges ↔ e ∈ s.world.graph.edges := by
  induction steps generalizing s with
  | nil => exact Iff.rfl
  | cons next rest ih =>
    have first := unfreed [] next rest rfl
    have still := (kept_step schedule limited blocks pair first pair).2 limited
    refine (ih still ?_).trans (kept_step schedule limited blocks pair first between)
    intro before later after split
    exact unfreed (next :: before) later after (congrArg (next :: ·) split)

/-! ## The operations that take a following edge away -/

/-- What an operation that takes an edge away answers when one of its calls fails. -/
theorem perform_takes {op : PairOperation} {e : Edge} (takes : op.takes? = some e) (s : Flaky) :
    ∃ r, (s.perform schedule op.operation).1 = .ok r ∧
      ((∃ m ∈ (s.perform schedule op.operation).2.calls, m.failed = true) →
        r.success = false ∧ r.statusCode = 500) := by
  have of_took {program : Program Response} {a b : UserId}
      (took : program.Guarded (fun _ _ => True) (Took a b e))
      (same : op.operation.program = Attempt.always program) :
      ∃ r, (s.perform schedule op.operation).1 = .ok r ∧
        ((∃ m ∈ (s.perform schedule op.operation).2.calls, m.failed = true) →
          r.success = false ∧ r.statusCode = 500) := by
    unfold perform
    rw [same]
    have guarded := Attempt.guarded_always (E := fun _ => False) took
    obtain ⟨-, r, answered, took⟩ := guarded.run (backend schedule) { s with calls := [] }
    refine ⟨r, answered, ?_⟩
    intro failed
    exact took.failed ((told_run schedule _ s).unsteady failed)
  cases op with
  | unfollow a b =>
    cases takes
    exact of_took (guarded_unfollow (fun _ _ _ => trivial) fun _ _ _ => trivial) rfl
  | removeFollower a b =>
    cases takes
    exact of_took (guarded_removeFollower (fun _ _ _ => trivial) fun _ _ _ => trivial) rfl
  | follow | block | unblock => cases takes

end Flaky

namespace Pairs

/-- Past a block no following edge can be taken away. -/
theorem refused_of_limited (p : Pairs) {op : PairOperation} {e : Edge} (takes : op.takes? = some e)
    (limited : p.Limited e.source e.target) :
    (p.step op).1.success = false ∧ (p.step op).1.statusCode = 403 := by
  cases op with
  | follow | block | unblock => cases takes
  | unfollow a b =>
    cases takes
    simp only [step, unfollow]
    by_cases same : Json.str a = .str b
    · rw [if_pos same]
      exact ⟨rfl, rfl⟩
    rw [if_neg same]
    by_cases absent : (Json.str a, Json.str b) ∉ p.following
    · rw [if_pos absent]
      exact ⟨rfl, rfl⟩
    · rw [if_neg absent, if_pos limited]
      exact ⟨rfl, rfl⟩
  | removeFollower a b =>
    cases takes
    simp only [step, removeFollower]
    by_cases same : Json.str a = .str b
    · rw [if_pos same]
      exact ⟨rfl, rfl⟩
    · rw [if_neg same, if_pos (limited_comm.1 limited)]
      exact ⟨rfl, rfl⟩

/-- Between two users who do not block one another it goes. -/
theorem taken_of_free (p : Pairs) {op : PairOperation} {e : Edge} (takes : op.takes? = some e)
    (differ : e.source ≠ e.target) (there : (e.source, e.target) ∈ p.following)
    (free : ¬ p.Limited e.source e.target) :
    (p.step op).1.success = true ∧ (e.source, e.target) ∉ (p.step op).2.following := by
  cases op with
  | follow | block | unblock => cases takes
  | unfollow a b =>
    cases takes
    simp only [step, unfollow]
    rw [if_neg differ, if_neg (not_not.2 there), if_neg free]
    exact ⟨rfl, Finset.notMem_erase _ _⟩
  | removeFollower a b =>
    cases takes
    simp only [step, removeFollower]
    rw [if_neg differ.symm, if_neg fun limited => free (limited_comm.1 limited),
      if_neg (not_not.2 there)]
    exact ⟨rfl, Finset.notMem_erase _ _⟩

end Pairs

namespace Flaky

variable (schedule : Schedule) {s : Flaky}

/-- An operation none of whose calls fails is a step of the pair machine. -/
theorem perform_unfailed {op : PairOperation} (counted : s.world.graph.Counted)
    (unfailed : ∀ m ∈ (s.perform schedule op.operation).2.calls, m.failed = false) :
    (s.perform schedule op.operation).1 = .ok (s.world.graph.pairs.step op).1 ∧
      (s.perform schedule op.operation).2.world.graph.pairs = (s.world.graph.pairs.step op).2 := by
  obtain ⟨program, hop, refines⟩ := op.refines
  obtain ⟨answered, moved, -⟩ := refines.perform hop counted
  obtain ⟨same, world⟩ := run_of_unfailed schedule _ unfailed
  refine ⟨same.trans answered, ?_⟩
  rw [← moved]
  exact congrArg (fun w : World => w.graph.pairs) world

/-- An operation that takes a following edge away is refused while there is a block. -/
def Refuses (s : Flaky) (op : PairOperation) : Prop :=
  ∃ r, (s.perform schedule op.operation).1 = .ok r ∧ r.success = false ∧
    ((∀ m ∈ (s.perform schedule op.operation).2.calls, m.failed = false) → r.statusCode = 403) ∧
    ((∃ m ∈ (s.perform schedule op.operation).2.calls, m.failed = true) → r.statusCode = 500)

theorem limited_of_blocked {g : Graph} {q e : Edge} (there : q ∈ g.edges)
    (blocks : q.kind = .blocked) (pair : q.Between e.source e.target) :
    g.pairs.Limited e.source e.target := by
  obtain ⟨source, target, _⟩ := q
  obtain rfl := blocks
  rcases pair with ⟨rfl, rfl⟩ | ⟨rfl, rfl⟩
  · exact .inl (Graph.mem_pairsOf.2 there)
  · exact .inr (Graph.mem_pairsOf.2 there)

theorem refuses_of_blocked (contained : s.Contained) {q e : Edge} (there : q ∈ s.world.graph.edges)
    (blocks : q.kind = .blocked) (pair : q.Between e.source e.target) {op : PairOperation}
    (takes : op.takes? = some e) : s.Refuses schedule op := by
  obtain ⟨r, answered, failing⟩ := perform_takes schedule takes s
  by_cases failed : ∃ m ∈ (s.perform schedule op.operation).2.calls, m.failed = true
  · obtain ⟨unsuccessful, code⟩ := failing failed
    refine ⟨r, answered, unsuccessful, fun unfailed => ?_, fun _ => code⟩
    obtain ⟨m, made, failed⟩ := failed
    rw [unfailed m made] at failed
    cases failed
  · have unfailed : ∀ m ∈ (s.perform schedule op.operation).2.calls, m.failed = false := by
      intro m made
      rw [Bool.eq_false_iff]
      exact fun now => failed ⟨m, made, now⟩
    obtain ⟨answered', -⟩ := perform_unfailed schedule contained.wellFormed.counted unfailed
    obtain ⟨unsuccessful, code⟩ := Pairs.refused_of_limited s.world.graph.pairs takes
      (limited_of_blocked there blocks pair)
    exact ⟨_, answered', unsuccessful, fun _ => code, fun now => absurd now failed⟩

/-! ## Once the block is lifted -/

/-- No block leads from one of two users to the other. -/
def Unblocked (s : Flaky) (a b : UserId) : Prop :=
  ∀ q : Edge, q.kind = .blocked → q.Between a b → q ∉ s.world.graph.edges

theorem Unblocked.not_limited {e : Edge} (unblocked : s.Unblocked e.source e.target) :
    ¬ s.world.graph.pairs.Limited e.source e.target := by
  rintro (own | other)
  · exact unblocked (.blocked e.source e.target) rfl (.inl ⟨rfl, rfl⟩) (Graph.mem_pairsOf.1 own)
  · exact unblocked (.blocked e.target e.source) rfl (.inr ⟨rfl, rfl⟩) (Graph.mem_pairsOf.1 other)

/-- Two users have at most one block between them. -/
theorem Contained.eq_of_blocks (contained : s.Contained) {p q : Edge}
    (hp : p ∈ s.world.graph.edges) (hq : q ∈ s.world.graph.edges) (blocks : p.kind = .blocked)
    (blocks' : q.kind = .blocked) (pair : q.Between p.source p.target) : q = p := by
  obtain ⟨a, b, _⟩ := p
  obtain ⟨x, y, _⟩ := q
  obtain rfl := blocks
  obtain rfl := blocks'
  rcases pair with ⟨same, same'⟩ | ⟨turned, turned'⟩
  · cases same
    cases same'
    rfl
  · cases turned
    cases turned'
    exact absurd hq (contained.one_block a b hp)

/-- An unblock that succeeds leaves no block between the two, and the following edge as it was. -/
theorem unblocked_of_success (contained : s.Contained) {a b : String} {op : PairOperation}
    (lifts : op = .unblock a b ∨ op = .unblock b a) {r : Response}
    (answered : (s.perform schedule op.operation).1 = .ok r) (succeeded : r.success = true) :
    (s.perform schedule op.operation).2.Unblocked (.str a) (.str b) ∧
    ∀ f : Edge, f.kind = .following →
      (f ∈ (s.perform schedule op.operation).2.world.graph.edges ↔ f ∈ s.world.graph.edges) := by
  obtain ⟨h, r', permitted, told, answered', wrote⟩ := perform_pair schedule s op
  cases answered.symm.trans answered'
  obtain ⟨d, blocks, pair, v, made, truthy⟩ :=
    PairOperation.exists_deletion_of_unblock lifts (wrote.1 succeeded)
  obtain ⟨x, y, rfl⟩ : ∃ x y, op = .unblock x y := by
    rcases lifts with rfl | rfl
    · exact ⟨a, b, rfl⟩
    · exact ⟨b, a, rfl⟩
  have uncreated (e : Edge) : (⟨e.creation, .ok (.bool true)⟩ : Asked) ∉ h :=
    permitted.unblock_creates_none e
  have was : d ∈ s.world.graph.edges := told.lived.found made (.taken truthy) (uncreated d)
  refine ⟨?_, fun f follows => permitted.following_kept_by_unblock told.lived follows⟩
  intro q blocks' pair' there
  have old : q ∈ s.world.graph.edges := by
    by_contra new
    exact uncreated q (told.lived.created new there)
  -- The one that was taken away is the only one there can have been.
  obtain rfl := contained.eq_of_blocks was old blocks blocks' (pair.trans pair')
  exact told.lived.missing contained.wellFormed.edges_nodup made (.deleted v) (uncreated q) there

/-- Where there is no block, an operation whose calls do not fail takes its edge away. -/
theorem taken_of_unblocked (contained : s.Contained) {op : PairOperation} {e : Edge}
    (takes : op.takes? = some e) (follows : e.kind = .following) (there : e ∈ s.world.graph.edges)
    (unblocked : s.Unblocked e.source e.target)
    (unfailed : ∀ m ∈ (s.perform schedule op.operation).2.calls, m.failed = false) :
    ∃ r, (s.perform schedule op.operation).1 = .ok r ∧ r.success = true ∧
      e ∉ (s.perform schedule op.operation).2.world.graph.edges := by
  obtain ⟨answered, moved⟩ := perform_unfailed schedule contained.wellFormed.counted unfailed
  have differ := contained.no_self e there
  obtain ⟨source, target, _⟩ := e
  obtain rfl := follows
  obtain ⟨success, gone⟩ := Pairs.taken_of_free s.world.graph.pairs takes differ
    (Graph.mem_pairsOf.2 there) unblocked.not_limited
  refine ⟨_, answered, success, ?_⟩
  intro still
  rw [← moved] at gone
  exact gone (Graph.mem_pairsOf.2 still)

/-- **How a pair degrades, and how it recovers.** Let stores begin with an empty graph, and let any
calls fail along any run. The graph stays well formed, nobody follows or blocks themselves, and no
two users block one another.

Where `a` follows `b` beside a block between the two, the block was set by a `block` in which a call
failed. From then on, as long as no unblock of the two succeeds, the edges between them are what
they are, and the operations that take a following edge away refuse, or fail when one of their own
calls does. An unblock that succeeds leaves the following edge and no block; from then on, as long
as there is no new block, either user can take the edge away with an operation none of whose calls
fails. -/
theorem degrades (w : World) (steps : List Step) :
    let s := ofWorld { w with graph := .empty }
    let reached := s.after schedule steps
    reached.Contained ∧
    ∀ (a b : String) (q : Edge), q.kind = .blocked → q.Between (.str a) (.str b) →
      q ∈ reached.world.graph.edges →
      Edge.following (.str a) (.str b) ∈ reached.world.graph.edges →
      s.Tainted schedule steps q ∧
      ∀ more, reached.Unfreed schedule a b more →
        let later := reached.after schedule more
        (∀ e : Edge, e.Between (.str a) (.str b) →
          (e ∈ later.world.graph.edges ↔ e ∈ reached.world.graph.edges)) ∧
        (∀ (op : PairOperation) (e : Edge), op.takes? = some e → e.Between (.str a) (.str b) →
          later.Refuses schedule op) ∧
        ∀ (unblock : PairOperation) (r : Response),
          (unblock = .unblock a b ∨ unblock = .unblock b a) →
          (later.perform schedule unblock.operation).1 = .ok r → r.success = true →
          let freed := (later.perform schedule unblock.operation).2
          Edge.following (.str a) (.str b) ∈ freed.world.graph.edges ∧
          freed.Unblocked (.str a) (.str b) ∧
          ∀ rest, let last := freed.after schedule rest
            Edge.following (.str a) (.str b) ∈ last.world.graph.edges →
            last.Unblocked (.str a) (.str b) →
            ∀ op : PairOperation, op.takes? = some (.following (.str a) (.str b)) →
              (∀ m ∈ (last.perform schedule op.operation).2.calls, m.failed = false) →
              ∃ r, (last.perform schedule op.operation).1 = .ok r ∧ r.success = true ∧
                Edge.following (.str a) (.str b) ∉
                  (last.perform schedule op.operation).2.world.graph.edges := by
  intro s reached
  have begun : s.Contained := contained_of_empty w
  have onward {t : Flaky} (contained : t.Contained) (more : List Step) :
      (t.after schedule more).Contained :=
    after_keeps schedule (fun _ next h => h.step schedule next) contained more
  have contained : reached.Contained := onward begun steps
  refine ⟨contained, ?_⟩
  intro a b q blocks pair limited beside
  refine ⟨tainted_of_beside schedule begun rfl steps rfl blocks pair beside limited, ?_⟩
  intro more unfreed later
  have kept {e : Edge} (between : e.Between (.str a) (.str b)) :
      e ∈ later.world.graph.edges ↔ e ∈ reached.world.graph.edges :=
    kept_after schedule limited blocks pair unfreed between
  have laterContained : later.Contained := onward contained more
  refine ⟨fun e between => kept between, ?_, ?_⟩
  · intro op e takes between
    exact refuses_of_blocked schedule laterContained ((kept pair).2 limited) blocks
      (between.trans pair) takes
  · intro unblock r lifts answered succeeded freed
    obtain ⟨unblocked, follows⟩ :=
      unblocked_of_success schedule laterContained lifts answered succeeded
    refine ⟨(follows _ rfl).2 ((kept (.inl ⟨rfl, rfl⟩)).2 beside), unblocked, ?_⟩
    intro rest last there free op takes unfailed
    have lastContained : last.Contained :=
      onward (laterContained.step schedule (.perform unblock.operation)) rest
    exact taken_of_unblocked schedule lastContained takes rfl there free unfailed

end Flaky

/-! ## A pair that degrades -/

/-- No edge can be deleted for the first twenty calls. -/
def Schedule.undeletable : Schedule := fun n c =>
  match c with
  | .graph (.deleteEdge ..) =>
    if n < 20 then some (.external "ConnectionError" "graph down") else none
  | _ => none

/-- As before, and then no call goes through any more. -/
def Schedule.outage : Schedule := fun n c =>
  if n < 21 then Schedule.undeletable n c else some (.external "ConnectionError" "graph down")

namespace Flaky

/-- Ann follows Bob, who then blocks her. -/
def falling : List Step :=
  [.perform (.createUser ⟨.str "ann", .unknown, .int 0, .int 0, Eq.refl true⟩),
   .perform (.createUser ⟨.str "bob", .unknown, .int 0, .int 0, Eq.refl true⟩),
   .perform (.follow "ann" "bob"), .perform (.block "bob" "ann")]

def fallen (schedule : Schedule) : Flaky :=
  (ofWorld { World.empty with graph := .empty }).after schedule falling

theorem edges_fallen : (fallen .undeletable).world.graph.edges =
    [.following (.str "ann") (.str "bob"), .blocked (.str "bob") (.str "ann")] := by rfl

/-- Ann cannot unfollow Bob until one of them has lifted his block. -/
theorem degrades_falling :
    (ofWorld { World.empty with graph := .empty }).Tainted .undeletable falling
      (.blocked (.str "bob") (.str "ann")) ∧
    (fallen .undeletable).Refuses .undeletable (.unfollow "ann" "bob") ∧
    Edge.following (.str "ann") (.str "bob") ∉
      ((((fallen .undeletable).perform .undeletable (.unblock "ann" "bob")).2).perform .undeletable
        (.unfollow "ann" "bob")).2.world.graph.edges := by
  obtain ⟨-, beside⟩ := degrades .undeletable World.empty falling
  obtain ⟨tainted, stuck⟩ := beside "ann" "bob" (.blocked (.str "bob") (.str "ann")) rfl
    (.inr ⟨rfl, rfl⟩) (edges_fallen ▸ List.mem_cons_of_mem _ List.mem_cons_self)
    (edges_fallen ▸ List.mem_cons_self)
  obtain ⟨-, refuses, lifted⟩ := stuck [] fun before next after split => by
    cases before <;> cases split
  obtain ⟨there, free, taken⟩ := lifted (.unblock "ann" "bob")
    (.ok "User unblocked successfully" .null) (.inl rfl) rfl rfl
  obtain ⟨-, -, -, gone⟩ := taken [] there free (.unfollow "ann" "bob") rfl (by decide +kernel)
  exact ⟨tainted, refuses (.unfollow "ann" "bob") _ rfl (.inl ⟨rfl, rfl⟩), gone⟩

/-- A refusal is not all that can come of it: with a failing call of its own the unfollow is
answered as an error. -/
theorem unfollow_outage :
    Edge.following (.str "ann") (.str "bob") ∈ (fallen .outage).world.graph.edges ∧
    Edge.blocked (.str "bob") (.str "ann") ∈ (fallen .outage).world.graph.edges ∧
    ¬ ∃ r, ((fallen .outage).perform .outage (.unfollow "ann" "bob")).1 = .ok r ∧
      r.statusCode = 403 := by
  have edges : (fallen .outage).world.graph.edges =
    [.following (.str "ann") (.str "bob"), .blocked (.str "bob") (.str "ann")] := by rfl
  have answered : ((fallen .outage).perform .outage (.unfollow "ann" "bob")).1 =
    .ok (.internalError "Failed to unfollow user") := by rfl
  rw [edges, answered]
  refine ⟨List.mem_cons_self, List.mem_cons_of_mem _ List.mem_cons_self, ?_⟩
  rintro ⟨_, ⟨⟩, code⟩
  cases code

end Flaky
end FollowGraph
