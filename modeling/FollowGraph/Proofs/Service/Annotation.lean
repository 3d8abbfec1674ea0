import FollowGraph.Proofs.Program.Outcome
import FollowGraph.Proofs.Graph.Listing
import FollowGraph.Proofs.Store.Silent
import FollowGraph.Service.Enrichment

/-!
# Annotations, read off the graph

With nothing made to fail, annotating users asks only the graph and changes nothing. What comes of
one user is a function of the graph, `Graph.annotated?`, and of a list the users for whom there is
something, in their order. On a well-formed graph there is something for everyone, since mutual
followers can always be counted (`Graph.WellFormed.annotated?_eq`).
-/

set_option autoImplicit false

namespace FollowGraph

namespace Graph

/-- The number of mutual followers of a pair, null when one of them is not stored. -/
def mutualCount (g : Graph) (a b : UserId) : Json :=
  match g.nodes (g.commonIds a b) with
  | .ok nodes => .int nodes.length
  | .error _ => .null

def flags (g : Graph) (viewer candidate : UserId) : Enrichment.Flags :=
  { isFollowing := .bool (g.hasEdge ⟨viewer, candidate, .following⟩)
    isFollower := .bool (g.hasEdge ⟨candidate, viewer, .following⟩)
    isBlocked := .bool (g.hasEdge ⟨viewer, candidate, .blocked⟩)
    isBlockedBy := .bool (g.hasEdge ⟨candidate, viewer, .blocked⟩) }

/-- A user as a viewer sees it where all mutual followers are stored. -/
def entryOf (g : Graph) (viewer : UserId) (node : UserNode) : EnrichedUser :=
  Enrichment.annotate node (g.flags viewer node.userId)
    (.int (g.commonIds viewer node.userId).length)

/-- A user as a viewer sees it; nothing when mutual followers cannot be counted. -/
def annotated? (g : Graph) (viewer : UserId) (node : UserNode) : Option EnrichedUser :=
  match g.mutualCount viewer node.userId with
  | .null => none
  | count => some (Enrichment.annotate node (g.flags viewer node.userId) count)

/-- A user as a viewer sees it who may want to follow it; nothing when the viewer does already. -/
def annotatedUnfollowed? (g : Graph) (viewer : UserId) (node : UserNode) : Option EnrichedUser :=
  (g.annotated? viewer node).filter fun e => e.isFollowing.isFalsy

variable {g : Graph} {viewer : UserId} {node : UserNode} {e : EnrichedUser}

theorem user_of_annotated? (h : g.annotated? viewer node = some e) : e.user = node := by
  unfold annotated? at h
  split at h
  · cases h
  · cases h
    rfl

theorem user_of_annotatedUnfollowed? (h : g.annotatedUnfollowed? viewer node = some e) :
    e.user = node :=
  user_of_annotated? (Option.filter_eq_some_iff.1 h).1

/-- The entry of a user says whether the viewer follows that user. -/
theorem filter_entryOf (g : Graph) (viewer : UserId) (node : UserNode) :
    (some (g.entryOf viewer node)).filter (fun e => e.isFollowing.isFalsy) =
      if g.hasEdge ⟨viewer, node.userId, .following⟩ then none else some (g.entryOf viewer node) := by
  rw [Option.filter_some]
  show (if (Json.bool (g.hasEdge _)).isFalsy = true then _ else _) = _
  cases g.hasEdge ⟨viewer, node.userId, .following⟩ <;> rfl

/-- On a well-formed graph every user can be annotated. -/
theorem WellFormed.annotated?_eq (h : g.WellFormed) (viewer : UserId) (node : UserNode) :
    g.annotated? viewer node = some (g.entryOf viewer node) := by
  have stored := h.stores_commonIds viewer node.userId
  have counted : g.mutualCount viewer node.userId =
      .int (g.commonIds viewer node.userId).length := by
    rw [mutualCount, stored.nodes]
    exact congrArg (fun n : Nat => Json.int n) stored.length_nodes
  rw [annotated?, counted, entryOf]

theorem WellFormed.filterMap_annotated? (h : g.WellFormed) (viewer : UserId)
    (nodes : List UserNode) :
    nodes.filterMap (g.annotated? viewer) = nodes.map (g.entryOf viewer) := by
  rw [funext (h.annotated?_eq viewer), List.filterMap_eq_map']

end Graph

namespace Enrichment

open Attempt

variable (w : World) (viewer : UserId)

/-! ## One user -/

theorem on_relationshipExists (a b : UserId) (kind : Relationship) :
    (Ask.relationshipExists a b kind).on World.silent w =
      (.ok (.bool (w.graph.hasEdge ⟨a, b, kind⟩)), w) := rfl

theorem run_flags? (candidate : UserId) :
    (flags? viewer candidate).run World.silent w = (some (w.graph.flags viewer candidate), w) := by
  simp only [flags?, flags, run_catching, on_map, on_bind, on_relationshipExists, on_pure]
  rfl

theorem run_find (a b : UserId) :
    (Mutual.find a b).run World.silent w =
      (match w.graph.nodes (w.graph.commonIds a b) with
        | .ok nodes => .users nodes
        | .error _ => .null, w) := by
  have asked : (Ask.commonConnection a b).on World.silent w =
      ((w.graph.nodes (w.graph.commonIds a b)).map .users, w) := rfl
  simp only [Mutual.find, run_catching, asked]
  cases w.graph.nodes (w.graph.commonIds a b) <;> rfl

theorem on_count (a b : UserId) :
    (Mutual.count a b).on World.silent w = (.ok (w.graph.mutualCount a b), w) := by
  simp only [Mutual.count, on_bind, on_always, run_find, Graph.mutualCount]
  cases w.graph.nodes (w.graph.commonIds a b) with
  | error failure => rfl
  | ok nodes =>
    simp only [Value.users, Value.isNull, on_bind, on_ofExcept, Value.length, on_pure,
      List.length_map, Bool.false_eq_true, if_false]

theorem on_enrich (node : UserNode) :
    (enrich Mutual.count node viewer).on World.silent w =
      (.ok (w.graph.annotated? viewer node), w) := by
  simp only [enrich, on_bind, on_always, run_flags?, on_count, Graph.annotated?]
  cases w.graph.mutualCount viewer node.userId <;> rfl

theorem on_enrichUnfollowed (node : UserNode) :
    (enrichUnfollowed Mutual.count node viewer).on World.silent w =
      (.ok (w.graph.annotatedUnfollowed? viewer node), w) := by
  simp only [enrichUnfollowed, on_bind, on_enrich, on_pure, Graph.annotatedUnfollowed?]

/-! ## Lists -/

/-- A list comes to what its users come to one by one. -/
theorem on_collect {one : UserNode → Attempt (Option EnrichedUser)}
    {result : UserNode → Option EnrichedUser}
    (single : ∀ node, (one node).on World.silent w = (.ok (result node), w))
    (nodes : List UserNode) :
    (collect one (nodes.map Value.user)).on World.silent w = (.ok (nodes.filterMap result), w) := by
  induction nodes with
  | nil => rfl
  | cons node rest ih =>
    have known : (Value.user node).node "user_id" = .ok node := rfl
    simp only [List.map_cons, collect, on_bind, on_ofExcept, known, on_always, run_catching, single,
      ih, on_pure]
    cases found : result node <;> simp [found]

theorem on_enrichMany (nodes : List UserNode) :
    (enrichMany Mutual.count (.users nodes) viewer).on World.silent w =
      (.ok (nodes.filterMap (w.graph.annotated? viewer)), w) :=
  on_collect w (on_enrich w viewer) nodes

theorem on_enrichManyUnfollowed (nodes : List UserNode) :
    (enrichManyUnfollowed Mutual.count (.users nodes) viewer).on World.silent w =
      (.ok (nodes.filterMap (w.graph.annotatedUnfollowed? viewer)), w) :=
  on_collect w (on_enrichUnfollowed w viewer) nodes

end Enrichment
end FollowGraph
