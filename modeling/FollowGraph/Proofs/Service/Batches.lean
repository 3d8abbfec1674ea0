import FollowGraph.Proofs.Graph.Created
import FollowGraph.Proofs.Graph.Distance
import FollowGraph.Proofs.Graph.Texts
import FollowGraph.Proofs.Service.Annotation
import FollowGraph.Proofs.Service.Flaky
import FollowGraph.Service.Search
import Mathlib.Data.Finset.Card

/-!
# Batches in which calls fail

Annotating a user asks four times for an edge, and then for the mutual followers; the first call
that fails ends it, in one of two ways, and the user is dropped. Where failures depend on what is
asked alone, what becomes of one user is then a matter of its own five calls, and a batch is what
its users come to one by one.

That is put together from the pieces of an attempt: one that only reads makes a list of calls up to
the first that fails (`tried`), and has a result if there is none (`Attempt.Needs`).
-/

set_option autoImplicit false

namespace FollowGraph

variable {α β : Type} {fails : Call → Option Failure} {g : Graph}

/-! ## Calls up to the first that fails -/

/-- What is made of some calls, one after the other, up to the first that fails. -/
def tried (fails : Call → Option Failure) : List Call → List Made
  | [] => []
  | c :: rest =>
    match fails c with
    | some _ => [⟨c, true⟩]
    | none => ⟨c, false⟩ :: tried fails rest

theorem tried_append (first second : List Call) :
    tried fails (first ++ second) = tried fails first ++
      if (first.findSome? fails).isSome then [] else tried fails second := by
  induction first with
  | nil => rfl
  | cons c rest ih => cases failing : fails c <;> simp [tried, failing, ih]

theorem all_tried (calls : List Call) :
    (tried fails calls).all (fun m => !m.failed) = (calls.findSome? fails).isNone := by
  induction calls with
  | nil => rfl
  | cons c rest ih => cases failing : fails c <;> simp [tried, failing, ih]

/-- Nothing changed but the log, and some calls were made. -/
structure Flaky.Reads (s t : Flaky) (made : List Made) : Prop where
  world : t.world.unlogged = s.world.unlogged
  calls : t.calls = s.calls ++ made

theorem Flaky.Reads.trans {s t u : Flaky} {first second : List Made} (h : s.Reads t first)
    (h' : t.Reads u second) : s.Reads u (first ++ second) where
  world := h'.world.trans h.world
  calls := by rw [h'.calls, h.calls, List.append_assoc]

theorem Flaky.Reads.graph {s t : Flaky} {made : List Made} (h : s.Reads t made) :
    t.world.graph = s.world.graph := (congrArg World.graph h.world :)

namespace Attempt

/-- On any stores with some graph the attempt comes to a result, only reads, and makes some
calls. -/
def Finds (fails : Call → Option Failure) (g : Graph) (x : Attempt α) (result : Except Failure α)
    (made : List Made) : Prop :=
  ∀ s : Flaky, s.world.graph = g →
    ∃ t, x.on (Flaky.backend fun _ => fails) s = (result, t) ∧ s.Reads t made

/-- The attempt has a result if none of its calls fails, and otherwise the first failure. -/
def Needs (fails : Call → Option Failure) (g : Graph) (x : Attempt α) (calls : List Call) (a : α) :
    Prop :=
  x.Finds fails g
    (match calls.findSome? fails with
      | some failure => .error failure
      | none => .ok a)
    (tried fails calls)

theorem finds_ofExcept (value : Except Failure α) : (ofExcept value).Finds fails g value [] :=
  fun s _ => ⟨s, rfl, rfl, (List.append_nil _).symm⟩

theorem finds_pure (a : α) : (pure a : Attempt α).Finds fails g (.ok a) [] := finds_ofExcept (.ok a)

theorem finds_log (level : LogLevel) (source : LogSource) (text : String) :
    (log level source text).Finds fails g (.ok ()) [] :=
  fun _ _ => ⟨_, rfl, rfl, (List.append_nil _).symm⟩

/-- To write an entry is all that a recovery does. -/
theorem finds_noting (level : LogLevel) (source : LogSource) (text : String) (a : α) :
    (always (do Program.log level source text; pure a)).Finds fails g (.ok a) [] :=
  fun _ _ => ⟨_, rfl, rfl, (List.append_nil _).symm⟩

theorem Finds.bind {x : Attempt α} {f : α → Attempt β} {a : α} {result : Except Failure β}
    {first second : List Made} (h : x.Finds fails g (.ok a) first)
    (h' : (f a).Finds fails g result second) :
    (x >>= f).Finds fails g result (first ++ second) := by
  intro s same
  obtain ⟨t, found, reads⟩ := h s same
  obtain ⟨u, found', reads'⟩ := h' t (reads.graph.trans same)
  refine ⟨u, ?_, reads.trans reads'⟩
  rw [on_bind, found]
  exact found'

theorem Finds.bind_error {x : Attempt α} {f : α → Attempt β} {failure : Failure}
    {made : List Made} (h : x.Finds fails g (.error failure) made) :
    (x >>= f).Finds fails g (.error failure) made := by
  intro s same
  obtain ⟨t, found, reads⟩ := h s same
  refine ⟨t, ?_, reads⟩
  rw [on_bind, found]

/-- An attempt that has a result has it also with something else to do. -/
theorem Finds.caught {x : Attempt α} {a : α} {made : List Made} (h : x.Finds fails g (.ok a) made)
    (recover : Failure → Program α) :
    (always (x.catching recover)).Finds fails g (.ok a) made := by
  intro s same
  obtain ⟨t, found, reads⟩ := h s same
  refine ⟨t, ?_, reads⟩
  rw [on_always, run_catching, found]

/-- One that fails has the result of what else there is to do. -/
theorem Finds.recovered {x : Attempt α} {recover : Failure → Program α} {failure : Failure}
    {a : α} {made : List Made} (h : x.Finds fails g (.error failure) made)
    (recovers : (always (recover failure)).Finds fails g (.ok a) []) :
    (always (x.catching recover)).Finds fails g (.ok a) made := by
  intro s same
  obtain ⟨t, found, reads⟩ := h s same
  obtain ⟨u, found', reads'⟩ := recovers t (reads.graph.trans same)
  refine ⟨u, ?_, List.append_nil made ▸ reads.trans reads'⟩
  rw [on_always] at found' ⊢
  rw [run_catching, found]
  exact found'

theorem needs_call {c : Call} {value : Value}
    (reads : ∀ w : World, w.graph = g → w.answer c = (.ok value, w)) :
    (call c).Needs fails g [c] value := by
  intro s same
  rw [on_call]
  cases failing : fails c with
  | some failure =>
    refine ⟨s.made c true s.world, ?_, rfl, ?_⟩
    · simp [Flaky.answer_of_failing (fun _ => fails) failing, failing]
    · simp [Flaky.made, tried, failing]
  | none =>
    refine ⟨s.made c false s.world, ?_, rfl, ?_⟩
    · simp [Flaky.answer_of_passing (fun _ => fails) failing, failing, reads s.world same]
    · simp [Flaky.made, tried, failing]

theorem needs_pure (a : α) : (pure a : Attempt α).Needs fails g [] a := finds_pure a

theorem Needs.bind {x : Attempt α} {f : α → Attempt β} {a : α} {b : β} {first second : List Call}
    (h : x.Needs fails g first a) (h' : (f a).Needs fails g second b) :
    (x >>= f).Needs fails g (first ++ second) b := by
  unfold Needs at h h' ⊢
  rw [tried_append, List.findSome?_append]
  cases failing : first.findSome? fails with
  | some failure =>
    rw [failing] at h
    simpa using h.bind_error
  | none =>
    rw [failing] at h
    simpa using Finds.bind h h'

theorem Needs.map {x : Attempt α} {a : α} {calls : List Call} (h : x.Needs fails g calls a)
    (f : α → β) : (f <$> x).Needs fails g calls (f a) := by
  rw [map_eq_pure_bind]
  exact List.append_nil calls ▸ h.bind (needs_pure (f a))

/-- What cannot fail any more has one result if no call failed, and another otherwise. -/
theorem Needs.answering {x : Attempt α} {recover : Failure → Program α} {a b : α}
    {calls : List Call} (h : x.Needs fails g calls a)
    (recovers : ∀ failure, (always (recover failure)).Finds fails g (.ok b) []) :
    (always (x.catching recover)).Finds fails g
      (.ok (if (calls.findSome? fails).isNone then a else b)) (tried fails calls) := by
  unfold Needs at h
  cases failing : calls.findSome? fails with
  | some failure =>
    rw [failing] at h
    exact h.recovered (recovers failure)
  | none =>
    rw [failing] at h
    exact h.caught recover

end Attempt

/-! ## One user -/

namespace Enrichment

open Attempt

/-- The calls that tell how a viewer and a candidate are related. -/
def edgeCalls (viewer candidate : UserId) : List Call :=
  [.graph (.relationshipExists viewer candidate .following),
    .graph (.relationshipExists candidate viewer .following),
    .graph (.relationshipExists viewer candidate .blocked),
    .graph (.relationshipExists candidate viewer .blocked)]

/-- The calls that annotating a candidate makes if none of them fails. -/
def callsFor (viewer candidate : UserId) : List Call :=
  edgeCalls viewer candidate ++ [.graph (.commonConnection viewer candidate)]

theorem needs_relationshipExists (a b : UserId) (kind : Relationship) :
    (Ask.relationshipExists a b kind).Needs fails g [.graph (.relationshipExists a b kind)]
      (.bool (g.hasEdge ⟨a, b, kind⟩)) :=
  needs_call fun _ same => same ▸ rfl

theorem needs_flags (viewer candidate : UserId) :
    (flags viewer candidate).Needs fails g (edgeCalls viewer candidate)
      (g.flags viewer candidate) :=
  (needs_relationshipExists viewer candidate .following).bind <|
    (needs_relationshipExists candidate viewer .following).bind <|
      (needs_relationshipExists viewer candidate .blocked).bind <|
        (needs_relationshipExists candidate viewer .blocked).bind (needs_pure _)

theorem finds_flags? (viewer candidate : UserId) :
    (always (flags? viewer candidate)).Finds fails g
      (.ok (if ((edgeCalls viewer candidate).findSome? fails).isNone then
        some (g.flags viewer candidate) else none))
      (tried fails (edgeCalls viewer candidate)) :=
  ((needs_flags viewer candidate).map some).answering fun _ => finds_noting _ _ _ _

section Stored

variable (stored : ∀ e ∈ g.edges, g.hasUser e.target = true)

include stored

theorem needs_commonConnection (a b : UserId) :
    (Ask.commonConnection a b).Needs fails g [.graph (.commonConnection a b)]
      (.users ((g.commonIds a b).filterMap g.findNode)) := by
  refine needs_call fun w same => ?_
  have listed : w.answer (.graph (.commonConnection a b)) =
      ((w.graph.nodes (w.graph.commonIds a b)).map .users, w) := rfl
  rw [listed, same, (Graph.stores_commonIds stored a b).nodes]
  rfl

theorem finds_find (a b : UserId) :
    (always (Mutual.find a b)).Finds fails g
      (.ok (if ([.graph (.commonConnection a b)].findSome? fails).isNone then
        .users ((g.commonIds a b).filterMap g.findNode) else .null))
      (tried fails [.graph (.commonConnection a b)]) :=
  (needs_commonConnection stored a b).answering fun _ => finds_noting _ _ _ _

/-- Counting never fails: what is counted is a list. -/
theorem finds_count (a b : UserId) :
    (Mutual.count a b).Finds fails g
      (.ok (if ([.graph (.commonConnection a b)].findSome? fails).isNone then
        .int (g.commonIds a b).length else .null))
      (tried fails [.graph (.commonConnection a b)]) := by
  unfold Mutual.count
  refine List.append_nil (tried fails _) ▸ (finds_find stored a b).bind ?_
  cases ([.graph (.commonConnection a b)].findSome? fails).isNone with
  | false => exact finds_pure _
  | true =>
    show (ofExcept (Value.users _).length >>= fun number => pure (Json.int number)).Finds fails g
      (.ok _) _
    rw [Value.length_users, (Graph.stores_commonIds stored a b).length_nodes]
    exact Finds.bind (finds_ofExcept (.ok _)) (finds_pure _)

/-- A user is annotated unless one of its calls fails, and those up to the first that does are
made. -/
theorem finds_enrich (viewer : UserId) (node : UserNode) :
    (enrich Mutual.count node viewer).Finds fails g
      (.ok (if ((callsFor viewer node.userId).findSome? fails).isNone then
        some (g.entryOf viewer node) else none))
      (tried fails (callsFor viewer node.userId)) := by
  have edges : Finds fails g _ _ _ := finds_flags? viewer node.userId
  have counted : Finds fails g _ _ _ := finds_count stored viewer node.userId
  unfold enrich callsFor
  rw [tried_append, List.findSome?_append]
  cases failing : (edgeCalls viewer node.userId).findSome? fails with
  | some failure =>
    -- Nobody asks for the mutual followers then.
    rw [failing] at edges
    exact edges.bind (finds_pure none)
  | none =>
    rw [failing] at edges
    refine edges.bind ?_
    refine List.append_nil (tried fails _) ▸ counted.bind ?_
    rw [Option.none_or]
    cases ([.graph (.commonConnection viewer node.userId)].findSome? fails).isNone with
    | false => exact (finds_log _ _ _).bind (finds_pure none)
    | true => exact finds_pure _

/-- The same calls are made for a user to follow, also when the viewer turns out to follow it. -/
theorem finds_enrichUnfollowed (viewer : UserId) (node : UserNode) :
    (enrichUnfollowed Mutual.count node viewer).Finds fails g
      (.ok (if ((callsFor viewer node.userId).findSome? fails).isNone &&
          !g.hasEdge ⟨viewer, node.userId, .following⟩ then
        some (g.entryOf viewer node) else none))
      (tried fails (callsFor viewer node.userId)) := by
  unfold enrichUnfollowed
  refine List.append_nil (tried fails _) ▸ (finds_enrich stored viewer node).bind ?_
  cases ((callsFor viewer node.userId).findSome? fails).isNone with
  | false => exact finds_pure none
  | true =>
    show (pure ((some (g.entryOf viewer node)).filter _) : Attempt _).Finds fails g (.ok _) _
    rw [Graph.filter_entryOf]
    cases g.hasEdge ⟨viewer, node.userId, .following⟩ <;> exact finds_pure _

omit stored in
/-- A list comes to what its users come to one by one. -/
theorem finds_collect {one : UserNode → Attempt (Option EnrichedUser)}
    {result : UserNode → Option EnrichedUser} {made : UserNode → List Made}
    (single : ∀ node, (one node).Finds fails g (.ok (result node)) (made node))
    (nodes : List UserNode) :
    (collect one (nodes.map Value.user)).Finds fails g (.ok (nodes.filterMap result))
      (nodes.flatMap made) := by
  induction nodes with
  | nil => exact finds_pure []
  | cons node rest ih =>
    have given : (ofExcept ((Value.user node).node "user_id")).Finds fails g (.ok node) [] :=
      finds_ofExcept _
    have listed : (result node).toList ++ rest.filterMap result =
        (node :: rest).filterMap result := by
      cases found : result node <;> simp [found]
    rw [← listed, List.flatMap_cons, ← List.append_nil (rest.flatMap made)]
    exact given.bind (((single node).caught _).bind (ih.bind (finds_pure _)))

/-- Whether none of the calls that are made for a user fails. -/
def spared (fails : Call → Option Failure) (viewer : UserId) (node : UserNode) : Bool :=
  (tried fails (callsFor viewer node.userId)).all fun m => !m.failed

/-- A batch is the map of one entry over those of its users who are spared. -/
theorem finds_enrichMany (viewer : UserId) (nodes : List UserNode) :
    (enrichMany Mutual.count (.users nodes) viewer).Finds fails g
      (.ok ((nodes.filter (spared fails viewer)).map (g.entryOf viewer)))
      (nodes.flatMap fun node => tried fails (callsFor viewer node.userId)) := by
  have all : Finds fails g _ _ _ := finds_collect (finds_enrich stored viewer) nodes
  simp only [← all_tried] at all
  rw [← List.filterMap_eq_map, List.filterMap_filter]
  exact Finds.bind (finds_ofExcept (.ok _)) all

theorem finds_enrichManyUnfollowed (viewer : UserId) (nodes : List UserNode) :
    (enrichManyUnfollowed Mutual.count (.users nodes) viewer).Finds fails g
      (.ok (((nodes.filter (spared fails viewer)).filter fun u =>
        !g.hasEdge ⟨viewer, u.userId, .following⟩).map (g.entryOf viewer)))
      (nodes.flatMap fun node => tried fails (callsFor viewer node.userId)) := by
  have all : Finds fails g _ _ _ :=
    finds_collect (finds_enrichUnfollowed stored viewer) nodes
  simp only [← all_tried] at all
  rw [List.filter_filter, ← List.filterMap_eq_map, List.filterMap_filter]
  simp only [Bool.and_comm (!_)]
  exact Finds.bind (finds_ofExcept (.ok _)) all

/-! ## The count and the listing -/

/-- Where no call fails, the mutual followers of a pair are found. -/
theorem finds_found (a b : UserId) :
    (always (Mutual.find a b)).Finds (fun _ => none) g
      (.ok (.users ((g.commonIds a b).filterMap g.findNode)))
      [⟨.graph (.commonConnection a b), false⟩] :=
  finds_find stored a b

omit stored in
theorem spared_of_healthy (viewer : UserId) (node : UserNode) :
    spared (fun _ => none) viewer node = true := rfl

/-- And they are all listed. -/
theorem finds_mutualFollowers (a b : UserId) :
    ∃ response, (always (Search.mutualFollowers a b)).Finds (fun _ => none) g (.ok response)
        (⟨.graph (.commonConnection a b), false⟩ ::
          ((g.commonIds a b).filterMap g.findNode).flatMap fun u =>
            tried (fun _ => none) (callsFor a u.userId)) ∧
      response.users.length = (g.commonIds a b).length := by
  have found := finds_found stored a b
  rw [← (Graph.stores_commonIds stored a b).length_nodes]
  generalize (g.commonIds a b).filterMap g.findNode = nodes at found ⊢
  cases nodes with
  | nil =>
    refine ⟨.notFound "No mutual followers found", Finds.caught (found.bind ?_) _, rfl⟩
    simp only [Value.isNull, Value.isFalsy, Value.users, List.map_nil, List.isEmpty_nil,
      Bool.false_eq_true, if_false, if_true]
    exact (finds_log _ _ _).bind (finds_pure _)
  | cons node rest =>
    have annotated : Finds (fun _ => none) g _ _ _ :=
      finds_enrichMany stored a (node :: rest)
    rw [List.filter_eq_self.2 fun _ _ => spared_of_healthy ..] at annotated
    rw [← List.append_nil (List.flatMap _ (node :: rest))]
    refine ⟨.ok "Mutual followers fetched successfully"
      (.enriched ((node :: rest).map (g.entryOf a))), Finds.caught (found.bind ?_) _, ?_⟩
    · simp only [Value.isNull, Value.isFalsy, Value.users, List.map_cons, List.isEmpty_cons,
        Bool.false_eq_true, if_false]
      exact annotated.bind (finds_pure _)
    · show (Value.enrichedItems (List.map _ _)).length = _
      rw [Value.enrichedItems_enriched, List.length_map, List.length_map]

end Stored

/-- The mutual followers of a pair as a set. -/
theorem exists_common (nodup : g.edges.Nodup) (a b : UserId) :
    ∃ common : Finset UserId,
      (∀ x, x ∈ common ↔
        g.hasEdge ⟨a, x, .following⟩ = true ∧ g.hasEdge ⟨x, b, .following⟩ = true) ∧
      common.card = (g.commonIds a b).length := by
  have once : (g.commonIds a b).Nodup :=
    (g.neighbors_nodup nodup .following .outgoing a).filter _
  refine ⟨⟨g.commonIds a b, once⟩, fun x => ?_, rfl⟩
  show x ∈ g.commonIds a b ↔ _
  rw [Graph.commonIds, List.mem_filter, Graph.mem_followed_iff, ← Graph.hasEdge_iff]

/-- **A batch of annotations leaves out those whose calls fail, and nobody else.** Let the edges of
a graph be without repetition and lead to stored users, and let each call fail always or never,
whichever they are. A batch then lists its users in order and as often as they are given, but for
those of whom a call failed; the calls of each are made up to the first that fails, and nothing
changes but the log. It comes to what its users come to alone. To find users to follow, the same
users are listed, without those whom the viewer follows. An entry holds the node as it was given,
whether there is an edge of either kind either way, and the number of users in between. Where no
call fails, that is the number of mutual followers who are found, and who are listed by a search for
them. -/
theorem enrichMany_exact (fails : Call → Option Failure) (s : Flaky)
    (nodup : s.world.graph.edges.Nodup)
    (stored : ∀ e ∈ s.world.graph.edges, s.world.graph.hasUser e.target = true)
    (viewer : UserId) (nodes : List UserNode) :
    let g := s.world.graph
    let flaky := Flaky.backend fun _ => fails
    let healthy := Flaky.backend fun _ _ => none
    let outcome := (enrichMany Mutual.count (.users nodes) viewer).on flaky s
    let kept := nodes.filter (spared fails viewer)
    outcome.1 = .ok (kept.map (g.entryOf viewer)) ∧
    s.Reads outcome.2 (nodes.flatMap fun node => tried fails (callsFor viewer node.userId)) ∧
    (∃ alone : UserNode → List EnrichedUser,
      (∀ node, ((enrichMany Mutual.count (.users [node]) viewer).on flaky s).1 =
        .ok (alone node)) ∧
      outcome.1 = .ok (nodes.flatMap alone)) ∧
    ((enrichManyUnfollowed Mutual.count (.users nodes) viewer).on flaky s).1 =
      .ok ((kept.filter fun u => !g.hasEdge ⟨viewer, u.userId, .following⟩).map
        (g.entryOf viewer)) ∧
    ∀ node, ∃ common : Finset UserId,
      (∀ x, x ∈ common ↔ g.hasEdge ⟨viewer, x, .following⟩ = true ∧
        g.hasEdge ⟨x, node.userId, .following⟩ = true) ∧
      g.entryOf viewer node =
        { user := node
          isFollowing := .bool (g.hasEdge ⟨viewer, node.userId, .following⟩)
          isFollower := .bool (g.hasEdge ⟨node.userId, viewer, .following⟩)
          isBlocked := .bool (g.hasEdge ⟨viewer, node.userId, .blocked⟩)
          isBlockedBy := .bool (g.hasEdge ⟨node.userId, viewer, .blocked⟩)
          mutualFollowersNumber := .int common.card } ∧
      (∃ found : List UserNode,
        ((Mutual.find viewer node.userId).run healthy s).1 = .users found ∧
        found.length = common.card) ∧
      ((Search.mutualFollowers viewer node.userId).run healthy s).1.users.length = common.card := by
  intro g flaky healthy outcome kept
  have batches (nodes : List UserNode) :
      (enrichMany Mutual.count (.users nodes) viewer).Finds fails g _ _ :=
    finds_enrichMany stored viewer nodes
  obtain ⟨t, batch, reads⟩ := batches nodes s rfl
  have listed : outcome.1 = .ok (kept.map (g.entryOf viewer)) := congrArg Prod.fst batch
  refine ⟨listed, ?_, ?_, ?_, fun node => ?_⟩
  · exact (congrArg Prod.snd batch : outcome.2 = t) ▸ reads
  · refine ⟨fun node => ([node].filter (spared fails viewer)).map (g.entryOf viewer),
      fun node => ?_, ?_⟩
    · obtain ⟨_, single, -⟩ := batches [node] s rfl
      exact congrArg Prod.fst single
    · have one_by_one : kept.map (g.entryOf viewer) =
          (((nodes.flatMap fun node => [node]).filter (spared fails viewer)).map
            (g.entryOf viewer)) := by rw [List.flatMap_singleton']
      rw [listed, one_by_one, List.filter_flatMap, List.map_flatMap]
  · have followable : Finds fails g _ _ _ := finds_enrichManyUnfollowed stored viewer nodes
    obtain ⟨_, unfollowed, -⟩ := followable s rfl
    exact congrArg Prod.fst unfollowed
  · obtain ⟨common, between, card⟩ := exists_common nodup viewer node.userId
    obtain ⟨_, found, -⟩ := finds_found stored viewer node.userId s rfl
    obtain ⟨response, told, length⟩ := finds_mutualFollowers stored viewer node.userId
    obtain ⟨_, answered, -⟩ := told s rfl
    rw [on_always] at found answered
    refine ⟨common, between, ?_, ⟨_, Except.ok.inj (congrArg Prod.fst found), ?_⟩, ?_⟩
    · rw [card]
      rfl
    · rw [card, (Graph.stores_commonIds stored _ _).length_nodes]
    · rw [Except.ok.inj (congrArg Prod.fst answered), length, card]

/-- A user follows two others, who both follow a third; that one follows the user. -/
def squared : Flaky :=
  .ofWorld { World.empty with
    graph := .ofFollows ["ann", "bob", "cid", "dee"]
      [("ann", "bob"), ("ann", "cid"), ("bob", "dee"), ("cid", "dee"), ("dee", "ann")] }

/-- Of one of the two it cannot be told whether they follow the user, and of the other one who is
in between. -/
def partly : Call → Option Failure
  | .graph (.relationshipExists (.str "bob") (.str "ann") .following)
  | .graph (.commonConnection (.str "ann") (.str "cid")) =>
    some (.external "ConnectionError" "graph down")
  | _ => none

theorem enrichMany_exact_squared :
    let nodes := [Json.str "dee", .str "bob", .str "cid", .str "dee"].filterMap
      squared.world.graph.findNode
    let outcome := (enrichMany Mutual.count (.users nodes) (.str "ann")).on
      (Flaky.backend fun _ => partly) squared
    outcome.1.map (List.map fun e => (e.user.userId, e.isFollower, e.mutualFollowersNumber)) =
        .ok [(.str "dee", .bool true, .int 2), (.str "dee", .bool true, .int 2)] ∧
      outcome.2.calls.length = 5 + 2 + 5 + 5 ∧
      ∃ found : List UserNode,
        ((Mutual.find (.str "ann") (.str "dee")).run (Flaky.backend fun _ _ => none) squared).1 =
          .users found ∧
        found.length = 2 := by
  intro nodes outcome
  have nodup : squared.world.graph.edges.Nodup := by decide +kernel
  have stored : ∀ e ∈ squared.world.graph.edges,
      squared.world.graph.hasUser e.target = true := by decide +kernel
  obtain ⟨listed, reads, -, -, each⟩ :=
    enrichMany_exact partly squared nodup stored (.str "ann") nodes
  refine ⟨(congrArg (Except.map _) listed).trans ?_, ?_, ?_⟩
  · decide +kernel
  · rw [reads.calls]
    decide +kernel
  · let dee : UserNode := ⟨.str "dee", .unknown, .int 0, .int 0, by decide⟩
    obtain ⟨common, -, entry, ⟨found, told, length⟩, -⟩ := each dee
    have two : (squared.world.graph.entryOf (.str "ann") dee).mutualFollowersNumber = .int 2 := by
      decide +kernel
    rw [entry] at two
    have card : (common.card : Int) = 2 := Json.int.inj two
    exact ⟨found, told, by omega⟩

end Enrichment
end FollowGraph
