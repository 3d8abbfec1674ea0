import FollowGraph.Proofs.Graph.Created
import FollowGraph.Proofs.Service.LastPage

/-!
# Lists of neighbours, page by page

The users whom a user follows, those who follow a user and those whom a user has blocked are listed
in one way: `NeighborList.answer` is what any of the three comes to, a function of the graph, the
page and the limit. On a well-formed graph nobody is left out on the way, neither for not being
stored nor for not being annotated, so a page is the slice of the neighbours that its number says
(`NeighborList.lists_answer`), and everything about all pages together is a matter of slices.
-/

set_option autoImplicit false

namespace FollowGraph

open Attempt Response

/-- A page of stored users shows them all, annotated, in order, and says how many they are. -/
theorem Graph.WellFormed.paginated_stored {g : Graph} (wf : g.WellFormed) (texts : g.TextIds)
    {ids : List UserId} (stored : g.Stores ids) (viewer : UserId) (message : String)
    (page limit : Int) :
    let nodes := ids.filterMap g.findNode
    let r := paginated message (nodes.filterMap (g.annotated? viewer))
      (Engine.metaOf nodes page limit)
    r.userIds = ids ∧ r.users.length = ids.length ∧
    r.pageMeta = some
      { total := .int ids.length, page := .int page, limit := .int limit
        isLastPage := .bool (decide ((ids.length : Int) < limit)) } ∧
    ∀ e ∈ r.users, ∃ x ∈ ids, ∃ node, g.findNode x = some node ∧ node.userId = x ∧
      e = .enriched (Enrichment.annotate node (g.flags viewer x)
        (.int (g.commonIds viewer x).length)) := by
  intro nodes r
  have counted : nodes.length = ids.length := stored.length_nodes
  have everyone : nodes.filterMap (g.annotated? viewer) = _ := wf.filterMap_annotated? viewer nodes
  refine ⟨?_, ?_, ?_, ?_⟩
  · rw [Response.userIds_paginated, everyone, List.map_map]
    exact stored.userIds_nodes texts
  · show ((nodes.filterMap (g.annotated? viewer)).map Entity.enriched).length = _
    rw [everyone, List.length_map, List.length_map, counted]
  · show some (Engine.metaOf nodes page limit) = _
    rw [Engine.metaOf, counted]
  · intro e there
    obtain ⟨user, listed, rfl⟩ := List.mem_map.1 (show e ∈ List.map Entity.enriched _ from there)
    rw [everyone] at listed
    obtain ⟨node, from_page, rfl⟩ := List.mem_map.1 listed
    obtain ⟨x, hx, found⟩ := List.mem_filterMap.1 from_page
    obtain rfl := texts.userId_of_findNode found
    exact ⟨_, hx, node, found, rfl, rfl⟩

/-- The lists of neighbours that can be asked for page by page. -/
inductive NeighborList where
  | following
  | followers
  | blocked
  deriving DecidableEq

namespace NeighborList

def kind : NeighborList → Relationship
  | .following | .followers => .following
  | .blocked => .blocked

def direction : NeighborList → Direction
  | .following | .blocked => .outgoing
  | .followers => .incoming

def program : NeighborList → UserId → Json → Json → Attempt Response
  | .following => Follow.getFollowing
  | .followers => Follow.getFollowers
  | .blocked => Block.getBlocked

def operation (list : NeighborList) (userId : String) (page limit : Int) : Operation :=
  match list with
  | .following => .getFollowing userId page limit
  | .followers => .getFollowers userId page limit
  | .blocked => .getBlocked userId page limit

@[simp] theorem program_operation (list : NeighborList) (userId : String) (page limit : Int) :
    (list.operation userId page limit).program =
      list.program (.str userId) (.int page) (.int limit) := by
  cases list <;> rfl

def successMessage : NeighborList → String
  | .following => "Following users fetched successfully"
  | .followers => "Followers fetched successfully"
  | .blocked => "Blocked users fetched successfully"

def failureMessage : NeighborList → String
  | .following => "Failed to get following users"
  | .followers => "Failed to get followers"
  | .blocked => "Failed to get blocked users"

/-- Whether a listed user says of itself that it has the edge for which it is listed. -/
def flag : NeighborList → EnrichedUser → Json
  | .following => EnrichedUser.isFollowing
  | .followers => EnrichedUser.isFollower
  | .blocked => EnrichedUser.isBlocked

/-- The number of neighbours that a user is read with. Blocked users are not counted. -/
def counter? : NeighborList → UserNode → Option Json
  | .following, node => some node.followingNumber
  | .followers, node => some node.followersNumber
  | .blocked, _ => none

/-- The edge is one for which a neighbour of the user is listed. -/
def ofUser (list : NeighborList) (userId : UserId) (e : Edge) : Bool :=
  e.near list.direction == userId && e.kind == list.kind

variable (list : NeighborList) (g : Graph) (userId : UserId)

/-- The neighbours, all of them, in the order in which they are listed. -/
def ids : List UserId := g.neighbors list.kind list.direction userId

/-- The response to a request for a page. -/
def answer (page limit : Int) : Response :=
  match ofPage? page limit with
  | some refusal => refusal
  | none =>
    match g.nodePage (list.ids g userId) (.int page) (.int limit) with
    | .error _ => internalError list.failureMessage
    | .ok nodes =>
      paginated list.successMessage (nodes.filterMap (g.annotated? userId))
        (Engine.metaOf nodes page limit)

/-- **A request is what its spec says**, and leaves the stores as they are. -/
theorem on_program (w : World) (page limit : Int) :
    (list.program userId (.int page) (.int limit)).on World.silent w =
      (.ok (list.answer w.graph userId page limit), w) := by
  have asked (kind : Relationship) (direction : Direction) :
      (Ask.pagedNeighbors userId kind direction (.int page) (.int limit)).on World.silent w =
        ((w.graph.nodePage (w.graph.neighbors kind direction userId) (.int page) (.int limit)).map
          .users, w) := rfl
  unfold answer ids
  cases list <;>
    simp only [program, Follow.getFollowing, Follow.getFollowers, Follow.listNeighbors,
      Block.getBlocked, kind, direction, on_bind, checkPagination_int, on_ofExcept]
  all_goals
    cases ofPage? page limit with
    | some refusal => rfl
    | none =>
      simp only [on_always, run_catching, on_bind, asked]
      cases w.graph.nodePage _ (.int page) (.int limit) with
      | error failure => rfl
      | ok nodes =>
        simp only [Except.map, Enrichment.on_enrichMany, on_ofExcept, pageMetaOf_users, on_pure]
        rfl

/-- With the log, a request has the same response and leaves the same stores behind. -/
theorem on_backend (w : World) (page limit : Int) :
    ∃ v, (list.program userId (.int page) (.int limit)).on World.backend w =
        (.ok (list.answer w.graph userId page limit), v) ∧ v.unlogged = w.unlogged :=
  World.on_backend_of_silent (list.on_program userId w page limit)

/-! ## One page -/

variable {list g userId}

theorem ids_eq :
    list.ids g userId = (g.edges.filter (list.ofUser userId)).map (Edge.far list.direction) :=
  g.neighbors_eq list.kind list.direction userId

/-- Whoever is listed is annotated with the edge for which it is. -/
theorem flag_of_mem {x : UserId} (listed : x ∈ list.ids g userId) (node : UserNode) (count : Json) :
    list.flag (Enrichment.annotate node (g.flags userId x) count) = .bool true := by
  obtain ⟨e, there, rfl⟩ := List.mem_map.1 (list.ids_eq ▸ listed)
  obtain ⟨stored, ends⟩ := List.mem_filter.1 there
  simp only [ofUser, Bool.and_eq_true, beq_iff_eq] at ends
  obtain ⟨rfl, same_kind⟩ := ends
  obtain ⟨source, target, kind⟩ := e
  obtain rfl : kind = list.kind := same_kind
  have found := Graph.hasEdge_iff.2 stored
  cases list <;> exact congrArg Json.bool found

/-- A page of a list: it holds the slice that its number says, every user as it is read and marked
as the neighbour that it is, and it says how many these are and whether the list ends with them. -/
structure Lists (list : NeighborList) (g : Graph) (userId : UserId) (limit page : Nat)
    (r : Response) : Prop where
  success : r.success = true ∧ r.statusCode = 200
  userIds : r.userIds = ((list.ids g userId).drop (page * limit)).take limit
  pageMeta : r.pageMeta = some
    { total := .int r.users.length, page := .int page, limit := .int limit
      isLastPage := .bool (!decide ((page + 1) * limit ≤ (list.ids g userId).length)) }
  users : ∀ e ∈ r.users, ∃ user, e = .enriched user ∧
    g.findNode user.user.userId = some user.user ∧ list.flag user = .bool true

theorem lists_answer (wf : g.WellFormed) (texts : g.TextIds) {limit : Nat} (pos : 0 < limit)
    (page : Nat) : list.Lists g userId limit page (list.answer g userId page limit) := by
  have stored : g.Stores (list.ids g userId) := wf.stores_neighbors _ _ _
  have proper : ofPage? page limit = none := if_neg (by omega)
  let shown := ((list.ids g userId).drop (page * limit)).take limit
  have shown_sub : ∀ x ∈ shown, x ∈ list.ids g userId :=
    fun x hx => List.mem_of_mem_drop (List.mem_of_mem_take hx)
  have paged : g.nodePage (list.ids g userId) (.int page) (.int limit) =
      .ok (shown.filterMap g.findNode) := by
    rw [stored.nodePage, pageOf_natCast]
  have answered : list.answer g userId page limit =
      paginated list.successMessage ((shown.filterMap g.findNode).filterMap (g.annotated? userId))
        (Engine.metaOf (shown.filterMap g.findNode) page limit) := by
    rw [answer, proper]
    simp only [paged]
  obtain ⟨userIds, counted, pageMeta, users⟩ := wf.paginated_stored texts
    (stored.subset shown_sub) userId list.successMessage page limit
  rw [answered]
  refine ⟨⟨rfl, rfl⟩, userIds, ?_, ?_⟩
  · have full_iff : (shown.length : Int) < limit ↔
        ¬ (page + 1) * limit ≤ (list.ids g userId).length := by
      rw [Int.ofNat_lt, List.length_take, List.length_drop, Nat.succ_mul]
      omega
    simp only [pageMeta, counted, full_iff, decide_not]
  · intro e there
    obtain ⟨x, listed, node, found, same, rfl⟩ := users e there
    exact ⟨_, rfl, same.symm ▸ found, flag_of_mem (shown_sub x listed) node _⟩

/-! ## All pages -/

/-- Users are counted as neighbours as often as they are listed as such. -/
theorem counter_eq (wf : g.WellFormed) {node : UserNode} (found : g.findNode userId = some node)
    {count : Json} (counts : list.counter? node = some count) :
    count = .int (list.ids g userId).length := by
  obtain ⟨u, hu, rfl, -, following, followers⟩ := Graph.of_findNode found
  cases list with
  | following =>
    cases counts
    rw [following, wf.following_count u hu]
    rfl
  | followers =>
    cases counts
    rw [followers, wf.followers_count u hu]
    rfl
  | blocked => cases counts

theorem run_get {w : World} (texts : w.graph.TextIds) {node : UserNode}
    (found : w.graph.findNode userId = some node) :
    ((Users.get userId).run World.backend w).1 = .ok "User fetched successfully" (.user node) := by
  obtain ⟨u, hu, rfl, -⟩ := Graph.of_findNode found
  have asked : (Ask.findNode u.userId).on World.silent w = (.ok (.user node), w) := by
    show (Except.bind _ _, w) = _
    rw [Json.requireHashable_of_isText (texts u hu), found]
    rfl
  rw [(World.run_silent _ w).1]
  simp only [Users.get, run_catching, on_bind, asked]
  rfl

/-- **Pages partition the list of neighbours**, of any user in any graph that calls have made out of
an empty one. The list has the neighbours once each, in the order in which the edges that still
stand were last created. A page holds the slice that its number says (`Lists`); it is the last just
when its number is not below that of the full pages; and pages in order, as far as there are users
left, are the whole list. A stored user is read with the length of the list for its counter. -/
theorem pages_after_calls {calls : List GraphCall} (given : ∀ call ∈ calls, Graph.GivesTextIds call)
    {w : World} (reached : w.graph = Graph.empty.after calls) (list : NeighborList)
    (userId : UserId) {limit : Nat} (pos : 0 < limit) :
    let ids := list.ids w.graph userId
    ids = ((lastOnes (Graph.empty.created calls)).filter fun e =>
        list.ofUser userId e && decide (e ∈ w.graph.edges)).map (Edge.far list.direction) ∧
    ids.Nodup ∧
    (∃ pages : Nat → Response,
      (∀ page : Nat, list.Lists w.graph userId limit page (pages page) ∧
        ∃ v, (list.program userId (.int page) (.int limit)).on World.backend w =
          (.ok (pages page), v) ∧ v.unlogged = w.unlogged) ∧
      (∀ page, (pages page).IsLastPage ↔ ids.length / limit ≤ page) ∧
      ∀ count, ids.length ≤ count * limit →
        (List.range count).flatMap (fun page => (pages page).userIds) = ids) ∧
    ∀ node, w.graph.findNode userId = some node →
      ((Users.get userId).run World.backend w).1 =
          .ok "User fetched successfully" (.user node) ∧
        ∀ count, list.counter? node = some count → count = .int ids.length := by
  intro ids
  have wf : w.graph.WellFormed := reached ▸ Graph.wellFormed_empty.after calls
  have texts : w.graph.TextIds := reached ▸ Graph.TextIds.after (fun u hu => by cases hu) given
  have listed (page : Nat) :
      list.Lists w.graph userId limit page (list.answer w.graph userId page limit) :=
    lists_answer wf texts pos page
  refine ⟨?order, wf.neighbors_nodup _ _ _, ⟨fun page => list.answer w.graph userId page limit,
    fun page => ⟨listed page, list.on_backend userId w page limit⟩, ?last, ?whole⟩, ?counted⟩
  case order =>
    have in_order := Graph.edges_after calls
    rw [← reached] at in_order
    rw [← List.filter_filter, ← in_order]
    exact ids_eq
  case last =>
    intro page
    have full_iff : ids.length / limit ≤ page ↔ ¬ (page + 1) * limit ≤ ids.length := by
      rw [← Nat.lt_succ_iff, Nat.div_lt_iff_lt_mul pos, Nat.not_le]
    rw [Response.IsLastPage, (listed page).pageMeta, full_iff]
    simp [ids]
  case whole =>
    intro count enough
    simp only [fun page => (listed page).userIds]
    rw [flatMap_pages, List.take_of_length_le enough]
  case counted =>
    exact fun node found =>
      ⟨run_get texts found, fun count counts => counter_eq wf found counts⟩

/-- Four users, of whom the first follows another, then two more, then no longer the first of these
and in the end that one again. -/
def changesOfMind : List GraphCall :=
  ["ann", "bob", "cid", "dee"].filterMap Graph.newUser? ++
    [.createEdge (.str "ann") (.str "bob") .following,
      .createEdge (.str "ann") (.str "cid") .following,
      .createEdge (.str "ann") (.str "cid") .following,
      .deleteEdge (.str "ann") (.str "bob") .following,
      .createEdge (.str "dee") (.str "ann") .following,
      .createEdge (.str "ann") (.str "dee") .following,
      .createEdge (.str "ann") (.str "bob") .following]

/-- The user who was followed first is listed last, since that edge is the newest now. -/
theorem pages_changesOfMind :
    ∃ pages : Nat → Response,
      (∀ page : Nat, (World.perform { World.empty with graph := Graph.empty.after changesOfMind }
        (.getFollowing "ann" page 2)).1 = .ok (pages page)) ∧
      (pages 0).userIds = [.str "cid", .str "dee"] ∧ (pages 1).userIds = [.str "bob"] ∧
      (pages 1).IsLastPage ∧ ¬ (pages 0).IsLastPage := by
  have given : ∀ call ∈ changesOfMind, Graph.GivesTextIds call := by
    intro call made
    rcases List.mem_append.1 made with user | edge
    · exact Graph.givesTextIds_newUsers _ call user
    · simp only [List.mem_cons, List.not_mem_nil, or_false] at edge
      rcases edge with rfl | rfl | rfl | rfl | rfl | rfl | rfl <;> trivial
  have room : 0 < 2 := by decide
  obtain ⟨order, -, ⟨pages, listed, last, -⟩, -⟩ := pages_after_calls given
    (w := { World.empty with graph := Graph.empty.after changesOfMind }) rfl .following
    (.str "ann") room
  have neighbors : NeighborList.following.ids (Graph.empty.after changesOfMind) (.str "ann") =
      [.str "cid", .str "dee", .str "bob"] := by
    rw [order]
    decide +kernel
  refine ⟨pages, fun page => ?_, ?_, ?_, ?_, ?_⟩
  · obtain ⟨-, v, performed, -⟩ := listed page
    exact congrArg Prod.fst performed
  · rw [(listed 0).1.userIds, neighbors]
    rfl
  · rw [(listed 1).1.userIds, neighbors]
    rfl
  · rw [last, neighbors]
    decide
  · rw [last, neighbors]
    decide

end NeighborList
end FollowGraph
