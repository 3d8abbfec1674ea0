import FollowGraph.Proofs.Graph.Created
import FollowGraph.Proofs.Service.Deduplication
import FollowGraph.Proofs.Service.Paging
import Mathlib.Data.List.Basic

/-!
# Suggestions of users who share an interest

A page of interest suggestions is a slice of the users who share a tag with the viewer, in the order
of their insertion (`Graph.sharing`). What the page says of itself counts the whole slice; of its
users it lists those whom the viewer neither follows nor was shown
(`Graph.WellFormed.answer_interests`).

Slices do not overlap. So a viewer who follows nobody was shown only users of the pages before
(`World.Before`), of whom none is on the next: the pages in order list everyone once, however long
the viewer takes.
-/

set_option autoImplicit false

namespace FollowGraph

namespace Graph

/-- The other ones among some users who share a tag with a viewer. -/
def sharing (g : Graph) (viewer : UserId) (ids : List UserId) : List UserId :=
  ids.filter fun x => x ≠ viewer ∧ ∃ tag ∈ g.interestsOf x, tag ∈ g.interestsOf viewer

theorem sharingIds_eq (g : Graph) (viewer : UserId) :
    g.sharingIds viewer = g.sharing viewer (g.users.map StoredUser.userId) := by
  refine List.filter_congr fun x _ => ?_
  rw [Bool.eq_iff_iff]
  simp [List.any_eq_true]

/-- What a viewer who was shown some users may want to follow. -/
def wanted (g : Graph) (viewer : UserId) (held ids : List UserId) : List UserId :=
  ids.filter fun x => x ∉ held ∧ ¬ g.hasEdge ⟨viewer, x, .following⟩

variable {g : Graph} {viewer : String} {limit : Nat}

/-- Where ids are texts, what is asked of the id of a user can be asked of the id looked up. -/
theorem TextIds.filter_nodes (texts : g.TextIds) (p : UserId → Bool) (ids : List UserId) :
    (ids.filterMap g.findNode).filter (fun u => p u.userId) =
      (ids.filter p).filterMap g.findNode := by
  rw [List.filter_filterMap, List.filterMap_filter]
  refine List.filterMap_congr fun x _ => ?_
  cases found : g.findNode x with
  | none => simp
  | some node => rw [Option.filter_some, texts.userId_of_findNode found]

theorem WellFormed.filterMap_annotatedUnfollowed? (wf : g.WellFormed) (viewer : UserId)
    (nodes : List UserNode) :
    nodes.filterMap (g.annotatedUnfollowed? viewer) =
      (nodes.filter fun u => !g.hasEdge ⟨viewer, u.userId, .following⟩).map (g.entryOf viewer) := by
  rw [← List.filterMap_eq_map, List.filterMap_filter]
  refine List.filterMap_congr fun node _ => ?_
  rw [annotatedUnfollowed?, wf.annotated?_eq, filter_entryOf]
  cases g.hasEdge ⟨viewer, node.userId, .following⟩ <;> rfl

/-! ## One page -/

/-- The users that a page asks for, before any is left out. -/
def sharingPage (g : Graph) (viewer : String) (limit page : Nat) : List UserId :=
  ((g.sharingIds (.str viewer)).drop (page * limit)).take limit

/-- What a page says of the users that it asks for. -/
def sharingMeta (g : Graph) (viewer : String) (limit page : Nat) : PageMeta :=
  let total := (g.sharingPage viewer limit page).length
  { total := .int total, page := .int page, limit := .int limit
    isLastPage := .bool (decide (total < limit)) }

theorem stores_sharingPage (g : Graph) (viewer : String) (limit page : Nat) :
    g.Stores (g.sharingPage viewer limit page) :=
  (stores_sharingIds g (.str viewer)).subset fun _ there =>
    List.mem_of_mem_drop (List.mem_of_mem_take there)

theorem offer_interests (g : Graph) (viewer : String) (pos : 0 < limit) (page : Nat) :
    Engine.interests.offer g viewer page limit =
      .ok ((g.sharingPage viewer limit page).filterMap g.findNode) := by
  have proper : Response.ofPage? page limit = none := if_neg (by omega)
  have listed : Engine.interests.candidates g viewer page limit =
      .ok ((g.sharingPage viewer limit page).filterMap g.findNode) := by
    rw [Engine.candidates, (stores_sharingIds g (.str viewer)).nodePage, pageOf_natCast]
    rfl
  rw [Engine.offer, proper, listed]

/-- A page lists whom of its slice the viewer may want to follow, and says how long the slice is. -/
theorem WellFormed.answer_interests (wf : g.WellFormed) (texts : g.TextIds) (pos : 0 < limit)
    (page : Nat) {seen held : List UserId} (same : ∀ x, x ∈ seen ↔ x ∈ held) :
    Engine.interests.answer g viewer page limit seen =
      .paginated "Interest-based suggestions fetched successfully"
        (((g.wanted (.str viewer) held (g.sharingPage viewer limit page)).filterMap
          g.findNode).map (g.entryOf (.str viewer)))
        (g.sharingMeta viewer limit page) := by
  have stored := g.stores_sharingPage viewer limit page
  have left : (SeenWindow.unseen ((g.sharingPage viewer limit page).filterMap g.findNode)
      seen).filter (fun u => !g.hasEdge ⟨.str viewer, u.userId, .following⟩) =
      (g.wanted (.str viewer) held (g.sharingPage viewer limit page)).filterMap g.findNode := by
    rw [SeenWindow.unseen, texts.filter_nodes (fun x => !seen.contains x),
      texts.filter_nodes (fun x => !g.hasEdge ⟨.str viewer, x, .following⟩), List.filter_filter]
    refine congrArg (List.filterMap g.findNode) (List.filter_congr fun x _ => ?_)
    rw [Bool.eq_iff_iff]
    simp [same, and_comm]
  have annotated : Engine.interests.annotated? g viewer =
      g.annotatedUnfollowed? (.str viewer) := rfl
  rw [Engine.answer, g.offer_interests viewer pos]
  dsimp only
  rw [annotated, wf.filterMap_annotatedUnfollowed?, left]
  simp only [Engine.metaOf, stored.length_nodes, sharingMeta, Int.ofNat_lt]
  rfl

/-- To a viewer who follows nobody and was shown only users of earlier pages, nobody is left out:
no user is on two pages. -/
theorem WellFormed.wanted_sharingPage (wf : g.WellFormed) {held : List UserId} {page : Nat}
    (nobody : ∀ x, g.hasEdge ⟨.str viewer, x, .following⟩ = false)
    (earlier : ∀ x ∈ held, x ∈ (g.sharingIds (.str viewer)).take (page * limit)) :
    g.wanted (.str viewer) held (g.sharingPage viewer limit page) =
      g.sharingPage viewer limit page := by
  have once : (g.sharingIds (.str viewer)).Nodup := wf.ids_nodup.filter _
  rw [← List.take_append_drop (page * limit) (g.sharingIds (.str viewer)),
    List.nodup_append] at once
  refine List.filter_eq_self.2 fun x there => decide_eq_true ⟨fun shown => ?_, by simp [nobody]⟩
  exact once.2.2 x (earlier x shown) x (List.mem_of_mem_take there) rfl

end Graph

/-! ## Pages in order -/

namespace World

variable {w : World} {viewer : String} {limit : Nat}

def visitShared (w : World) (viewer : String) (limit : Nat) (visit : Visit) :
    Except Failure Response × World :=
  (w.take (.wait visit.pause)).perform (.getInterestSuggestions viewer visit.page limit)

/-- The responses to some visits of a viewer for interest suggestions, one after the other. -/
def browseShared (viewer : String) (limit : Nat) :
    World → List Visit → List (Except Failure Response)
  | _, [] => []
  | w, next :: rest =>
    (w.visitShared viewer limit next).1 ::
      browseShared viewer limit (w.visitShared viewer limit next).2 rest

/-- A viewer who has been shown users of the pages before some page at most. -/
structure Before (viewer : String) (limit page : Nat) (w : World) : Prop where
  ready : w.Ready
  nobody : ∀ x, w.graph.hasEdge ⟨.str viewer, x, .following⟩ = false
  earlier : ∀ x ∈ w.seen .interests viewer,
    x ∈ (w.graph.sharingIds (.str viewer)).take (page * limit)

theorem Before.wait {page : Nat} (h : Before viewer limit page w) (seconds : Nat) :
    Before viewer limit page (w.take (.wait seconds)) where
  ready := h.ready.take trivial
  nobody := h.nobody
  earlier x there := by
    have carries : Carries .interests viewer w (w.take (.wait seconds)) :=
      take_other h.ready trivial fun _ _ same => by cases same
    exact h.earlier x (carries.seen_subset there)

/-- The users that a page adds to those that were shown are on the page. -/
theorem mem_sharingPage_of_news (ready : w.Ready) (pos : 0 < limit) {page : Nat} {x : UserId}
    (there : x ∈ (w.news .interests viewer page limit).map UserNode.userId) :
    x ∈ w.graph.sharingPage viewer limit page := by
  rw [news, w.graph.offer_interests viewer pos] at there
  have ids := (w.graph.stores_sharingPage viewer limit page).userIds_nodes ready.textIds
  rw [← ids]
  exact (List.filter_sublist.map UserNode.userId).subset there

/-- A visit lists its page, and after it the viewer was shown users of the pages so far at most. -/
theorem Before.visit {next : Visit} (h : Before viewer limit next.page w) (pos : 0 < limit) :
    ∃ response v, w.visitShared viewer limit next = (.ok response, v) ∧
      response.userIds = w.graph.sharingPage viewer limit next.page ∧
      v.graph = w.graph ∧ Before viewer limit (next.page + 1) v := by
  let u := w.take (.wait next.pause)
  have hu : Before viewer limit next.page u := h.wait next.pause
  obtain ⟨answered, -⟩ :=
    u.perform_request .interests viewer hu.ready.memory next.page limit
  have ready := hu.ready.take (Engine.interests.fair_request viewer next.page limit)
  have carried := take_request hu.ready .interests viewer next.page limit
  obtain ⟨graph, -⟩ := take_request_fixed hu.ready .interests viewer next.page limit
  generalize changed : u.take (.perform (Engine.interests.request viewer next.page limit)) = v
    at ready carried graph
  refine ⟨_, v, Prod.ext answered changed, ?_, graph, ready, ?_, fun x there => ?_⟩
  · rw [hu.ready.wellFormed.answer_interests hu.ready.textIds pos next.page fun x => Iff.rfl,
      hu.ready.wellFormed.wanted_sharingPage hu.nobody hu.earlier, Response.userIds_paginated,
      List.map_map]
    exact (u.graph.stores_sharingPage viewer limit next.page).userIds_nodes hu.ready.textIds
  · rw [graph]
    exact hu.nobody
  · have shown : x ∈ u.seen .interests viewer ∨
        x ∈ (u.news .interests viewer next.page limit).map UserNode.userId := by
      rcases carried with ⟨-, carries⟩ | ⟨-, adds⟩
      · exact .inl (carries.seen_subset there)
      · exact adds.mem_seen.1 there
    -- The users up to this page are those of the pages before and of the page itself.
    rw [graph, Nat.succ_mul, List.take_add, List.mem_append]
    exact shown.imp (hu.earlier x) (mem_sharingPage_of_news hu.ready pos)

/-- Visits of consecutive pages list them. -/
theorem Before.browse {page : Nat} (h : Before viewer limit page w) (pos : 0 < limit)
    (visits : List Visit) (pages : visits.map Visit.page = List.range' page visits.length) :
    ∃ responses : List Response, w.browseShared viewer limit visits = responses.map .ok ∧
      responses.map Response.userIds =
        (visits.map Visit.page).map (w.graph.sharingPage viewer limit) := by
  induction visits generalizing w page with
  | nil => exact ⟨[], rfl, rfl⟩
  | cons next rest ih =>
    obtain ⟨rfl, later⟩ := List.cons.inj pages
    obtain ⟨response, v, done, userIds, graph, before⟩ := h.visit pos
    obtain ⟨responses, all_ok, others⟩ := ih before later
    refine ⟨response :: responses, ?_, ?_⟩
    · rw [browseShared, done, all_ok, List.map_cons]
    · rw [List.map_cons, userIds, others, graph, List.map_cons, List.map_cons]

/-- **Interest suggestions are the users of the page whom the viewer may want to follow.** In any
graph of users with texts for ids that calls have made out of an empty one, whatever is cached and
at whatever time: everyone who shares a tag with the viewer is listed once, in the order of
insertion. A page is a slice of them. It shows whom of the slice the viewer neither follows nor
holds as shown, in order and as the viewer sees them, and says the length of the slice, and that it
is the last if that is less than the limit. Visits of the pages in order, at any times, by a viewer
who follows nobody and holds nobody as shown list everyone as far as the pages go, and so all of
them in the end. -/
theorem interests_exact {calls : List GraphCall} (given : ∀ call ∈ calls, Graph.GivesTextIds call)
    {w : World} (reached : w.graph = Graph.empty.after calls)
    (memory : w.wiring.cacheOnServer = false) (viewer : String) {limit : Nat} (pos : 0 < limit) :
    let everyone := w.graph.sharing (.str viewer) (Graph.insertedIds calls)
    let held := w.cache.held w.clock (Engine.interests.key viewer)
    everyone.Nodup ∧
    (∀ page : Nat,
      let slice := (everyone.drop (page * limit)).take limit
      ∃ listed : List UserNode,
        (∀ u ∈ listed, w.graph.findNode u.userId = some u) ∧
        listed.map UserNode.userId = w.graph.wanted (.str viewer) held slice ∧
        (w.perform (.getInterestSuggestions viewer page limit)).1 =
          .ok (.paginated "Interest-based suggestions fetched successfully"
            (listed.map (w.graph.entryOf (.str viewer)))
            { total := .int slice.length, page := .int page, limit := .int limit
              isLastPage := .bool (decide (slice.length < limit)) })) ∧
    (held = [] → (∀ x, w.graph.hasEdge ⟨.str viewer, x, .following⟩ = false) →
      ∀ visits : List Visit, visits.map Visit.page = List.range visits.length →
        ∃ responses : List Response, w.browseShared viewer limit visits = responses.map .ok ∧
          responses.flatMap Response.userIds = everyone.take (visits.length * limit) ∧
          (everyone.length ≤ visits.length * limit →
            responses.flatMap Response.userIds = everyone)) := by
  intro everyone held
  have ready : w.Ready :=
    ⟨memory, reached ▸ Graph.wellFormed_empty.after calls,
      reached ▸ Graph.TextIds.after (fun u hu => by cases hu) given⟩
  have all : w.graph.sharingIds (.str viewer) = everyone := by
    rw [Graph.sharingIds_eq]
    exact congrArg (w.graph.sharing (.str viewer)) (reached ▸ Graph.ids_after calls)
  have recalled (x : UserId) : x ∈ w.seen .interests viewer ↔ x ∈ held :=
    SeenWindow.mem_idsOf_live_iff
  refine ⟨all ▸ ready.wellFormed.ids_nodup.filter _, fun page => ?_, fun nothing nobody visits
    pages => ?_⟩
  · intro slice
    have sliced : w.graph.sharingPage viewer limit page = slice := by
      rw [Graph.sharingPage, all]
    have stored : w.graph.Stores (w.graph.wanted (.str viewer) held slice) :=
      (w.graph.stores_sharingPage viewer limit page).subset fun x there =>
        sliced ▸ List.mem_of_mem_filter there
    refine ⟨(w.graph.wanted (.str viewer) held slice).filterMap w.graph.findNode, fun u hu => ?_,
      stored.userIds_nodes ready.textIds, ?_⟩
    · obtain ⟨x, -, found⟩ := List.mem_filterMap.1 hu
      rwa [ready.textIds.userId_of_findNode found]
    · have answered := (w.perform_request .interests viewer memory page limit).1
      rw [ready.wellFormed.answer_interests ready.textIds pos page recalled, sliced] at answered
      exact answered.trans (by rw [Graph.sharingMeta, sliced])
  · have before : Before viewer limit 0 w :=
      ⟨ready, nobody, fun x there => by
        rw [recalled, nothing] at there
        cases there⟩
    obtain ⟨responses, all_ok, userIds⟩ :=
      before.browse pos visits (pages.trans List.range_eq_range')
    have listed : responses.flatMap Response.userIds = everyone.take (visits.length * limit) := by
      rw [← flatMap_pages, List.flatMap_def, userIds, pages, List.flatMap_def, ← all]
      rfl
    exact ⟨responses, all_ok, listed, fun enough => by rw [listed, List.take_of_length_le enough]⟩

/-- Five users of whom all share a tag with the first, until the second has another instead. -/
def hikers : List GraphCall :=
  ["ann", "bob", "cid", "dee", "eve"].filterMap Graph.newUser? ++
    [.setUserInterests (.str "eve") (.arr [.str "hiking"]),
      .setUserInterests (.str "bob") (.arr [.str "hiking"]),
      .setUserInterests (.str "cid") (.arr [.str "chess", .str "hiking"]),
      .setUserInterests (.str "ann") (.arr [.str "hiking", .str "maps"]),
      .setUserInterests (.str "dee") (.arr [.str "maps"]),
      .setUserInterests (.str "bob") (.arr [.str "chess"])]

/-- One of the users follows the last one, and holds the third as shown. -/
def acquaintedHikers : World :=
  { empty with
    graph := Graph.empty.after (hikers ++ [.createEdge (.str "ann") (.str "eve") .following])
    cache := empty.cache.set (Engine.interests.key "ann") (.arr [.str "cid"]) 60 }

/-- Strangers are listed over two pages, a day apart. Who follows one and was shown another misses
them on their pages, which count them. -/
theorem interests_exact_hikers :
    (∃ responses : List Response,
      { empty with graph := Graph.empty.after hikers }.browseShared "ann" 2 [⟨10, 0⟩, ⟨86400, 1⟩] =
        responses.map .ok ∧
      responses.flatMap Response.userIds = [.str "cid", .str "dee", .str "eve"]) ∧
    ∃ first second : Response,
      (acquaintedHikers.perform (.getInterestSuggestions "ann" 0 2)).1 = .ok first ∧
      first.userIds = [.str "dee"] ∧
      first.pageMeta.map (fun m => (m.total, m.isLastPage)) = some (.int 2, .bool false) ∧
      (acquaintedHikers.perform (.getInterestSuggestions "ann" 1 2)).1 = .ok second ∧
      second.userIds = [] ∧
      second.pageMeta.map (fun m => (m.total, m.isLastPage)) = some (.int 1, .bool true) := by
  have tagged : ∀ call ∈ hikers, Graph.GivesTextIds call := by
    intro call made
    rcases List.mem_append.1 made with user | tags
    · exact Graph.givesTextIds_newUsers _ call user
    · simp only [List.mem_cons, List.not_mem_nil, or_false] at tags
      rcases tags with rfl | rfl | rfl | rfl | rfl | rfl <;> trivial
  have given : ∀ call ∈ hikers ++ [.createEdge (.str "ann") (.str "eve") .following],
      Graph.GivesTextIds call := by
    intro call made
    rcases List.mem_append.1 made with there | edge
    · exact tagged call there
    · rw [List.mem_singleton.1 edge]
      trivial
  have room : 0 < 2 := by decide
  obtain ⟨-, -, strangers⟩ := interests_exact tagged
    (w := { empty with graph := Graph.empty.after hikers }) rfl rfl "ann" room
  obtain ⟨-, shown, -⟩ := interests_exact given (w := acquaintedHikers) rfl rfl "ann" room
  have edges : (Graph.empty.after hikers).edges = [] := by decide +kernel
  have everyone : (Graph.empty.after hikers).sharing (.str "ann") (Graph.insertedIds hikers) =
      [.str "cid", .str "dee", .str "eve"] := by decide +kernel
  constructor
  · obtain ⟨responses, all_ok, -, listed⟩ := strangers rfl
      (fun x => by simp [Graph.hasEdge, edges]) [⟨10, 0⟩, ⟨86400, 1⟩] rfl
    exact ⟨responses, all_ok, (listed (by rw [everyone]; decide)).trans everyone⟩
  · have again : acquaintedHikers.graph.sharing (.str "ann") (Graph.insertedIds
        (hikers ++ [.createEdge (.str "ann") (.str "eve") .following])) =
        [.str "cid", .str "dee", .str "eve"] := by decide +kernel
    rw [again] at shown
    obtain ⟨first, -, dee, answered⟩ := shown 0
    obtain ⟨second, -, nobody, ended⟩ := shown 1
    refine ⟨_, _, answered, ?_, rfl, ended, ?_, rfl⟩
    · rw [Response.userIds_paginated, List.map_map]
      exact dee.trans (by decide +kernel)
    · rw [Response.userIds_paginated, List.map_map]
      exact nobody.trans (by decide +kernel)

end World
end FollowGraph
