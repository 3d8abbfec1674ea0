import FollowGraph.Proofs.Number.Quotient
import FollowGraph.Proofs.Service.Window

/-!
# Paging through suggestions

A page of friend suggestions asks for a slice of the second-degree users, as long as there are any
left, and from then on always for the same slice of the third-degree users (`Graph.tierPage`).
Within one window a viewer is then shown what of the slice no earlier page has shown.

`World.browse_eq` says so for any pages in any order: it follows what a viewer has been shown
through the run, which is all that one page hands on to the next. That pages in order show every
second-degree user once, and then one slice of the third tier, is a matter of lists alone
(`Graph.browsed_inOrder`).
-/

set_option autoImplicit false

namespace FollowGraph

-- Powers of integers are the core library's, whatever other powers are in scope.
attribute [local instance (2000)] instPowNat

/-- Pages in order are the list that they are pages of, as far as they go. -/
theorem flatMap_pages {α : Type} (items : List α) (limit count : Nat) :
    (List.range count).flatMap (fun page => (items.drop (page * limit)).take limit) =
      items.take (count * limit) := by
  induction count with
  | zero => simp
  | succ count ih =>
    rw [List.range_succ, List.flatMap_append, ih, List.flatMap_singleton, Nat.succ_mul,
      List.take_add]

namespace Graph

variable (g : Graph) (viewer : String) (limit : Nat)

/-- The number of pages that second-degree users fill. The third tier begins at the page after. -/
def thirdTierStart : Nat := ((g.secondDegreeIds (.str viewer)).length + (limit - 1)) / limit

/-- The users that a page asks for when the third tier begins at some page. -/
def tierPageFrom (start page : Nat) : List UserId :=
  if page < start then ((g.secondDegreeIds (.str viewer)).drop (page * limit)).take limit
  else ((g.thirdDegreeIds (.str viewer)).drop (start * limit)).take limit

/-- The users that a page asks for, before any is left out. -/
def tierPage (page : Nat) : List UserId :=
  if page < g.thirdTierStart viewer limit then
    ((g.secondDegreeIds (.str viewer)).drop (page * limit)).take limit
  else ((g.thirdDegreeIds (.str viewer)).drop (g.thirdTierStart viewer limit * limit)).take limit

/-- What a page says of the users that it asks for. -/
def tierMeta (page : Nat) : PageMeta :=
  { total := .int (g.tierPage viewer limit page).length, page := .int page, limit := .int limit
    isLastPage := .bool (decide ((g.tierPage viewer limit page).length < limit)) }

variable {g viewer limit}

theorem tierPage_of_le {page : Nat} (h : g.thirdTierStart viewer limit ≤ page) :
    g.tierPage viewer limit page = g.tierPage viewer limit (g.thirdTierStart viewer limit) := by
  rw [tierPage, tierPage, if_neg (Nat.not_lt.2 h), if_neg (Nat.lt_irrefl _)]

theorem tierPage_of_lt {page : Nat} (h : page < g.thirdTierStart viewer limit) :
    g.tierPage viewer limit page =
      ((g.secondDegreeIds (.str viewer)).drop (page * limit)).take limit := by
  rw [tierPage, if_pos h]

theorem flatMap_tierPage_range {count : Nat} (h : count ≤ g.thirdTierStart viewer limit) :
    (List.range count).flatMap (g.tierPage viewer limit) =
      (g.secondDegreeIds (.str viewer)).take (count * limit) := by
  rw [← flatMap_pages, List.flatMap_def, List.flatMap_def]
  congr 1
  exact List.map_congr_left fun page hp =>
    tierPage_of_lt (Nat.lt_of_lt_of_le (List.mem_range.1 hp) h)

/-- The pages before the third tier hold all second-degree users, in order. -/
theorem flatMap_tierPage (pos : 0 < limit) :
    (List.range (g.thirdTierStart viewer limit)).flatMap (g.tierPage viewer limit) =
      g.secondDegreeIds (.str viewer) := by
  rw [flatMap_tierPage_range (Nat.le_refl _), List.take_of_length_le]
  exact (ceilDiv_le_iff pos).1 (Nat.le_refl _)

/-! ## What pages show one after the other -/

variable (g viewer limit) in
/-- What each of some pages shows to a viewer who has been shown some users before. -/
def browsed : List UserId → List Nat → List (List UserId)
  | _, [] => []
  | shown, page :: rest =>
    (g.tierPage viewer limit page).filter (fun x => !shown.contains x) ::
      browsed (shown ++ g.tierPage viewer limit page) rest

theorem browsed_append (shown : List UserId) (pages more : List Nat) :
    g.browsed viewer limit shown (pages ++ more) =
      g.browsed viewer limit shown pages ++
        g.browsed viewer limit (shown ++ pages.flatMap (g.tierPage viewer limit)) more := by
  induction pages generalizing shown with
  | nil => simp [browsed]
  | cons page rest ih =>
    simp only [List.cons_append, browsed, ih, List.flatMap_cons, List.append_assoc]

/-- Pages that ask only for users who have been shown show nobody. -/
theorem browsed_of_shown {shown : List UserId} {pages : List Nat}
    (h : ∀ page ∈ pages, ∀ x ∈ g.tierPage viewer limit page, x ∈ shown) :
    g.browsed viewer limit shown pages = pages.map fun _ => [] := by
  induction pages generalizing shown with
  | nil => rfl
  | cons page rest ih =>
    have none_left : (g.tierPage viewer limit page).filter (fun x => !shown.contains x) = [] := by
      rw [List.filter_eq_nil_iff]
      intro x hx
      simpa using h page List.mem_cons_self x hx
    rw [browsed, none_left, List.map_cons, ih]
    intro other ho x hx
    exact List.mem_append_left _ (h other (List.mem_cons_of_mem _ ho) x hx)

/-- Second-degree pages in order leave nobody out, since no user is on two of them. -/
theorem browsed_range {count : Nat} (h : count ≤ g.thirdTierStart viewer limit) :
    g.browsed viewer limit [] (List.range count) =
      (List.range count).map (g.tierPage viewer limit) := by
  induction count with
  | zero => rfl
  | succ count ih =>
    have earlier := ih (Nat.le_of_succ_le h)
    have nobody_out : (g.tierPage viewer limit count).filter (fun x =>
        !((g.secondDegreeIds (.str viewer)).take (count * limit)).contains x) =
          g.tierPage viewer limit count := by
      have once : (g.secondDegreeIds (.str viewer)).Nodup := nodup_distinct _
      rw [← List.take_append_drop (count * limit) (g.secondDegreeIds (.str viewer)),
        List.nodup_append] at once
      rw [List.filter_eq_self, tierPage_of_lt h]
      intro x hx
      have apart := once.2.2
      simpa using fun there => apart x there x (List.mem_of_mem_take hx) rfl
    rw [List.range_succ, browsed_append, earlier, List.map_append, List.nil_append,
      flatMap_tierPage_range (Nat.le_of_succ_le h), browsed, browsed, nobody_out]
    rfl

/-- Pages in order show all second-degree users page by page, then what one slice of the third tier
adds to them, and then nobody. -/
theorem browsed_inOrder (pos : 0 < limit) {later : List Nat}
    (beyond : ∀ page ∈ later, g.thirdTierStart viewer limit < page) :
    g.browsed viewer limit []
        (List.range (g.thirdTierStart viewer limit) ++ g.thirdTierStart viewer limit :: later) =
      (List.range (g.thirdTierStart viewer limit)).map (g.tierPage viewer limit) ++
      (g.tierPage viewer limit (g.thirdTierStart viewer limit)).filter
        (fun x => !(g.secondDegreeIds (.str viewer)).contains x) :: later.map fun _ => [] := by
  rw [browsed_append, browsed_range (Nat.le_refl _), List.nil_append, flatMap_tierPage pos, browsed,
    browsed_of_shown]
  intro page hp x hx
  rw [tierPage_of_le (Nat.le_of_lt (beyond page hp))] at hx
  exact List.mem_append_right _ hx

end Graph

/-! ## One page -/

/-- Pages of this size can be counted exactly. -/
structure Graph.Pageable (g : Graph) (viewer : String) (limit : Nat) : Prop where
  pos : 0 < limit
  limit_le : limit ≤ 2 ^ (53 : Nat)
  count_le : (g.secondDegreeIds (.str viewer)).length ≤ 2 ^ (53 : Nat)

/-- The page at which the third tier begins is then the one after all second-degree users. -/
theorem Graph.Pageable.pageCount {g : Graph} {viewer : String} {limit : Nat}
    (h : g.Pageable viewer limit) :
    Json.pageCount (.int (g.secondDegreeIds (.str viewer)).length) (.int limit) =
      .ok (g.thirdTierStart viewer limit) :=
  Json.pageCount_int (ceilQuotient_natCast h.pos h.count_le h.limit_le)

namespace Graph.WellFormed

variable {g : Graph} {viewer : String} {limit : Nat}

theorem stores_tierPageFrom (wf : g.WellFormed) (viewer : String) (limit start page : Nat) :
    g.Stores (g.tierPageFrom viewer limit start page) := by
  unfold Graph.tierPageFrom
  split
  · exact (wf.stores_secondDegreeIds (.str viewer)).subset fun x hx =>
      List.mem_of_mem_drop (List.mem_of_mem_take hx)
  · exact (wf.stores_thirdDegreeIds (.str viewer)).subset fun x hx =>
      List.mem_of_mem_drop (List.mem_of_mem_take hx)

theorem stores_tierPage (wf : g.WellFormed) (viewer : String) (limit page : Nat) :
    g.Stores (g.tierPage viewer limit page) :=
  wf.stores_tierPageFrom viewer limit (g.thirdTierStart viewer limit) page

/-- A page of suggestions offers the users that it asks for, wherever the third tier is taken to
begin. -/
theorem offer_friends_from (wf : g.WellFormed) (pos : 0 < limit) {start : Nat}
    (counted : Json.pageCount (.int (g.secondDegreeIds (.str viewer)).length) (.int limit) =
      .ok start) (page : Nat) :
    Engine.friends.offer g viewer page limit =
      .ok ((g.tierPageFrom viewer limit start page).filterMap g.findNode) := by
  have proper : Response.ofPage? page limit = none := if_neg (by omega)
  have listed : Engine.friends.candidates g viewer page limit =
      .ok ((g.tierPageFrom viewer limit start page).filterMap g.findNode) := by
    simp only [Engine.candidates, counted, Graph.tierPageFrom, Int.ofNat_lt]
    split
    · rw [(wf.stores_secondDegreeIds (.str viewer)).nodePage, pageOf_natCast]
    · rw [(wf.stores_thirdDegreeIds (.str viewer)).nodePage, pageOf_natCast]
  rw [Engine.offer, proper, listed]

/-- Where pages can be counted exactly, the third tier begins after the second-degree users. -/
theorem offer_friends (wf : g.WellFormed) (pageable : g.Pageable viewer limit) (page : Nat) :
    Engine.friends.offer g viewer page limit =
      .ok ((g.tierPage viewer limit page).filterMap g.findNode) :=
  wf.offer_friends_from pageable.pos pageable.pageCount page

theorem userIds_unseen (wf : g.WellFormed) (texts : g.TextIds) (page : Nat) (seen : List UserId) :
    (SeenWindow.unseen ((g.tierPage viewer limit page).filterMap g.findNode) seen).map
        UserNode.userId =
      (g.tierPage viewer limit page).filter fun x => !seen.contains x := by
  have ids := (wf.stores_tierPage viewer limit page).userIds_nodes texts
  conv => rhs; rw [← ids, List.filter_map]
  rfl

/-- A page shows all that it asks for and that has not been shown. -/
theorem answer_friends (wf : g.WellFormed) (texts : g.TextIds) (pageable : g.Pageable viewer limit)
    (page : Nat) (seen : List UserId) :
    (Engine.friends.answer g viewer page limit seen).userIds =
        (g.tierPage viewer limit page).filter (fun x => !seen.contains x) ∧
      (Engine.friends.answer g viewer page limit seen).pageMeta =
        some (g.tierMeta viewer limit page) := by
  have stored := wf.stores_tierPage viewer limit page
  have everyone (nodes : List UserNode) :
      (nodes.filterMap (Engine.friends.annotated? g viewer)).map (fun e => e.user.userId) =
        nodes.map UserNode.userId := by
    rw [show Engine.friends.annotated? g viewer = g.annotated? (.str viewer) from rfl,
      wf.filterMap_annotated?, List.map_map]
    rfl
  rw [Engine.answer, wf.offer_friends pageable]
  constructor
  · dsimp only
    rw [Response.userIds_paginated, everyone, wf.userIds_unseen texts]
  · show some (Engine.metaOf _ _ _) = _
    simp only [Engine.metaOf, stored.length_nodes, tierMeta, Int.ofNat_lt]

end Graph.WellFormed

/-! ## What has been shown -/

namespace World

variable {w v : World} {engine : Engine} {viewer : String} {limit : Nat} {ids : List UserId}
  {time : Int}

/-- The same stores at another time. -/
def clockAt (w : World) (now : Int) : World := { w with clock := now }

/-- At any time from now on and before another, a viewer has been shown just these users. -/
def Shown (engine : Engine) (viewer : String) (ids : List UserId) (time : Int) (w : World) : Prop :=
  ∀ now, w.clock ≤ now → now < time →
    ∀ x, x ∈ (w.clockAt now).seen engine viewer ↔ x ∈ ids

theorem Shown.congr {ids' : List UserId} (h : Shown engine viewer ids time w)
    (same : ∀ x, x ∈ ids ↔ x ∈ ids') : Shown engine viewer ids' time w :=
  fun now later early x => (h now later early x).trans (same x)

theorem Shown.mem_seen_iff (h : Shown engine viewer ids time w) (early : w.clock < time)
    (x : UserId) : x ∈ w.seen engine viewer ↔ x ∈ ids :=
  h w.clock (Int.le_refl _) early x

/-- Nobody has been shown to a viewer without a live entry, now or later. -/
theorem shown_nil (h : w.cache.live? w.clock (engine.key viewer) = none) (time : Int) :
    Shown engine viewer [] time w := by
  intro now later _ x
  have nothing : w.cache.live? now (engine.key viewer) = none := by
    unfold Cache.live? at h ⊢
    cases there : w.cache.entry? (engine.key viewer) with
    | none => rfl
    | some entry =>
      rw [there] at h
      dsimp only at h ⊢
      split at h
      · rw [if_pos (by omega)]
      · cases h
  show x ∈ SeenWindow.idsOf (.plain ((w.cache.live? now (engine.key viewer)).getD .null)) ↔ _
  rw [nothing]
  rfl

/-- What a viewer has been shown is carried along with the entry. -/
theorem Carries.seen_eq (h : Carries engine viewer w v) {now : Int} (later : w.clock ≤ now) :
    (v.clockAt now).seen engine viewer = (w.clockAt now).seen engine viewer := by
  have live : v.cache.live? now (engine.key viewer) = w.cache.live? now (engine.key viewer) := by
    unfold Cache.live?
    cases there : v.cache.entry? (engine.key viewer) with
    | some entry => rw [h.of_entry entry there]
    | none =>
      cases before : w.cache.entry? (engine.key viewer) with
      | none => rfl
      | some entry =>
        -- The entry that is gone had expired.
        dsimp only
        refine (if_pos (Int.not_lt.1 fun alive => ?_)).symm
        have kept := h.kept entry before (by omega)
        rw [there] at kept
        cases kept
  exact congrArg (fun found => SeenWindow.idsOf (.plain (Option.getD found .null))) live

/-- A request shows its news, and nobody else. -/
theorem Shown.request (h : Shown engine viewer ids time w) (ready : w.Ready)
    (early : w.clock < time) (within : time ≤ w.clock + engine.seconds) (page limit : Int) :
    Shown engine viewer (ids ++ (w.news engine viewer page limit).map UserNode.userId) time
      (w.take (.perform (engine.request viewer page limit))) := by
  intro now later soon x
  rcases take_request ready engine viewer page limit with ⟨none_new, carries⟩ | ⟨-, adds⟩
  · have onward := carries.clock
    rw [carries.seen_eq (by omega), none_new, List.map_nil, List.append_nil]
    exact h now (by omega) soon x
  · obtain ⟨shown, there, held⟩ := adds.entry
    generalize w.take (.perform (engine.request viewer page limit)) = v at there ⊢
    have alive : (v.clockAt now).clock < w.clock + engine.seconds := Int.lt_of_lt_of_le soon within
    have entry : (v.clockAt now).cache.entry? (engine.key viewer) =
        some ⟨shown, w.clock + engine.seconds⟩ := there
    rw [seen_of_entry entry alive, held, List.mem_append, h.mem_seen_iff early]

/-! ## Visits -/

/-- Some time that passes, and the page that is asked for then. -/
structure Visit where
  pause : Nat
  page : Nat
  deriving DecidableEq

/-- The time that passes in the course of some visits. -/
def elapsed : List Visit → Nat
  | [] => 0
  | next :: rest => next.pause + elapsed rest

def visit (w : World) (viewer : String) (limit : Nat) (visit : Visit) :
    Except Failure Response × World :=
  (w.take (.wait visit.pause)).perform (.getSuggestions viewer visit.page limit)

/-- The responses to some visits of a viewer, one after the other. -/
def browse (viewer : String) (limit : Nat) : World → List Visit → List (Except Failure Response)
  | _, [] => []
  | w, next :: rest =>
    (w.visit viewer limit next).1 :: browse viewer limit (w.visit viewer limit next).2 rest

/-- What one visit finds, and what it leaves for the next. -/
structure Visited (viewer : String) (limit : Nat) (ids : List UserId) (time : Int) (w : World)
    (next : Visit) (response : Response) (v : World) : Prop where
  userIds : response.userIds =
    (w.graph.tierPage viewer limit next.page).filter fun x => !ids.contains x
  pageMeta : response.pageMeta = some (w.graph.tierMeta viewer limit next.page)
  ready : v.Ready
  graph : v.graph = w.graph
  clock : v.clock = w.clock + next.pause
  shown : Shown .friends viewer (ids ++ w.graph.tierPage viewer limit next.page) time v

theorem take_request_fixed (ready : w.Ready) (engine : Engine) (viewer : String)
    (page limit : Int) :
    (w.take (.perform (engine.request viewer page limit))).graph = w.graph ∧
      (w.take (.perform (engine.request viewer page limit))).clock = w.clock := by
  have left := (w.perform_request engine viewer ready.memory page limit).2
  obtain ⟨graph, clock⟩ := w.requested_fixed engine viewer page limit
  exact ⟨(congrArg World.graph left :).trans graph, (congrArg World.clock left :).trans clock⟩

theorem userIds_news (ready : w.Ready) (pageable : w.graph.Pageable viewer limit) (page : Nat) :
    (w.news .friends viewer page limit).map UserNode.userId =
      (w.graph.tierPage viewer limit page).filter fun x =>
        !(w.seen .friends viewer).contains x := by
  rw [news, ready.wellFormed.offer_friends pageable]
  exact ready.wellFormed.userIds_unseen ready.textIds page _

/-- One visit, before anything that was shown is forgotten. -/
theorem visited (ready : w.Ready) (pageable : w.graph.Pageable viewer limit)
    (shown : Shown .friends viewer ids time w) (next : Visit)
    (early : w.clock + next.pause < time) (within : time ≤ w.clock + next.pause + 300) :
    ∃ response v, w.visit viewer limit next = (.ok response, v) ∧
      Visited viewer limit ids time w next response v := by
  let u := w.take (.wait next.pause)
  have ready_u : u.Ready := ready.take trivial
  have shown_u : Shown .friends viewer ids time u := fun now later soon x =>
    shown now (by change w.clock + next.pause ≤ now at later; omega) soon x
  have seen_iff (x : UserId) := shown_u.mem_seen_iff early x
  have answered := (u.perform_request .friends viewer ready_u.memory next.page limit).1
  obtain ⟨graph, clock⟩ := take_request_fixed ready_u .friends viewer next.page limit
  obtain ⟨userIds, pageMeta⟩ := ready_u.wellFormed.answer_friends ready_u.textIds pageable next.page
    (u.seen .friends viewer)
  refine ⟨_, _, Prod.ext answered rfl, ?_, pageMeta,
    ready_u.take (Engine.friends.fair_request viewer next.page limit), graph, clock, ?_⟩
  · rw [userIds]
    refine List.filter_congr fun x _ => ?_
    simp only [List.contains_eq_mem, seen_iff x]
  · refine (shown_u.request ready_u early within next.page limit).congr fun x => ?_
    rw [userIds_news ready_u pageable, List.mem_append, List.mem_append, List.mem_filter]
    by_cases known : x ∈ ids
    · simp only [known, true_or]
    · have unseen : x ∉ u.seen .friends viewer := fun there => known ((seen_iff x).1 there)
      simp only [known, false_or, List.contains_eq_mem, unseen, decide_false, Bool.not_false,
        and_true]
      exact Iff.rfl

/-- **Visits of one viewer within one window**, of any pages in any order: each lists what it asks
for, as far as it was not shown before. -/
theorem browse_eq (ready : w.Ready) (pageable : w.graph.Pageable viewer limit)
    (shown : Shown .friends viewer ids time w) (visits : List Visit)
    (early : w.clock + elapsed visits < time) (within : time ≤ w.clock + 300) :
    ∃ responses : List Response, w.browse viewer limit visits = responses.map .ok ∧
      responses.map Response.userIds =
        w.graph.browsed viewer limit ids (visits.map Visit.page) ∧
      responses.map Response.pageMeta =
        visits.map fun visit => some (w.graph.tierMeta viewer limit visit.page) := by
  induction visits generalizing w ids with
  | nil => exact ⟨[], rfl, rfl, rfl⟩
  | cons next rest ih =>
    rw [elapsed, Int.natCast_add] at early
    obtain ⟨response, v, done, found⟩ :=
      visited ready pageable shown next (by omega) (by omega)
    have clock := found.clock
    obtain ⟨responses, all_ok, userIds, metas⟩ := ih found.ready (found.graph ▸ pageable)
      found.shown (by omega) (by omega)
    refine ⟨response :: responses, ?_, ?_, ?_⟩
    · rw [browse, done, all_ok, List.map_cons]
    · rw [List.map_cons, found.userIds, userIds, found.graph, List.map_cons, Graph.browsed]
    · rw [List.map_cons, found.pageMeta, metas, found.graph, List.map_cons]

/-- **Paging in order shows all second-degree users once, then one slice of the third tier.** Let a
viewer without a live entry ask for the pages that second-degree users fill, in order, then for the
page after them, and then for any pages beyond, all within five minutes. The first pages together
list the second-degree users, each once and in the order in which they are met; the next page lists
the third-degree users of its slice who are not of the second degree; the others list nobody, and
say of themselves what that page does. Every page says how many users it asked for, whether they
were fewer than the limit, and which page and limit it was given. -/
theorem browse_inOrder (ready : w.Ready) (pageable : w.graph.Pageable viewer limit)
    (unseen : w.cache.live? w.clock (Engine.friends.key viewer) = none) (visits : List Visit)
    (later : List Nat)
    (pages : visits.map Visit.page = List.range (w.graph.thirdTierStart viewer limit) ++
      w.graph.thirdTierStart viewer limit :: later)
    (beyond : ∀ page ∈ later, w.graph.thirdTierStart viewer limit < page)
    (short : elapsed visits < 300) :
    let second := w.graph.secondDegreeIds (.str viewer)
    let third := w.graph.thirdDegreeIds (.str viewer)
    let start := w.graph.thirdTierStart viewer limit
    ∃ (early : List Response) (turn : Response) (late : List Response),
      w.browse viewer limit visits = (early ++ turn :: late).map .ok ∧
      early.length = start ∧
      early.flatMap Response.userIds = second ∧
      second.Nodup ∧
      turn.userIds =
        ((third.drop (start * limit)).take limit).filter (fun x => !second.contains x) ∧
      (∀ r ∈ late, r.userIds = [] ∧
        r.pageMeta.map (fun m => (m.total, m.isLastPage)) =
          turn.pageMeta.map fun m => (m.total, m.isLastPage)) ∧
      (early ++ turn :: late).map Response.pageMeta =
        visits.map fun visit => some (w.graph.tierMeta viewer limit visit.page) := by
  intro second third start
  obtain ⟨responses, all_ok, userIds, metas⟩ := browse_eq ready pageable
    (shown_nil unseen (w.clock + 300)) visits (by omega) (Int.le_refl _)
  rw [pages, Graph.browsed_inOrder pageable.pos beyond] at userIds
  obtain ⟨early, others, rfl, early_ids, other_ids⟩ := List.map_eq_append_iff.1 userIds
  obtain ⟨turn, late, rfl, turn_ids, late_ids⟩ := List.map_eq_cons_iff.1 other_ids
  have early_length : early.length = start := by
    have := congrArg List.length early_ids
    simpa using this
  have slice : w.graph.tierPage viewer limit start = (third.drop (start * limit)).take limit := by
    rw [Graph.tierPage, if_neg (Nat.lt_irrefl _)]
  refine ⟨early, turn, late, all_ok, early_length, ?_, nodup_distinct _, ?_, ?_, metas⟩
  · rw [List.flatMap_def, early_ids, ← List.flatMap_def]
    exact Graph.flatMap_tierPage pageable.pos
  · rw [turn_ids, slice]
  · have by_page : (early ++ turn :: late).map Response.pageMeta =
        (List.range start ++ start :: later).map fun page =>
          some (w.graph.tierMeta viewer limit page) := by
      rw [metas, ← pages, List.map_map]
      rfl
    rw [List.map_append, List.map_append] at by_page
    have from_turn := (List.append_inj by_page (by simp [early_length])).2
    obtain ⟨turn_meta, late_metas⟩ := List.cons.inj from_turn
    intro r hr
    constructor
    · have listed : r.userIds ∈ later.map fun _ => [] := late_ids ▸ List.mem_map_of_mem hr
      obtain ⟨-, -, nobody⟩ := List.mem_map.1 listed
      exact nobody.symm
    · have said : r.pageMeta ∈ later.map fun page => some (w.graph.tierMeta viewer limit page) :=
        late_metas ▸ List.mem_map_of_mem hr
      obtain ⟨page, there, same⟩ := List.mem_map.1 said
      have slice_again : w.graph.tierPage viewer limit page = w.graph.tierPage viewer limit start :=
        Graph.tierPage_of_le (Nat.le_of_lt (beyond page there))
      rw [← same, turn_meta, Option.map_some, Option.map_some, Graph.tierMeta, Graph.tierMeta,
        slice_again]

/-- A user follows another, who follows two more; the first of these follows four, one of whom is
that other one. -/
def widelyBefriended : World :=
  { empty with
    graph := .ofFollows ["ann", "bob", "cid", "dee", "eve", "fay", "gil"]
      [("ann", "bob"), ("bob", "cid"), ("bob", "dee"), ("cid", "eve"), ("cid", "fay"),
        ("cid", "dee"), ("cid", "gil")] }

/-- With two users to a page the second-degree users fill one page. The third-degree users at the
third and fourth place are one of those and a new one. -/
theorem browse_inOrder_widelyBefriended :
    ∃ (early : List Response) (turn : Response) (late : List Response),
      widelyBefriended.browse "ann" 2 [⟨10, 0⟩, ⟨200, 1⟩, ⟨30, 7⟩, ⟨0, 2⟩] =
        (early ++ turn :: late).map .ok ∧
      early.flatMap Response.userIds = [.str "cid", .str "dee"] ∧
      turn.userIds = [.str "gil"] ∧
      ∀ r ∈ late, r.userIds = [] := by
  have pageable : widelyBefriended.graph.Pageable "ann" 2 :=
    ⟨by decide, by decide, by decide +kernel⟩
  obtain ⟨early, turn, late, all_ok, -, second, -, third, nobody, -⟩ :=
    browse_inOrder (ready_ofFollows _ _) pageable rfl [⟨10, 0⟩, ⟨200, 1⟩, ⟨30, 7⟩, ⟨0, 2⟩] [7, 2]
      (by decide +kernel) (by decide +kernel) (by decide)
  refine ⟨early, turn, late, all_ok, second.trans (by decide +kernel),
    third.trans (by decide +kernel), fun r hr => (nobody r hr).1⟩

end World
end FollowGraph
