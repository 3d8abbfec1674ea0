import FollowGraph.Proofs.Program.Contract
import FollowGraph.Proofs.Service.Effects

/-!
# The contract of every operation

Each function of the services has one lemma here, proved from its text. It says which writes the
function may make (the hypotheses of the form `P c`; reads are always allowed), that its caller
sees no failure of a store, and, for the functions that answer, what the answer is like. None of
this depends on what the stores answer, so it holds also where an operation is refused or fails
half way.

`Operation.obeys` puts them together: an operation makes no write but its own, and answers with a
proper response. Only the stored tags of a user can make an operation fail, when they are no texts
and do not sort.
-/

set_option autoImplicit false

namespace FollowGraph

open Attempt

/-- A success with its code, or a failure with one of the four codes for it. -/
def Response.Proper (r : Response) : Prop :=
  (r.success = true ∧ r.statusCode = 200) ∨
    (r.success = false ∧ r.statusCode ∈ ([400, 403, 404, 500] : List Int))

namespace Response

theorem proper_ok (message : String) (data : Value) : (ok message data).Proper :=
  .inl ⟨rfl, rfl⟩

theorem proper_paginated (message : String) (users : List EnrichedUser) (pageMeta : PageMeta) :
    (paginated message users pageMeta).Proper := .inl ⟨rfl, rfl⟩

theorem proper_badRequest (message : String) : (badRequest message).Proper :=
  .inr ⟨rfl, by simp [badRequest, fail]⟩

theorem proper_forbidden (message : String) : (forbidden message).Proper :=
  .inr ⟨rfl, by simp [forbidden, fail]⟩

theorem proper_notFound (message : String) : (notFound message).Proper :=
  .inr ⟨rfl, by simp [notFound, fail]⟩

theorem proper_internalError (message : String) : (internalError message).Proper :=
  .inr ⟨rfl, by simp [internalError, fail]⟩

end Response

open Response

section Services

variable {P : Call → Prop} {fails : Prop}

/-- What is done about most failures: a log entry about it, and a response that does not show it. -/
theorem Attempt.Obeys.answering {x : Attempt Response} (h : x.Obeys P Proper True)
    (entry : Failure → LogEntry) {response : Response} (proper : response.Proper) :
    (x.catching fun failure => .note (entry failure) (.done response)).Obeys P Proper :=
  h.catching fun _ _ => ⟨rfl, proper⟩

variable [AllowsReads P]

theorem asks_read {c : Call} (h : c.effect = none) : (call c).Asks P :=
  asks_call (AllowsReads.read h)

/-! ## Checks and annotations -/

theorem Queries.asks_isFollowing (a b : UserId) : (isFollowing a b).holds.Asks P :=
  (asks_read rfl).holds

theorem Queries.asks_blockedDirection (a b : UserId) : (blockedDirection a b).Asks P := by
  refine (asks_read rfl).holds.bind fun _ _ => obeys_ite (asks_pure _) ?_
  refine (asks_read rfl).holds.bind fun _ _ => obeys_ite (asks_pure _) ?_
  exact (obeys_log _ _ _).bind fun _ _ => asks_pure _

theorem Queries.asks_isBlocked (a b : UserId) : (isBlocked a b).Asks P :=
  (asks_blockedDirection a b).bind fun _ _ => asks_pure _

theorem Mutual.obeys_find (a b : UserId) : (find a b).Obeys P fun _ => True := by
  have asked : (Ask.commonConnection a b).Asks P := asks_read rfl
  exact asked.catching fun _ _ => ⟨rfl, trivial⟩

theorem Mutual.asks_count (a b : UserId) : (count a b).Asks P :=
  (obeys_always (obeys_find a b)).bind fun _ _ =>
    obeys_ite (asks_pure _) ((asks_ofExcept _).bind fun _ _ => asks_pure _)

namespace Enrichment

theorem asks_flags (viewer candidate : UserId) : (flags viewer candidate).Asks P :=
  (asks_read rfl).bind fun _ _ => (asks_read rfl).bind fun _ _ => (asks_read rfl).bind fun _ _ =>
    (asks_read rfl).bind fun _ _ => asks_pure _

theorem asks_enrich {count : MutualCount} (hc : ∀ a b, (count a b).Asks P) (node : UserNode)
    (viewer : UserId) : (enrich count node viewer).Asks P := by
  have flagged : (flags? viewer node.userId).Obeys P fun _ => True :=
    (Obeys.map (asks_flags viewer node.userId) fun _ _ => trivial).catching fun _ _ =>
      ⟨rfl, trivial⟩
  refine (obeys_always flagged).bind fun
    | none, _ => asks_pure _
    | some flags, _ => (hc viewer node.userId).bind fun mutualCount _ => ?_
  split
  · exact (obeys_log _ _ _).bind fun _ _ => asks_pure _
  · exact asks_pure _

theorem asks_enrichUnfollowed {count : MutualCount} (hc : ∀ a b, (count a b).Asks P)
    (node : UserNode) (viewer : UserId) : (enrichUnfollowed count node viewer).Asks P :=
  (asks_enrich hc node viewer).bind fun _ _ => asks_pure _

omit [AllowsReads P] in
/-- A user who cannot be annotated is passed over; only an item that is no user is a failure. -/
theorem obeys_collect {one : UserNode → Attempt (Option EnrichedUser)}
    (h : ∀ node, (one node).Asks P) (items : List Value)
    (unusable : ∀ item ∈ items, ∀ failure, item.node "user_id" = .error failure → fails) :
    (collect one items).Obeys P (fun _ => True) fails := by
  induction items with
  | nil => exact obeys_pure trivial
  | cons item rest ih =>
    refine (obeys_ofExcept (fun _ _ => trivial) (unusable item List.mem_cons_self)).bind
      fun node _ => ?_
    have annotated : ((one node).catching fun failure => do
        Program.log .warning .enrichment ("Failed to enrich " ++ node.userId.display ++ ": " ++
          failure.message)
        pure none).Obeys P fun _ => True := (h node).catching fun _ _ => ⟨rfl, trivial⟩
    refine (obeys_always annotated).bind fun _ _ => ?_
    refine (ih fun other there => unusable other (List.mem_cons_of_mem _ there)).bind fun _ _ => ?_
    exact obeys_pure trivial

omit [AllowsReads P] in
theorem obeys_collect_users {one : UserNode → Attempt (Option EnrichedUser)}
    (h : ∀ node, (one node).Asks P) (nodes : List UserNode) :
    (collect one (nodes.map Value.user)).Obeys P (fun _ => True) fails := by
  refine obeys_collect h _ ?_
  intro item there failure unusable
  obtain ⟨node, -, rfl⟩ := List.mem_map.1 there
  cases unusable

theorem asks_enrichMany (nodes : Value) (viewer : UserId) :
    (enrichMany Mutual.count nodes viewer).Asks P :=
  (asks_ofExcept _).bind fun items _ =>
    obeys_collect (fun node => asks_enrich Mutual.asks_count node viewer) items
      fun _ _ _ _ => trivial

theorem obeys_enrichMany_users (nodes : List UserNode) (viewer : UserId) :
    (enrichMany Mutual.count (.users nodes) viewer).Obeys P (fun _ => True) fails :=
  obeys_collect_users (fun node => asks_enrich Mutual.asks_count node viewer) nodes

theorem asks_enrichManyUnfollowed (nodes : Value) (viewer : UserId) :
    (enrichManyUnfollowed Mutual.count nodes viewer).Asks P :=
  (asks_ofExcept _).bind fun items _ =>
    obeys_collect (fun node => asks_enrichUnfollowed Mutual.asks_count node viewer) items
      fun _ _ _ _ => trivial

theorem obeys_enrichManyUnfollowed_users (nodes : List UserNode) (viewer : UserId) :
    (enrichManyUnfollowed Mutual.count (.users nodes) viewer).Obeys P (fun _ => True) fails :=
  obeys_collect_users (fun node => asks_enrichUnfollowed Mutual.asks_count node viewer) nodes

end Enrichment

/-! ## Pages -/

/-- The refusal of a page before the first or without room for any user. -/
def Response.ofPage? (page limit : Int) : Option Response :=
  if page < 0 ∨ limit < 1 then some (badRequest "page must be >= 0 and limit must be >= 1")
  else none

theorem checkPagination_int (page limit : Int) :
    checkPagination (.int page) (.int limit) = .ok (ofPage? page limit) := by
  by_cases hp : page < 0 <;> by_cases hl : limit < 1 <;>
    simp [checkPagination, ofPage?, hp, hl, bind, Except.bind, pure, Except.pure]

theorem pageMetaOf_users (nodes : List UserNode) (page : Json) (limit : Int) :
    pageMetaOf (.users nodes) page (.int limit) =
      .ok { total := .int nodes.length, page, limit := .int limit,
            isLastPage := .bool (decide ((nodes.length : Int) < limit)) } := by
  simp [pageMetaOf, bind, Except.bind, pure, Except.pure]

omit [AllowsReads P] in
/-- An operation on a page comes after the check of page and limit. -/
theorem obeys_paged (page limit : Int) {body : Attempt Response} (h : body.Obeys P Proper fails) :
    (do match ← Attempt.ofExcept (checkPagination (.int page) (.int limit)) with
        | some refusal => pure refusal
        | none => body).Obeys P Proper fails := by
  have checked : (ofExcept (checkPagination (.int page) (.int limit))).Obeys P
      (fun refusal => ∀ r ∈ refusal, r.Proper) fails := by
    rw [checkPagination_int]
    refine obeys_ofExcept ?_ fun _ differ => by cases differ
    intro refusal same r there
    cases same
    obtain ⟨-, same⟩ := Option.ite_none_right_eq_some.1 there
    exact Option.some.inj same ▸ proper_badRequest _
  refine checked.bind fun
    | some refusal, proper => obeys_pure (proper refusal rfl)
    | none, _ => h

/-! ## Following and blocking -/

namespace Follow

theorem obeys_notifyNewFollow (source target : UserId)
    (publish : ∀ event payload, P (.publish event payload)) :
    (notifyNewFollow source target).Obeys P fun _ => True := by
  refine (show Attempt.Asks P _ from ?_).catching fun _ _ => ⟨rfl, trivial⟩
  refine (asks_read rfl).bind fun _ _ => (asks_ofExcept _).bind fun _ _ => ?_
  exact (asks_call (publish _ _)).bind fun _ _ => asks_pure _

theorem asks_bothExist (source target : UserId) : (bothExist source target).Asks P :=
  (asks_read rfl).bind fun _ _ => obeys_ite (asks_pure _) <|
    (asks_read rfl).bind fun _ _ => asks_pure _

theorem obeys_followEdge (source target : UserId)
    (create : P (.graph (.createEdge source target .following))) :
    (followEdge source target).Obeys P (fun refusal => ∀ r ∈ refusal, r.Proper) True := by
  have refuse {r : Response} (proper : r.Proper) :
      (pure (some r) : Attempt (Option Response)).Obeys P (fun o => ∀ r ∈ o, r.Proper) True :=
    obeys_pure fun _ there => Option.some.inj there ▸ proper
  refine (asks_bothExist source target).bind fun _ _ =>
    obeys_ite (refuse (proper_badRequest _)) ?_
  refine (Queries.asks_isFollowing source target).bind fun _ _ =>
    obeys_ite (refuse (proper_forbidden _)) ?_
  refine (Queries.asks_isBlocked source target).bind fun _ _ =>
    obeys_ite (refuse (proper_forbidden _)) ?_
  refine (Obeys.holds (asks_call create)).bind fun _ _ =>
    obeys_ite ?_ (refuse (proper_internalError _))
  exact (obeys_log _ _ _).bind fun _ _ => obeys_pure fun _ there => by cases there

theorem obeys_follow (source target : UserId)
    (create : P (.graph (.createEdge source target .following)))
    (publish : ∀ event payload, P (.publish event payload)) :
    (follow source target).Obeys P Proper := by
  unfold follow
  split
  · exact Program.obeys_done (proper_forbidden _)
  · refine Program.Obeys.bind (Q := fun refusal => ∀ r ∈ refusal, r.Proper) ?_ fun
      | some response, proper => Program.obeys_done (proper response rfl)
      | none, _ => ?_
    · refine (obeys_followEdge source target create).catching fun _ _ => ⟨rfl, ?_⟩
      exact fun _ there => Option.some.inj there ▸ proper_internalError _
    · exact (obeys_notifyNewFollow source target publish).bind fun _ _ =>
        Program.obeys_done (proper_ok _ _)

theorem obeys_unfollow (source target : UserId)
    (delete : P (.graph (.deleteEdge source target .following))) :
    (unfollow source target).Obeys P Proper := by
  unfold unfollow
  split
  · exact Program.obeys_done (proper_forbidden _)
  · refine Obeys.answering ?_ _ (proper_internalError _)
    refine (Queries.asks_isFollowing source target).bind fun _ _ =>
      obeys_ite (obeys_pure (proper_forbidden _)) ?_
    refine (Queries.asks_isBlocked source target).bind fun _ _ =>
      obeys_ite (obeys_pure (proper_forbidden _)) ?_
    refine (Obeys.holds (asks_call delete)).bind fun _ _ =>
      obeys_ite ?_ (obeys_pure (proper_internalError _))
    exact (obeys_log _ _ _).bind fun _ _ => obeys_pure (proper_ok _ _)

theorem obeys_removeFollower (user follower : UserId)
    (delete : P (.graph (.deleteEdge follower user .following))) :
    (removeFollower user follower).Obeys P Proper := by
  unfold removeFollower
  split
  · exact Program.obeys_done (proper_forbidden _)
  · refine Obeys.answering ?_ _ (proper_internalError _)
    refine (Queries.asks_isBlocked user follower).bind fun _ _ =>
      obeys_ite (obeys_pure (proper_forbidden _)) ?_
    refine (Queries.asks_isFollowing follower user).bind fun _ _ =>
      obeys_ite (obeys_pure (proper_forbidden _)) ?_
    refine (Obeys.holds (asks_call delete)).bind fun _ _ =>
      obeys_ite ?_ (obeys_pure (proper_internalError _))
    exact (obeys_log _ _ _).bind fun _ _ => obeys_pure (proper_ok _ _)

theorem obeys_listNeighbors (userId : UserId) (direction : Direction) (page limit : Int)
    (label small : String) :
    (listNeighbors userId direction (.int page) (.int limit) label small).Obeys P Proper fails := by
  refine obeys_paged page limit (obeys_always (Obeys.answering ?_ _ (proper_internalError _)))
  refine (asks_read rfl).bind fun raw _ =>
    (Enrichment.asks_enrichMany raw userId).bind fun _ _ => ?_
  exact (asks_ofExcept _).bind fun _ _ => obeys_pure (proper_paginated _ _ _)

end Follow

namespace Block

omit [AllowsReads P] in
theorem obeys_detach (step : String) (source target : UserId) {applies : Attempt Bool}
    {operation : Program Response} (ha : applies.Asks P) (ho : operation.Obeys P Proper) :
    (detach step source target applies operation).Obeys P fun _ => True := by
  refine Program.Obeys.bind ((show Asks P _ from ?_).catching fun _ _ => ⟨rfl, trivial⟩) fun
    | some response, _ => ?_
    | none, _ => Program.obeys_done trivial
  · exact ha.bind fun _ _ =>
      obeys_ite ((obeys_always ho).bind fun _ _ => asks_pure _) (asks_pure _)
  · dsimp only
    split
    · exact Program.obeys_done trivial
    · exact ⟨rfl, trivial⟩

theorem obeys_block (source target : UserId)
    (out : P (.graph (.deleteEdge source target .following)))
    (back : P (.graph (.deleteEdge target source .following)))
    (create : P (.graph (.createEdge source target .blocked))) :
    (block source target).Obeys P Proper := by
  unfold block
  split
  · exact Program.obeys_done (proper_forbidden _)
  · refine Obeys.answering ?_ _ (proper_internalError _)
    refine (Follow.asks_bothExist source target).bind fun _ _ =>
      obeys_ite (obeys_pure (proper_badRequest _)) ?_
    refine (Queries.asks_isBlocked source target).bind fun _ _ =>
      obeys_ite (obeys_pure (proper_forbidden _)) ?_
    refine (obeys_always (obeys_detach _ _ _ (Queries.asks_isFollowing source target)
      (Follow.obeys_unfollow source target out))).bind fun _ _ => ?_
    refine (obeys_always (obeys_detach _ _ _ (Queries.asks_isFollowing target source)
      (Follow.obeys_removeFollower source target back))).bind fun _ _ => ?_
    refine (Obeys.holds (asks_call create)).bind fun _ _ =>
      obeys_ite ?_ (obeys_pure (proper_internalError _))
    exact (obeys_log _ _ _).bind fun _ _ => obeys_pure (proper_ok _ _)

theorem obeys_unblock (source target : UserId)
    (own : P (.graph (.deleteEdge source target .blocked)))
    (other : P (.graph (.deleteEdge target source .blocked))) :
    (unblock source target).Obeys P Proper := by
  have found : (Queries.blockedDirection source target).Obeys P
      (fun stored => ∀ edge ∈ stored, edge = (source, target) ∨ edge = (target, source)) True := by
    refine (asks_read rfl).holds.bind fun _ _ => obeys_ite (obeys_pure ?_) ?_
    · exact fun _ there => .inl (Option.some.inj there).symm
    refine (asks_read rfl).holds.bind fun _ _ => obeys_ite (obeys_pure ?_) ?_
    · exact fun _ there => .inr (Option.some.inj there).symm
    exact (obeys_log _ _ _).bind fun _ _ => obeys_pure fun _ there => by cases there
  unfold unblock
  split
  · exact Program.obeys_done (proper_forbidden _)
  · refine Obeys.answering ?_ _ (proper_internalError _)
    refine found.bind fun
      | none, _ => obeys_pure (proper_forbidden _)
      | some (blocker, blocked), among => ?_
    have delete : P (.graph (.deleteEdge blocker blocked .blocked)) := by
      rcases among _ rfl with same | same <;> cases same
      · exact own
      · exact other
    refine (Obeys.holds (asks_call delete)).bind fun _ _ =>
      obeys_ite ?_ (obeys_pure (proper_internalError _))
    exact (obeys_log _ _ _).bind fun _ _ => obeys_pure (proper_ok _ _)

theorem obeys_getBlocked (userId : UserId) (page limit : Int) :
    (getBlocked userId (.int page) (.int limit)).Obeys P Proper fails := by
  refine obeys_paged page limit (obeys_always (Obeys.answering ?_ _ (proper_internalError _)))
  refine (asks_read rfl).bind fun raw _ =>
    (Enrichment.asks_enrichMany raw userId).bind fun _ _ => ?_
  exact (asks_ofExcept _).bind fun _ _ => obeys_pure (proper_paginated _ _ _)

end Block

/-! ## Users, interests and search -/

namespace Users

omit [AllowsReads P] in
theorem obeys_create (user : UserNode) (upsert : P (.graph (.upsertUserNode user))) :
    (create user).Obeys P Proper := by
  refine Obeys.answering ?_ _ (proper_internalError _)
  refine (asks_call upsert).bind fun _ _ => (asks_ofExcept _).bind fun _ _ => ?_
  exact (obeys_log _ _ _).bind fun _ _ => obeys_pure (proper_ok _ _)

theorem obeys_update (user : UserNode) (update : P (.graph (.updateUserNode user))) :
    (Users.update user).Obeys P Proper := by
  refine Obeys.answering ?_ _ (proper_internalError _)
  refine (Obeys.holds (asks_call update)).bind fun _ _ =>
    obeys_ite ?_ (obeys_pure (proper_notFound _))
  exact (asks_read rfl).bind fun _ _ => obeys_pure (proper_ok _ _)

theorem obeys_get (userId : UserId) : (get userId).Obeys P Proper := by
  refine Obeys.answering ?_ _ (proper_internalError _)
  exact (asks_read rfl).bind fun _ _ =>
    obeys_ite (obeys_pure (proper_notFound _)) (obeys_pure (proper_ok _ _))

theorem obeys_isStored (userId : UserId) : (isStored userId).Obeys P fun _ => True := by
  have asked : (Ask.findNode userId).Asks P := asks_read rfl
  exact (Obeys.map asked fun _ _ => trivial).catching fun _ _ => ⟨rfl, trivial⟩

end Users

namespace Search

theorem obeys_mutualFollowers (source target : UserId) :
    (mutualFollowers source target).Obeys P Proper := by
  refine Obeys.answering ?_ _ (proper_internalError _)
  refine (obeys_always (Mutual.obeys_find source target)).bind fun found _ => ?_
  refine obeys_ite (obeys_pure (proper_internalError _)) (obeys_ite ?_ ?_)
  · exact (obeys_log _ _ _).bind fun _ _ => obeys_pure (proper_notFound _)
  · exact (Enrichment.asks_enrichMany found source).bind fun _ _ => obeys_pure (proper_ok _ _)

theorem needleOf_str (query : String) : needleOf (.str query) = .ok (Text.strip query) := by
  unfold needleOf
  split
  · rename_i empty
    have : query = "" := by simpa [Json.isFalsy] using empty
    rw [this]
    rfl
  · rfl

theorem obeys_searchNeighbors (userId : UserId) (direction : Direction) (query : String)
    (page limit : Int) (label capital : String) :
    (searchNeighbors userId direction (.str query) (.int page) (.int limit) label capital).Obeys P
      Proper fails := by
  refine obeys_paged page limit ?_
  rw [needleOf_str]
  refine (obeys_ofExcept (Q := fun _ => True) (fun _ _ => trivial) fun _ differ => by
    cases differ).bind fun needle _ => ?_
  refine obeys_ite (obeys_pure (proper_badRequest _)) ?_
  refine obeys_always (Obeys.answering ?_ _ (proper_internalError _))
  refine (asks_read rfl).bind fun raw _ => obeys_ite ?_ ?_
  · exact (obeys_log _ _ _).bind fun _ _ => obeys_pure (proper_notFound _)
  · refine (Enrichment.asks_enrichMany raw userId).bind fun _ _ => ?_
    exact (asks_ofExcept _).bind fun _ _ => obeys_pure (proper_paginated _ _ _)

end Search

namespace Interests

theorem readTags_arr (tags : List Json) :
    readTags (.arr tags) = .ok (parseTags (tags.map Json.display)) := by
  cases tags <;> rfl

/-- Tags that are texts can be sorted. -/
theorem ascending_of_texts {tags : List Json} (texts : ∀ tag ∈ tags, tag.isText = true) :
    ascending (.plain (.arr tags)) = .ok (.arr (Json.sortTexts tags)) := by
  have same : (tags.map Value.plain).map Value.render = tags := by
    simp [List.map_map, Function.comp_def, Value.render]
  show Json.arr <$> Json.sorted ((tags.map Value.plain).map Value.render) = _
  rw [same, Json.sorted_of_texts texts]
  rfl

omit [AllowsReads P] in
theorem obeys_set (userId : UserId) (tags : List Json)
    (replace : ∀ texts, P (.graph (.setUserInterests userId (ofTexts texts)))) :
    (set userId (.arr tags)).Obeys P Proper fails := by
  unfold set
  rw [readTags_arr]
  refine (obeys_ofExcept (Q := fun _ => True) (fun _ _ => trivial) fun _ differ => by
    cases differ).bind fun
    | none, _ => obeys_pure (proper_badRequest _)
    | some tags, _ => obeys_always (Obeys.answering ?_ _ (proper_internalError _))
  refine (Obeys.holds (asks_call (replace _))).bind fun _ _ =>
    obeys_ite ?_ (obeys_pure (proper_notFound _))
  exact (obeys_log _ _ _).bind fun _ _ => obeys_pure (proper_ok _ _)

/-- Sorting comes after all that is caught. -/
theorem obeys_get (userId : UserId) : (get userId).Obeys P Proper True := by
  have asked : (Ask.listUserInterests userId).Asks P := asks_read rfl
  have found : (stored userId).Obeys P fun outcome => ∀ r, outcome = .error r → r.Proper := by
    refine (Obeys.map asked fun _ _ _ differ => by cases differ).catching fun _ _ => ⟨rfl, ?_⟩
    intro r same
    cases same
    exact proper_internalError _
  refine (obeys_always found).bind fun
    | .error response, proper => obeys_pure (proper response rfl)
    | .ok tags, _ => obeys_ite (obeys_pure (.inr ⟨rfl, by simp [Response.fail]⟩)) ?_
  exact (asks_ofExcept _).bind fun _ _ => obeys_pure (proper_ok _ _)

end Interests

/-! ## Suggestions -/

namespace SeenWindow

variable (window : SeenWindow) (viewer : UserId)

-- Their calls are about the cache, and those count as writes.
omit [AllowsReads P]

/-- Remembered ids are texts, whatever was stored. -/
theorem isText_of_mem_idsOf {x : UserId} {v : Value} (h : x ∈ idsOf v) : x.isText = true := by
  unfold idsOf at h
  split at h
  · obtain ⟨item, -, rfl⟩ := List.mem_map.1 (mem_distinct.1 h)
    exact Json.isText_asText item
  · cases h

theorem obeys_seenIds (get : P (.cacheGet (window.key viewer))) :
    (window.seenIds viewer).Obeys P fun seen => ∀ x ∈ seen, x.isText = true := by
  have asked : (Ask.cacheGet (window.key viewer)).Asks P := asks_call get
  refine (Obeys.map asked fun _ _ _ there => isText_of_mem_idsOf there).catching fun _ _ =>
    ⟨rfl, ?_⟩
  exact fun _ there => by cases there

theorem obeys_write (shown : Json) (new : Nat)
    (set : P (.cacheSet (window.key viewer) shown window.ttl)) :
    (window.write viewer shown new).Obeys P fun _ => True := by
  refine (show Asks P _ from ?_).catching fun _ _ => ⟨rfl, trivial⟩
  exact (asks_call set).bind fun _ _ => obeys_log _ _ _

theorem obeys_remember (seen ids : List UserId)
    (set : ∀ shown, P (.cacheSet (window.key viewer) shown window.ttl))
    (unsorted : ∀ failure, merged seen ids = .error failure → fails) :
    (window.remember viewer seen ids).Obeys P (fun _ => True) fails :=
  (obeys_ofExcept (Q := fun _ => True) (fun _ _ => trivial) unsorted).bind fun shown _ =>
    obeys_always (obeys_write window viewer shown _ (set shown))

theorem asks_filterUnseen (candidates : Value) (get : P (.cacheGet (window.key viewer)))
    (set : ∀ shown, P (.cacheSet (window.key viewer) shown window.ttl)) :
    (window.filterUnseen viewer candidates).Asks P := by
  refine (obeys_always (obeys_seenIds window viewer get)).bind fun seen _ => ?_
  refine (asks_ofExcept _).bind fun items _ => (asks_ofExcept _).bind fun nodes _ => ?_
  refine obeys_ite (asks_pure _) ?_
  exact (obeys_remember window viewer seen _ set fun _ _ => trivial).bind fun _ _ => asks_pure _

/-- Texts always sort. -/
theorem merged_of_texts {seen ids : List UserId} (hs : ∀ x ∈ seen, x.isText = true)
    (hi : ∀ x ∈ ids, x.isText = true) :
    merged seen ids = .ok (.arr (Json.sortTexts (distinct (seen ++ ids)))) := by
  have texts : ∀ x ∈ distinct (seen ++ ids), x.isText = true := by
    intro x hx
    rcases List.mem_append.1 (mem_distinct.1 hx) with hx | hx
    · exact hs x hx
    · exact hi x hx
  rw [merged, Json.sorted_of_texts texts]
  rfl

theorem mapM_candidate_users {nodes : List UserNode}
    (texts : ∀ u ∈ nodes, u.userId.isText = true) :
    (nodes.map Value.user).mapM candidate = .ok nodes := by
  induction nodes with
  | nil => rfl
  | cons u rest ih =>
    have usable : candidate (.user u) = .ok u := by
      show Except.bind u.userId.requireHashable _ = _
      rw [Json.requireHashable_of_isText (texts u List.mem_cons_self)]
      rfl
    rw [List.map_cons, List.mapM_cons, usable,
      ih fun v hv => texts v (List.mem_cons_of_mem _ hv)]
    rfl

/-- Users whose ids are texts can always be filtered. -/
theorem obeys_filterUnseen_users {nodes : List UserNode}
    (texts : ∀ u ∈ nodes, u.userId.isText = true)
    (get : P (.cacheGet (window.key viewer)))
    (set : ∀ shown, P (.cacheSet (window.key viewer) shown window.ttl)) :
    (window.filterUnseen viewer (.users nodes)).Obeys P (fun _ => True) fails := by
  unfold filterUnseen
  rw [Value.items_users]
  refine (obeys_always (obeys_seenIds window viewer get)).bind fun seen hs => ?_
  refine (obeys_ofExcept (Q := (· = nodes.map Value.user)) (fun _ same => (Except.ok.inj same).symm)
    fun _ differ => by cases differ).bind ?_
  rintro _ rfl
  rw [mapM_candidate_users texts]
  refine (obeys_ofExcept (Q := (· = nodes)) (fun _ same => (Except.ok.inj same).symm)
    fun _ differ => by cases differ).bind ?_
  rintro _ rfl
  refine obeys_ite (obeys_pure trivial) ?_
  refine (obeys_remember window viewer seen _ set ?_).bind fun _ _ => obeys_pure trivial
  intro failure unsorted
  rw [merged_of_texts hs] at unsorted
  · cases unsorted
  · intro x hx
    obtain ⟨u, hu, rfl⟩ := List.mem_map.1 hx
    exact texts u (List.mem_filter.1 hu).1

end SeenWindow

theorem Suggestions.asks_fetchCandidates (viewer : UserId) (page limit : Json) :
    (fetchCandidates viewer page limit).Asks P := by
  refine (asks_read rfl).bind fun _ _ => (asks_ofExcept _).bind fun _ _ => ?_
  refine (asks_ofExcept _).bind fun isSecond _ => ?_
  -- Both tiers make one reading call and go on alike.
  cases isSecond <;> refine (asks_read rfl).bind fun _ _ => ?_ <;>
    exact (asks_ofExcept _).bind fun _ _ => (asks_ofExcept _).bind fun _ _ => asks_pure _

theorem Suggestions.obeys_getSuggestions (viewer : UserId) (page limit : Int)
    (get : P (.cacheGet (SeenWindow.suggestions.key viewer)))
    (set : ∀ shown, P (.cacheSet (SeenWindow.suggestions.key viewer) shown
      SeenWindow.suggestions.ttl)) :
    (getSuggestions viewer (.int page) (.int limit)).Obeys P Proper fails := by
  refine obeys_paged page limit (obeys_always (Obeys.answering ?_ _ (proper_internalError _)))
  refine (asks_fetchCandidates viewer _ _).bind fun _ _ => (obeys_log _ _ _).bind fun _ _ => ?_
  refine (SeenWindow.asks_filterUnseen _ viewer _ get set).bind fun _ _ => ?_
  exact (Enrichment.asks_enrichMany _ viewer).bind fun _ _ => obeys_pure (proper_paginated _ _ _)

theorem Interests.obeys_getSuggestions (viewer : UserId) (page limit : Int)
    (get : P (.cacheGet (SeenWindow.interestSuggestions.key viewer)))
    (set : ∀ shown, P (.cacheSet (SeenWindow.interestSuggestions.key viewer) shown
      SeenWindow.interestSuggestions.ttl)) :
    (getSuggestions viewer (.int page) (.int limit)).Obeys P Proper fails := by
  refine obeys_paged page limit (obeys_always (Obeys.answering ?_ _ (proper_internalError _)))
  refine (asks_read rfl).bind fun raw _ => ?_
  refine (SeenWindow.asks_filterUnseen _ viewer raw get set).bind fun _ _ => ?_
  refine (Enrichment.asks_enrichManyUnfollowed _ viewer).bind fun _ _ => ?_
  exact (asks_ofExcept _).bind fun _ _ => obeys_pure (proper_paginated _ _ _)

end Services

/-! ## All operations -/

namespace Operation

/-- **No operation makes other calls than its own, and all of them answer properly**, whatever the
stores answer. Only sorting the tags of a user can fail. -/
theorem obeys (op : Operation) :
    op.program.Obeys op.Makes Response.Proper (∃ userId, op = .getInterests userId) := by
  cases op with
  | createUser user => exact obeys_always (Users.obeys_create _ (.inr (.create user)))
  | updateUser user => exact obeys_always (Users.obeys_update _ (.inr (.update user)))
  | getUser userId => exact obeys_always (Users.obeys_get _)
  | follow a b =>
    exact obeys_always (Follow.obeys_follow _ _ (.inr (.follow a b)) fun event payload =>
      .inr (.announce a b event payload))
  | unfollow a b => exact obeys_always (Follow.obeys_unfollow _ _ (.inr (.unfollow a b)))
  | removeFollower a b =>
    exact obeys_always (Follow.obeys_removeFollower _ _ (.inr (.removeFollower a b)))
  | getFollowing userId page limit => exact Follow.obeys_listNeighbors _ _ _ _ _ _
  | getFollowers userId page limit => exact Follow.obeys_listNeighbors _ _ _ _ _ _
  | block a b =>
    exact obeys_always (Block.obeys_block _ _ (.inr (.detach a b)) (.inr (.detachBack a b))
      (.inr (.block a b)))
  | unblock a b =>
    exact obeys_always (Block.obeys_unblock _ _ (.inr (.unblock a b)) (.inr (.unblockBack a b)))
  | getBlocked userId page limit => exact Block.obeys_getBlocked _ _ _
  | mutualFollowers a b => exact obeys_always (Search.obeys_mutualFollowers _ _)
  | searchFollowers userId query page limit => exact Search.obeys_searchNeighbors _ _ _ _ _ _ _
  | searchFollowing userId query page limit => exact Search.obeys_searchNeighbors _ _ _ _ _ _ _
  | getSuggestions viewer page limit =>
    exact Suggestions.obeys_getSuggestions _ _ _ (.inr (.readSeen viewer page limit))
      fun shown => .inr (.writeSeen viewer page limit shown)
  | setInterests userId given =>
    exact Interests.obeys_set _ _ fun tags => .inr (.setInterests userId given tags)
  | getInterests userId =>
    exact Program.Agrees.mono (Interests.obeys_get _) fun _ _ settled =>
      settled.mono (fun _ => id) fun _ => ⟨userId, rfl⟩
  | getInterestSuggestions viewer page limit =>
    exact Interests.obeys_getSuggestions _ _ _ (.inr (.readSeenInterests viewer page limit))
      fun shown => .inr (.writeSeenInterests viewer page limit shown)

theorem uses_makes (op : Operation) : op.program.Uses op.Makes := op.obeys.uses

theorem uses_effects (op : Operation) : op.program.Uses (Call.Within op.effects) :=
  op.uses_makes.mono within_of_makes

end Operation
end FollowGraph
