import FollowGraph.Proofs.Service.Action
import FollowGraph.Proofs.Service.Window

/-!
# Whom the record of a viewer holds

A request records the candidates who are new to its viewer before it annotates them, and so before
the users whom the viewer follows are left out of suggestions by interests. Nothing else writes the
record. An id in it is therefore that of a candidate of an earlier request
(`World.mem_seen_actAll`), and the request listed this candidate unless it was one for interests by
someone who followed the candidate at that time (`Inquiry.listed_eq`).

The two sides meet in `World.listed_iff`: friends of friends who are recorded have all been listed,
and users with the same interests just when some request came to them while they were not followed.
-/

set_option autoImplicit false

namespace FollowGraph

/-- A request for suggestions as it was made: the stores it was made to, its page and its limit. -/
structure Inquiry where
  world : World
  page : Int
  limit : Int

/-- The page and limit of an action that is a request of one viewer to one engine. -/
def Action.pageAsked? (engine : Engine) (viewer : String) : Action → Option (Int × Int)
  | .perform (.getSuggestions asking page limit) =>
    if engine = .friends ∧ asking = viewer then some (page, limit) else none
  | .perform (.getInterestSuggestions asking page limit) =>
    if engine = .interests ∧ asking = viewer then some (page, limit) else none
  | _ => none

theorem Action.pageAsked?_request (engine : Engine) (viewer : String) (page limit : Int) :
    (Action.perform (engine.request viewer page limit)).pageAsked? engine viewer =
      some (page, limit) := by
  cases engine <;> exact if_pos ⟨rfl, rfl⟩

/-! ## Who is listed -/

/-- Whether a candidate who is new to a viewer is also listed. -/
def Engine.lists (engine : Engine) (g : Graph) (viewer : String) (candidate : UserId) : Bool :=
  match engine with
  | .friends => true
  | .interests => !g.hasEdge ⟨.str viewer, candidate, .following⟩

theorem Engine.lists_iff {engine : Engine} {g : Graph} {viewer : String} {candidate : UserId} :
    engine.lists g viewer candidate = true ↔
      (engine = .interests → g.hasEdge ⟨.str viewer, candidate, .following⟩ = false) := by
  cases engine <;> simp [lists]

/-- On a well-formed graph nobody else is left out. -/
theorem Engine.userIds_annotated_eq {g : Graph} (wf : g.WellFormed) (engine : Engine)
    (viewer : String) (nodes : List UserNode) :
    ((nodes.filterMap (engine.annotated? g viewer)).map fun e => e.user.userId) =
      (nodes.map UserNode.userId).filter (engine.lists g viewer) := by
  induction nodes with
  | nil => rfl
  | cons node rest ih =>
    have annotated := wf.annotated?_eq (.str viewer) node
    rw [List.filterMap_cons, List.map_cons, List.filter_cons]
    cases engine with
    | friends =>
      have found : Engine.friends.annotated? g viewer node = _ := annotated
      simp only [found, Engine.lists, if_true, List.map_cons]
      exact congrArg (node.userId :: ·) ih
    | interests =>
      have found : Engine.interests.annotated? g viewer node = _ :=
        congrArg (Option.filter fun e : EnrichedUser => e.isFollowing.isFalsy) annotated
      rw [found]
      cases followed : g.hasEdge ⟨.str viewer, node.userId, .following⟩ with
      | true =>
        simp only [Option.filter, Graph.entryOf, Enrichment.annotate, Graph.flags, followed,
          Json.isFalsy, Engine.lists, Bool.not_true, Bool.false_eq_true, if_false]
        exact ih
      | false =>
        simp only [Option.filter, Graph.entryOf, Enrichment.annotate, Graph.flags, followed,
          Json.isFalsy, Engine.lists, Bool.not_false, if_true, List.map_cons]
        exact congrArg (node.userId :: ·) ih

namespace Inquiry

variable {engine : Engine} {viewer : String}

/-- The candidates whom the request came to and its viewer had not been shown. -/
def newIds (engine : Engine) (viewer : String) (q : Inquiry) : List UserId :=
  (q.world.news engine viewer q.page q.limit).map UserNode.userId

/-- The users whom the response to the request lists, if it is a success. -/
def listed (engine : Engine) (viewer : String) (q : Inquiry) : List UserId :=
  match (q.world.perform (engine.request viewer q.page q.limit)).1 with
  | .ok r => if r.success then r.userIds else []
  | .error _ => []

/-- What becomes of the new candidates of a request. -/
theorem listed_eq {q : Inquiry} (memory : q.world.wiring.cacheOnServer = false)
    (wf : q.world.graph.WellFormed) :
    q.listed engine viewer =
      (q.newIds engine viewer).filter (engine.lists q.world.graph viewer) := by
  have performed := (q.world.perform_request engine viewer memory q.page q.limit).1
  rw [listed, performed]
  unfold Engine.answer newIds World.news
  cases offered : engine.offer q.world.graph viewer q.page q.limit with
  | error response =>
    dsimp only
    rw [Engine.userIds_of_offer_error offered, ite_self]
    rfl
  | ok nodes =>
    dsimp only
    rw [Response.userIds_paginated]
    exact (if_pos rfl).trans (engine.userIds_annotated_eq wf viewer _)

theorem mem_listed_iff {q : Inquiry} (memory : q.world.wiring.cacheOnServer = false)
    (wf : q.world.graph.WellFormed) {x : UserId} :
    x ∈ q.listed engine viewer ↔ x ∈ q.newIds engine viewer ∧
      (engine = .interests → q.world.graph.hasEdge ⟨.str viewer, x, .following⟩ = false) := by
  rw [listed_eq memory wf, List.mem_filter, Engine.lists_iff]

end Inquiry

/-! ## Runs -/

namespace World

variable {w : World} {engine : Engine} {viewer : String}

/-- The requests of one viewer to one engine in a run, the first of them first. -/
def inquiries (engine : Engine) (viewer : String) (w : World) : List Action → List Inquiry
  | [] => []
  | action :: rest =>
    (action.pageAsked? engine viewer).toList.map (fun asked => ⟨w, asked.1, asked.2⟩) ++
      inquiries engine viewer (w.act action).2 rest

/-- Stores in memory with a well-formed graph. -/
structure Intact (w : World) : Prop where
  memory : w.wiring.cacheOnServer = false
  wellFormed : w.graph.WellFormed

theorem Intact.act (h : w.Intact) (action : Action) : (w.act action).2.Intact where
  memory := by
    have same := w.wiring_actAll [action]
    exact (congrArg Wiring.cacheOnServer same).trans h.memory
  wellFormed := wellFormed_run action.program h.wellFormed

theorem Intact.inquiries (h : w.Intact) {actions : List Action} :
    ∀ q ∈ w.inquiries engine viewer actions, q.world.Intact := by
  induction actions generalizing w with
  | nil => exact fun _ there => by cases there
  | cons action rest ih =>
    intro q there
    rcases List.mem_append.1 there with now | later
    · obtain ⟨asked, -, rfl⟩ := List.mem_map.1 now
      exact h
    · exact ih (h.act action) q later

/-- An action adds to the record of a viewer only the new candidates of that viewer's request. -/
theorem mem_seen_act (memory : w.wiring.cacheOnServer = false) {action : Action} {x : UserId}
    (recorded : x ∈ (w.act action).2.seen engine viewer) :
    x ∈ w.seen engine viewer ∨
      ∃ q ∈ w.inquiries engine viewer [action], x ∈ q.newIds engine viewer := by
  have carried (h : Carries engine viewer w (w.act action).2) : x ∈ w.seen engine viewer :=
    h.seen_subset recorded
  cases action with
  | wait seconds =>
    refine .inl (carried ⟨?_, fun _ there _ => there, fun _ there => there⟩)
    exact Int.le_add_of_nonneg_right (Int.natCast_nonneg seconds)
  | askStored userId =>
    have avoids : ∀ c, c.Within (Action.askStored userId).effects → engine.Avoids viewer c :=
      Engine.avoids_of_within fun there => by cases there
    have uses := (Action.askStored userId).uses_effects.mono avoids
    obtain ⟨clock, entry⟩ := uses.run_keeps (keeps_entry engine viewer) w
    exact .inl (carried (.of_same ((Int.add_zero _).trans clock) entry))
  | perform op =>
    rw [act_perform] at recorded carried
    rcases engine.request_or_avoids viewer op with ⟨page, limit, rfl⟩ | avoids
    · rcases carries_or_adds memory engine viewer page limit with ⟨-, carries⟩ | ⟨-, adds⟩
      · exact .inl (carried carries)
      · refine (adds.mem_seen.1 recorded).imp_right fun new => ⟨⟨w, page, limit⟩, ?_, new⟩
        rw [inquiries, Action.pageAsked?_request]
        exact List.mem_append_left _ (List.mem_singleton.2 rfl)
    · have uses := op.uses_effects.mono (Engine.avoids_of_within avoids)
      obtain ⟨clock, entry⟩ := uses.run_keeps (keeps_entry engine viewer) w
      exact .inl (carried (.of_same clock entry))

/-- Whoever is recorded after a run was before it, or was a new candidate of a request in it. -/
theorem mem_seen_actAll (intact : w.Intact) {actions : List Action} {x : UserId}
    (recorded : x ∈ (w.actAll actions).seen engine viewer) :
    x ∈ w.seen engine viewer ∨
      ∃ q ∈ w.inquiries engine viewer actions, x ∈ q.newIds engine viewer := by
  induction actions generalizing w with
  | nil => exact .inl recorded
  | cons action rest ih =>
    rcases ih (intact.act action) recorded with before | ⟨q, later, new⟩
    · rcases mem_seen_act intact.memory before with old | ⟨q, now, new⟩
      · exact .inl old
      · rw [inquiries, inquiries, List.append_nil] at now
        exact .inr ⟨q, List.mem_append_left _ now, new⟩
    · exact .inr ⟨q, List.mem_append_right _ later, new⟩

/-- Empty stores in memory at some time. -/
def inMemory (clock : Int) : World := initial { cacheOnServer := false, channel := none } clock

theorem intact_inMemory (clock : Int) : (inMemory clock).Intact := ⟨rfl, Graph.wellFormed_empty⟩

/-- **Who is recorded was a candidate, and was listed unless followed.** Take any run from empty
stores, and an id that is live in the record of a viewer after it. Some earlier request of the
viewer to that engine came to the id as a new candidate. The id is in an earlier successful response
to the viewer if and only if one of these requests was for friends of friends, or found that the
viewer did not follow the candidate. So friends of friends are recorded only when listed, but users
with the same interests also when the viewer follows them and does not see them. -/
theorem listed_iff (clock : Int) (actions : List Action) (engine : Engine) (viewer : String)
    {x : UserId} (recorded : x ∈ ((inMemory clock).actAll actions).seen engine viewer) :
    let earlier := (inMemory clock).inquiries engine viewer actions
    (∃ q ∈ earlier, x ∈ q.newIds engine viewer) ∧
    ((∃ q ∈ earlier, x ∈ q.listed engine viewer) ↔
      ∃ q ∈ earlier, x ∈ q.newIds engine viewer ∧
        (engine = .interests →
          q.world.graph.hasEdge ⟨.str viewer, x, .following⟩ = false)) ∧
    (engine = .friends → ∃ q ∈ earlier, x ∈ q.listed engine viewer) := by
  intro earlier
  have intact := intact_inMemory clock
  have each (q : Inquiry) (there : q ∈ earlier) : x ∈ q.listed engine viewer ↔
      x ∈ q.newIds engine viewer ∧
        (engine = .interests → q.world.graph.hasEdge ⟨.str viewer, x, .following⟩ = false) :=
    Inquiry.mem_listed_iff (intact.inquiries q there).memory (intact.inquiries q there).wellFormed
  obtain ⟨q, there, new⟩ : ∃ q ∈ earlier, x ∈ q.newIds engine viewer :=
    (mem_seen_actAll intact recorded).resolve_left fun old => by cases old
  refine ⟨⟨q, there, new⟩, ?_, ?_⟩
  · exact exists_congr fun q => and_congr_right (each q)
  · rintro rfl
    exact ⟨q, there, (each q there).2 ⟨new, nofun⟩⟩

/-- Two users with a common interest, one of whom follows the other and then asks for users with the
same interests. -/
def acquaintance : List Action :=
  [.perform (.createUser ⟨.str "ann", .unknown, .int 0, .int 0, Eq.refl true⟩),
   .perform (.createUser ⟨.str "bob", .unknown, .int 0, .int 0, Eq.refl true⟩),
   .perform (.setInterests "ann" [.str "music"]), .perform (.setInterests "bob" [.str "music"]),
   .perform (.follow "ann" "bob"), .perform (.getInterestSuggestions "ann" 0 5)]

/-- Once the record of a followed user has run out, and the user is no longer followed, the next
request lists the user. -/
def reacquaintance : List Action :=
  acquaintance ++ [.wait 600, .perform (.unfollow "ann" "bob"),
    .perform (.getInterestSuggestions "ann" 0 5)]

theorem listed_iff_reacquaintance :
    .str "bob" ∈ ((inMemory 0).actAll reacquaintance).seen .interests "ann" ∧
    ∃ q ∈ (inMemory 0).inquiries .interests "ann" reacquaintance,
      .str "bob" ∈ q.listed .interests "ann" := by
  have recorded : .str "bob" ∈ ((inMemory 0).actAll reacquaintance).seen .interests "ann" := by
    decide +kernel
  obtain ⟨-, listed, -⟩ := listed_iff 0 reacquaintance .interests "ann" recorded
  refine ⟨recorded, listed.2 ?_⟩
  have free : ∃ q ∈ (inMemory 0).inquiries .interests "ann" reacquaintance,
      .str "bob" ∈ q.newIds .interests "ann" ∧
        q.world.graph.hasEdge ⟨.str "ann", .str "bob", .following⟩ = false := by decide +kernel
  obtain ⟨q, there, new, unfollowed⟩ := free
  exact ⟨q, there, new, fun _ => unfollowed⟩

/-- A followed user is recorded and has never been listed. When the viewer no longer follows the
user, the next request has this one candidate and lists nobody. -/
theorem recorded_unlisted_acquaintance :
    .str "bob" ∈ ((inMemory 0).actAll acquaintance).seen .interests "ann" ∧
    (∀ q ∈ (inMemory 0).inquiries .interests "ann" acquaintance,
      q.listed .interests "ann" = []) ∧
    let later : Inquiry :=
      ⟨((inMemory 0).actAll acquaintance).actAll [.perform (.unfollow "ann" "bob")], 0, 5⟩
    later.world.graph.hasEdge ⟨.str "ann", .str "bob", .following⟩ = false ∧
      ((Engine.interests.offer later.world.graph "ann" 0 5).toOption.map
        (·.map UserNode.userId)) = some [.str "bob"] ∧
      later.listed .interests "ann" = [] := by decide +kernel

end World
end FollowGraph
