import FollowGraph.Proofs.Graph.Texts
import FollowGraph.Proofs.Service.Annotation
import FollowGraph.Proofs.Service.Run
import FollowGraph.Proofs.Service.Seen
import FollowGraph.Proofs.Service.Tiers

/-!
# What a request for suggestions comes to

With nothing made to fail, a request is a function of four things: the graph, the ids that its
viewer has been shown, the page and the limit. `Engine.offer` are the users of the page before any
is left out, and `Engine.answer` is the response. The ids shown are asked for once and written once,
wherever they are kept (`World.recalled`, `World.recorded`), and `World.perform_request_any` says
that the services come to just that. With the cache in memory, `World.requested` are the stores
afterwards, which differ in the one cache entry of the viewer (`World.perform_request`).

A graph that is not well formed can make a listing fail, and then the response is that failure's;
nothing else is asked of the graph here.
-/

set_option autoImplicit false

namespace FollowGraph

open Attempt Response

/-- The candidates whose ids are not among those that were shown. -/
def SeenWindow.unseen (nodes : List UserNode) (seen : List UserId) : List UserNode :=
  nodes.filter fun u => !seen.contains u.userId

@[simp] theorem SeenWindow.unseen_nil (nodes : List UserNode) : unseen nodes [] = nodes :=
  List.filter_eq_self.2 fun _ _ => rfl

namespace Engine

/-! ## The answer -/

/-- The users of a page in the order of their listing, before any is left out. -/
def candidates (engine : Engine) (g : Graph) (viewer : String) (page limit : Int) :
    Except Failure (List UserNode) :=
  match engine with
  | .friends =>
    match Json.pageCount (.int (g.secondDegreeIds (.str viewer)).length) (.int limit) with
    | .error failure => .error failure
    | .ok start =>
      if page < start then g.nodePage (g.secondDegreeIds (.str viewer)) (.int page) (.int limit)
      else g.nodePage (g.thirdDegreeIds (.str viewer)) (.int start) (.int limit)
  | .interests => g.nodePage (g.sharingIds (.str viewer)) (.int page) (.int limit)

/-- A candidate as it is shown, if it is. -/
def annotated? : Engine → Graph → String → UserNode → Option EnrichedUser
  | .friends, g, viewer => g.annotated? (.str viewer)
  | .interests, g, viewer => g.annotatedUnfollowed? (.str viewer)

def successMessage : Engine → String
  | .friends => "Suggestions fetched successfully"
  | .interests => "Interest-based suggestions fetched successfully"

def failureMessage : Engine → String
  | .friends => "Failed to get suggestions"
  | .interests => "Failed to get interest-based suggestions"

/-- The candidates of a request, or the response that is given in place of any. -/
def offer (engine : Engine) (g : Graph) (viewer : String) (page limit : Int) :
    Except Response (List UserNode) :=
  match ofPage? page limit with
  | some refusal => .error refusal
  | none =>
    match engine.candidates g viewer page limit with
    | .error _ => .error (internalError engine.failureMessage)
    | .ok nodes => .ok nodes

/-- What a page of candidates says of itself, however many of them are shown. -/
def metaOf (nodes : List UserNode) (page limit : Int) : PageMeta :=
  { total := .int nodes.length, page := .int page, limit := .int limit
    isLastPage := .bool (decide ((nodes.length : Int) < limit)) }

/-- The response to a viewer who has been shown some ids. -/
def answer (engine : Engine) (g : Graph) (viewer : String) (page limit : Int)
    (seen : List UserId) : Response :=
  match engine.offer g viewer page limit with
  | .error response => response
  | .ok nodes =>
    let users := (SeenWindow.unseen nodes seen).filterMap (engine.annotated? g viewer)
    paginated engine.successMessage users (metaOf nodes page limit)

theorem candidates_of_offer {engine : Engine} {g : Graph} {viewer : String} {page limit : Int}
    {nodes : List UserNode} (h : engine.offer g viewer page limit = .ok nodes) :
    engine.candidates g viewer page limit = .ok nodes := by
  unfold offer at h
  split at h
  · cases h
  · split at h
    · cases h
    · rename_i listed
      cases h
      exact listed

/-- Candidates are users of the graph. -/
theorem found_of_candidates {engine : Engine} {g : Graph} {viewer : String} {page limit : Int}
    {nodes : List UserNode} (h : engine.candidates g viewer page limit = .ok nodes) :
    ∀ u ∈ nodes, ∃ userId, g.findNode userId = some u := by
  have of_page {ids : List UserId} {page : Json}
      (h : g.nodePage ids page (.int limit) = .ok nodes) :
      ∀ u ∈ nodes, ∃ userId, g.findNode userId = some u := by
    unfold Graph.nodePage at h
    split at h
    · cases h
    · exact Graph.found_of_mem_nodes h
  cases engine with
  | friends =>
    simp only [candidates] at h
    split at h
    · cases h
    · split at h <;> exact of_page h
  | interests =>
    simp only [candidates] at h
    exact of_page h

theorem isText_of_candidates {engine : Engine} {g : Graph} {viewer : String} {page limit : Int}
    {nodes : List UserNode} (h : engine.candidates g viewer page limit = .ok nodes) :
    ∀ u ∈ nodes, u.userId.isText = true := by
  intro u hu
  obtain ⟨userId, found⟩ := found_of_candidates h u hu
  exact Graph.isText_of_findNode found

theorem isText_of_offer {engine : Engine} {g : Graph} {viewer : String} {page limit : Int}
    {nodes : List UserNode} (h : engine.offer g viewer page limit = .ok nodes) :
    ∀ u ∈ nodes, u.userId.isText = true :=
  isText_of_candidates (candidates_of_offer h)

end Engine

namespace World

variable (w : World) (engine : Engine) (viewer : String)

/-! ## The cache -/

/-- The stores after a viewer was shown some users, none of them seen before. -/
def remember (shown : List UserNode) : World :=
  let cache := w.cache.touch w.clock (engine.key viewer)
  if shown.isEmpty then { w with cache }
  else
    { w with
      cache := cache.set (engine.key viewer)
        (.arr (Json.sortTexts (distinct (w.seen engine viewer ++ shown.map UserNode.userId))))
        (w.clock + engine.seconds) }

/-- The stores after a request. -/
def requested (page limit : Int) : World :=
  match engine.offer w.graph viewer page limit with
  | .error _ => w
  | .ok nodes => w.remember engine viewer (SeenWindow.unseen nodes (w.seen engine viewer))

@[simp] theorem remember_graph (shown : List UserNode) :
    (w.remember engine viewer shown).graph = w.graph := by
  unfold remember
  dsimp only
  split <;> rfl

/-- A request changes neither the graph nor the time. -/
theorem requested_fixed (page limit : Int) :
    (w.requested engine viewer page limit).graph = w.graph ∧
      (w.requested engine viewer page limit).clock = w.clock := by
  unfold requested
  split
  · exact ⟨rfl, rfl⟩
  · unfold remember
    dsimp only
    split <;> exact ⟨rfl, rfl⟩

/-- The ids that a request finds recorded for its viewer, wherever they are kept. -/
def recalled : List UserId := ((engine.window.seenIds (.str viewer)).run silent w).1

/-- The stores after the ids recorded for a viewer were asked for, and after those of some users
were added to them, if there are any. -/
def recorded (shown : List UserNode) : World :=
  let asked := ((engine.window.seenIds (.str viewer)).run silent w).2
  if shown.isEmpty then asked
  else
    ((engine.window.write (.str viewer)
      (.arr (Json.sortTexts (distinct (w.recalled engine viewer ++ shown.map UserNode.userId))))
      shown.length).run silent asked).2

/-- A program on stores without a log leaves the graph alone unless a call of it may change it. -/
theorem run_silent_graph {α : Type} {p : Program α} {effects : List Effect}
    (uses : p.Uses (Call.Within effects)) (out : ∀ e ∈ effects, ¬ e.InGraph) :
    (p.run silent w).2.graph = w.graph := by
  have same := congrArg World.graph (run_silent p w).2
  exact same.symm.trans (run_graph uses out w)

@[simp] theorem recorded_graph (shown : List UserNode) :
    (w.recorded engine viewer shown).graph = w.graph := by
  have out : ∀ e ∈ [Effect.cache (engine.key viewer)], ¬ e.InGraph := by simp [Effect.InGraph]
  have within {c : Call} (h : c.effect = some (.cache (engine.key viewer))) :
      c.Within [.cache (engine.key viewer)] := Call.within_of_effect h List.mem_cons_self
  have asked := (SeenWindow.obeys_seenIds engine.window (.str viewer) (within rfl)).uses
  unfold recorded
  dsimp only
  split
  · exact run_silent_graph w asked out
  · have written (value : Json) (new : Nat) :=
      (SeenWindow.obeys_write engine.window (.str viewer) value new (within rfl)).uses
    exact (run_silent_graph _ (written _ _) out).trans (run_silent_graph w asked out)

/-- Filtering users whose ids are texts. -/
theorem on_filterUnseen {nodes : List UserNode} (texts : ∀ u ∈ nodes, u.userId.isText = true) :
    (engine.window.filterUnseen (.str viewer) (.users nodes)).on silent w =
      (.ok (SeenWindow.unseen nodes (w.recalled engine viewer)),
        w.recorded engine viewer (SeenWindow.unseen nodes (w.recalled engine viewer))) := by
  have read : (engine.window.seenIds (.str viewer)).run silent w =
      (w.recalled engine viewer, ((engine.window.seenIds (.str viewer)).run silent w).2) := rfl
  exact SeenWindow.on_filterUnseen_users silent engine.window (.str viewer) texts read

/-! ### In memory -/

theorem run_seenIds (memory : w.wiring.cacheOnServer = false) :
    (engine.window.seenIds (.str viewer)).run silent w =
      (w.seen engine viewer, { w with cache := w.cache.touch w.clock (engine.key viewer) }) := by
  have asked : silent.answer (.cacheGet (engine.window.key (.str viewer))) w = _ :=
    answer_cacheGet memory (engine.window.requireHashable_key (.str viewer))
  simp only [SeenWindow.seenIds, run_catching, on_map, Ask.cacheGet, on_call, asked]
  rfl

theorem run_write (memory : w.wiring.cacheOnServer = false) (shown : Json) (new : Nat) :
    (engine.window.write (.str viewer) shown new).run silent w =
      ((), { w with
        cache := w.cache.set (engine.key viewer) shown (w.clock + engine.seconds) }) := by
  have set : silent.answer
      (.cacheSet (engine.window.key (.str viewer)) shown (.int engine.seconds)) w = _ :=
    answer_cacheSet memory (engine.window.requireHashable_key (.str viewer)) shown engine.seconds
  simp only [SeenWindow.write, run_catching, on_bind, Ask.cacheSet, on_call, engine.ttl_window, set,
    on_log]
  rfl

theorem recalled_of_memory (memory : w.wiring.cacheOnServer = false) :
    w.recalled engine viewer = w.seen engine viewer := by
  rw [recalled, run_seenIds w engine viewer memory]

theorem recorded_of_memory (memory : w.wiring.cacheOnServer = false) (shown : List UserNode) :
    w.recorded engine viewer shown = w.remember engine viewer shown := by
  have written := run_write { w with cache := w.cache.touch w.clock (engine.key viewer) } engine
    viewer memory
  simp only [recorded, remember, run_seenIds w engine viewer memory, written,
    recalled_of_memory w engine viewer memory]

/-! ## Requests -/

/-- Fetching a page is listing its candidates. -/
theorem on_fetchCandidates (page limit : Int) :
    ∃ tier start, (Suggestions.fetchCandidates (.str viewer) (.int page) (.int limit)).on silent w =
      ((Engine.friends.candidates w.graph viewer page limit).map fun nodes =>
        { users := .users nodes, total := nodes.length, tier, thirdDegreeStartPage := start
          isLastPage := decide ((nodes.length : Int) < limit) }, w) := by
  simp only [on_fetchCandidates_eq w (b := silent) rfl, Engine.candidates, Graph.tierStart]
  cases Json.pageCount (.int (w.graph.secondDegreeIds (.str viewer)).length) (.int limit) with
  | error failure => exact ⟨.second, 0, rfl⟩
  | ok start =>
    simp only [Except.bind, Graph.tierFrom]
    by_cases early : page < start
    · exact ⟨.second, start, by rw [if_pos early, if_pos early]; rfl⟩
    · exact ⟨.third, start, by rw [if_neg early, if_neg early]; rfl⟩

/-- The stores after a request, wherever the ids shown are kept. -/
def afterRequest (page limit : Int) : World :=
  match engine.offer w.graph viewer page limit with
  | .error _ => w
  | .ok nodes =>
    w.recorded engine viewer (SeenWindow.unseen nodes (w.recalled engine viewer))

/-- **A request is what its spec says**, on stores without a log. -/
theorem on_request (page limit : Int) :
    (engine.request viewer page limit).program.on silent w =
      (.ok (engine.answer w.graph viewer page limit (w.recalled engine viewer)),
        w.afterRequest engine viewer page limit) := by
  cases engine with
  | friends =>
    show (Suggestions.getSuggestions (.str viewer) (.int page) (.int limit)).on silent w = _
    simp only [Suggestions.getSuggestions, on_bind, checkPagination_int, on_ofExcept, Engine.answer,
      afterRequest, Engine.offer]
    cases ofPage? page limit with
    | some refusal => rfl
    | none =>
      obtain ⟨tier, start, fetched⟩ := w.on_fetchCandidates viewer page limit
      simp only [on_always, run_catching, on_bind, fetched, on_log, silent_record]
      cases listed : Engine.friends.candidates w.graph viewer page limit with
      | error failure => rfl
      | ok nodes =>
        have filtered := w.on_filterUnseen .friends viewer (Engine.isText_of_candidates listed)
        change (SeenWindow.suggestions.filterUnseen _ _).on silent w = _ at filtered
        simp only [Except.map, filtered, Enrichment.on_enrichMany, on_pure, recorded_graph]
        rfl
  | interests =>
    show (Interests.getSuggestions (.str viewer) (.int page) (.int limit)).on silent w = _
    have asked : (Ask.sharedInterestUsers (.str viewer) (.int page) (.int limit)).on silent w =
        ((Engine.interests.candidates w.graph viewer page limit).map .users, w) := rfl
    simp only [Interests.getSuggestions, on_bind, checkPagination_int, on_ofExcept, Engine.answer,
      afterRequest, Engine.offer]
    cases ofPage? page limit with
    | some refusal => rfl
    | none =>
      simp only [on_always, run_catching, on_bind, asked]
      cases listed : Engine.interests.candidates w.graph viewer page limit with
      | error failure => rfl
      | ok nodes =>
        have filtered := w.on_filterUnseen .interests viewer (Engine.isText_of_candidates listed)
        change (SeenWindow.interestSuggestions.filterUnseen _ _).on silent w = _ at filtered
        simp only [Except.map, filtered, Enrichment.on_enrichManyUnfollowed, on_pure,
          recorded_graph, pageMetaOf_users]
        rfl

/-- With the log, a request has the same response and leaves the same stores behind. -/
theorem perform_request_any (page limit : Int) :
    (w.perform (engine.request viewer page limit)).1 =
      .ok (engine.answer w.graph viewer page limit (w.recalled engine viewer)) ∧
    (w.perform (engine.request viewer page limit)).2.unlogged =
      (w.afterRequest engine viewer page limit).unlogged := by
  have silently := w.on_request engine viewer page limit
  obtain ⟨same, unlogged⟩ := run_silent (ExceptT.run (engine.request viewer page limit).program) w
  exact ⟨same.trans (congrArg Prod.fst silently),
    unlogged.trans (congrArg (fun outcome => outcome.2.unlogged) silently)⟩

/-- The services answer a request as its spec says, and leave the stores as it says but for the
log. -/
theorem perform_request (memory : w.wiring.cacheOnServer = false) (page limit : Int) :
    (w.perform (engine.request viewer page limit)).1 =
      .ok (engine.answer w.graph viewer page limit (w.seen engine viewer)) ∧
    (w.perform (engine.request viewer page limit)).2.unlogged =
      (w.requested engine viewer page limit).unlogged := by
  have left : w.afterRequest engine viewer page limit = w.requested engine viewer page limit := by
    simp only [afterRequest, requested, recorded_of_memory w engine viewer memory,
      recalled_of_memory w engine viewer memory]
  have performed := w.perform_request_any engine viewer page limit
  rwa [left, recalled_of_memory w engine viewer memory] at performed

end World
end FollowGraph
