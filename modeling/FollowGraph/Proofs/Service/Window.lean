import FollowGraph.Proofs.Service.Requests

/-!
# What is shown once is not shown again

Between two requests of one viewer anything can happen to the graph, by services or past them, and
any time can pass. `Turn` is one such event; the only calls left out are those that overwrite what
a viewer has been shown.

A turn does one of two things to the entry of a viewer. It carries the entry along, up to its expiry
(`World.Carries`), or it is a request of that viewer that came to someone new, and then the entry
begins a new window with all that it held (`World.Adds`). Two invariants of runs follow. An id stays
from the request that showed it for one window (`World.Remembers.takeAll`), so no request within
that window shows it again. And an entry never outlasts the window of the last request that wrote it
(`World.Expires.takeAll`), so a request after that window leaves nobody out.
-/

set_option autoImplicit false

namespace FollowGraph

/-- The ids of the users that a response lists, in their order. -/
def Response.userIds (r : Response) : List UserId :=
  r.users.filterMap fun e => e.userId.toOption

@[simp] theorem Response.userIds_paginated (message : String) (users : List EnrichedUser)
    (pageMeta : PageMeta) :
    (paginated message users pageMeta).userIds = users.map fun e => e.user.userId := by
  show (users.map Entity.enriched).filterMap (fun e => e.userId.toOption) = _
  rw [List.filterMap_map]
  exact congrFun (List.filterMap_eq_map (f := fun e : EnrichedUser => e.user.userId)) users

/-! ## One page -/

theorem nodup_pageOf {α : Type} {items : List α} (h : items.Nodup) (page limit : Int) :
    (pageOf items page limit).Nodup :=
  h.sublist ((List.drop_sublist _ _).trans (List.take_sublist _ _))

namespace Engine

variable {engine : Engine} {g : Graph} {viewer : String} {page limit : Int} {nodes : List UserNode}

/-- No listing has a user twice. -/
theorem nodup_candidates (wf : g.WellFormed) (texts : g.TextIds)
    (h : engine.candidates g viewer page limit = .ok nodes) :
    (nodes.map UserNode.userId).Nodup := by
  have of_page {ids : List UserId} (stored : g.Stores ids) (once : ids.Nodup) (page : Int)
      (h : g.nodePage ids (.int page) (.int limit) = .ok nodes) :
      (nodes.map UserNode.userId).Nodup := by
    rw [stored.nodePage] at h
    cases h
    have part : g.Stores (pageOf ids page limit) := stored.subset fun _ => mem_of_mem_slice
    rw [part.userIds_nodes texts]
    exact nodup_pageOf once page limit
  have second := of_page (wf.stores_secondDegreeIds (.str viewer)) (nodup_distinct _) page
  have third := of_page (wf.stores_thirdDegreeIds (.str viewer)) (nodup_distinct _)
  have sharing := of_page (Graph.stores_sharingIds g (.str viewer)) (wf.ids_nodup.filter _) page
  cases engine with
  | friends =>
    simp only [candidates] at h
    split at h
    · cases h
    · split at h
      · exact second h
      · exact third _ h
  | interests => exact sharing h

theorem user_of_annotated? {node : UserNode} {e : EnrichedUser}
    (h : engine.annotated? g viewer node = some e) : e.user = node := by
  cases engine with
  | friends => exact Graph.user_of_annotated? h
  | interests => exact Graph.user_of_annotatedUnfollowed? h

/-- Annotating leaves users out at most. -/
theorem userIds_annotated (engine : Engine) (g : Graph) (viewer : String) (nodes : List UserNode) :
    ((nodes.filterMap (engine.annotated? g viewer)).map fun e => e.user.userId).Sublist
      (nodes.map UserNode.userId) := by
  induction nodes with
  | nil => exact .slnil
  | cons node rest ih =>
    rw [List.filterMap_cons]
    cases found : engine.annotated? g viewer node with
    | none => exact ih.cons _
    | some e =>
      simp only [List.map_cons, user_of_annotated? found]
      exact ih.cons_cons _

theorem userIds_of_offer_error {response : Response}
    (h : engine.offer g viewer page limit = .error response) : response.userIds = [] := by
  unfold offer at h
  split at h
  · rename_i refusal refused
    cases h
    unfold Response.ofPage? at refused
    split at refused
    · cases refused
      rfl
    · cases refused
  · split at h <;> cases h
    rfl

end Engine

namespace World

/-- Stores as the services are meant to run on: a cache in memory, and a graph that is well formed
with texts for ids. -/
structure Ready (w : World) : Prop where
  memory : w.wiring.cacheOnServer = false
  wellFormed : w.graph.WellFormed
  textIds : w.graph.TextIds

/-- The candidates of a request whom its viewer has not been shown. -/
def news (w : World) (engine : Engine) (viewer : String) (page limit : Int) : List UserNode :=
  match engine.offer w.graph viewer page limit with
  | .error _ => []
  | .ok nodes => SeenWindow.unseen nodes (w.seen engine viewer)

variable {w v : World} {engine : Engine} {viewer : String}

/-- A response lists only users who are news to the viewer. -/
theorem userIds_answer (w : World) (engine : Engine) (viewer : String) (page limit : Int) :
    (engine.answer w.graph viewer page limit (w.seen engine viewer)).userIds.Sublist
      ((w.news engine viewer page limit).map UserNode.userId) := by
  unfold Engine.answer news
  cases offered : engine.offer w.graph viewer page limit with
  | error response =>
    dsimp only
    rw [Engine.userIds_of_offer_error offered]
    exact List.nil_sublist _
  | ok nodes =>
    dsimp only
    rw [Response.userIds_paginated]
    exact engine.userIds_annotated w.graph viewer _

theorem nodup_news (ready : w.Ready) (engine : Engine) (viewer : String) (page limit : Int) :
    ((w.news engine viewer page limit).map UserNode.userId).Nodup := by
  unfold news
  split
  · exact List.nodup_nil
  · rename_i nodes offered
    have once := Engine.nodup_candidates ready.wellFormed ready.textIds
      (Engine.candidates_of_offer offered)
    exact once.sublist (List.filter_sublist.map _)

theorem not_mem_seen_of_news {page limit : Int} {u : UserNode}
    (h : u ∈ w.news engine viewer page limit) : u.userId ∉ w.seen engine viewer := by
  unfold news at h
  split at h
  · cases h
  · simpa using (List.mem_filter.1 h).2

end World

/-! ## Turns -/

/-- One thing that happens to the stores: an operation, a call made past the services, or some time
that passes. -/
inductive Turn where
  | perform (op : Operation)
  | direct (c : Call)
  | wait (seconds : Nat)
  deriving DecidableEq

/-- A call brings no user into the graph whose id is no text. -/
def Call.GivesTextIds : Call → Prop
  | .graph call => Graph.GivesTextIds call
  | _ => True

/-- A call overwrites nothing that a viewer has been shown. -/
def Call.SparesSeen : Call → Prop
  | .cacheSet key .. | .cacheDelete key => ∀ (engine : Engine) viewer, key ≠ engine.key viewer
  | _ => True

/-- Users are given texts for ids, and only the services write what viewers have been shown. -/
def Turn.Fair : Turn → Prop
  | .perform (.createUser user) | .perform (.updateUser user) => user.userId.isText = true
  | .perform _ => True
  | .direct c => c.GivesTextIds ∧ c.SparesSeen
  | .wait _ => True

theorem Engine.fair_request (engine : Engine) (viewer : String) (page limit : Int) :
    (Turn.perform (engine.request viewer page limit)).Fair := by
  cases engine <;> trivial

namespace World

def take (w : World) : Turn → World
  | .perform op => (w.perform op).2
  | .direct c => (w.answer c).2
  | .wait seconds => { w with clock := w.clock + seconds }

/-- The stores after some turns, the first of them first. -/
def takeAll (w : World) : List Turn → World
  | [] => w
  | turn :: rest => (w.take turn).takeAll rest

variable {w v : World} {engine : Engine} {viewer : String} {turn : Turn}

/-! ### What turns keep -/

theorem keeps_ready : backend.Keeps Call.GivesTextIds fun w v : World => w.Ready → v.Ready where
  refl _ h := h
  trans first second h := second (first h)
  answer c w given h := by
    have answered := answered_answer c w
    refine ⟨(congrArg Wiring.cacheOnServer answered.fixed.2).trans h.memory,
      answered.wellFormed h.wellFormed, ?_⟩
    show (w.answer c).2.graph.TextIds
    rcases answered.graph_change with same | ⟨call, rfl, changed⟩
    · exact same ▸ h.textIds
    · exact h.textIds.change given changed
  record _ _ h := ⟨h.memory, h.wellFormed, h.textIds⟩

theorem givesTextIds_of_makes {op : Operation} (fair : (Turn.perform op).Fair) (c : Call)
    (h : op.Makes c) : c.GivesTextIds := by
  rcases h with read | writes
  · cases c with
    | graph call => cases call <;> trivial
    | _ => trivial
  · cases writes <;> exact fair

theorem Ready.take (h : w.Ready) (fair : turn.Fair) : (w.take turn).Ready := by
  cases turn with
  | perform op =>
    exact (op.uses_makes.mono (givesTextIds_of_makes fair)).run_keeps keeps_ready w h
  | direct c => exact keeps_ready.answer c w fair.1 h
  | wait seconds => exact ⟨h.memory, h.wellFormed, h.textIds⟩

theorem Ready.takeAll (h : w.Ready) {turns : List Turn} (fair : ∀ turn ∈ turns, turn.Fair) :
    (w.takeAll turns).Ready := by
  induction turns generalizing w with
  | nil => exact h
  | cons turn rest ih =>
    obtain ⟨first, others⟩ := List.forall_mem_cons.1 fair
    exact ih (h.take first) others

/-! ### What a turn does to an entry -/

/-- The entry of a viewer is the one there was; it is gone only if it had expired. -/
structure Carries (engine : Engine) (viewer : String) (w v : World) : Prop where
  clock : w.clock ≤ v.clock
  kept : ∀ entry, w.cache.entry? (engine.key viewer) = some entry → w.clock < entry.expiresAt →
    v.cache.entry? (engine.key viewer) = some entry
  of_entry : ∀ entry, v.cache.entry? (engine.key viewer) = some entry →
    w.cache.entry? (engine.key viewer) = some entry

/-- The entry of a viewer begins a new window, with all ids that it held and some new ones. -/
structure Adds (engine : Engine) (viewer : String) (w : World) (new : List UserId) (v : World) :
    Prop where
  clock : v.clock = w.clock
  entry : ∃ shown,
    v.cache.entry? (engine.key viewer) = some ⟨shown, w.clock + engine.seconds⟩ ∧
      ∀ x, x ∈ SeenWindow.idsOf (.plain shown) ↔ x ∈ w.seen engine viewer ∨ x ∈ new

/-- What is carried along can run out, and nothing comes to it. -/
theorem Carries.seen_subset (h : Carries engine viewer w v) :
    v.seen engine viewer ⊆ w.seen engine viewer := by
  intro x hx
  cases there : v.cache.entry? (engine.key viewer) with
  | none =>
    rw [seen, Cache.live?, there] at hx
    cases hx
  | some entry =>
    by_cases alive : v.clock < entry.expiresAt
    · rw [seen_of_entry there alive] at hx
      rwa [seen_of_entry (h.of_entry entry there) (Int.lt_of_le_of_lt h.clock alive)]
    · rw [seen, Cache.live?, there] at hx
      simp only [if_pos (Int.not_lt.1 alive)] at hx
      cases hx

theorem Adds.mem_seen {new : List UserId} (h : Adds engine viewer w new v) {x : UserId} :
    x ∈ v.seen engine viewer ↔ x ∈ w.seen engine viewer ∨ x ∈ new := by
  obtain ⟨shown, there, held⟩ := h.entry
  have lasts : 0 < engine.seconds := by cases engine <;> decide
  rw [seen_of_entry there (by rw [h.clock]; show _ < w.clock + _; omega)]
  exact held x

theorem Carries.of_same (clock : v.clock = w.clock)
    (entry : v.cache.entry? (engine.key viewer) = w.cache.entry? (engine.key viewer)) :
    Carries engine viewer w v where
  clock := Int.le_of_eq clock.symm
  kept _ there _ := entry.trans there
  of_entry _ there := entry.symm.trans there

theorem carries_touch (w : World) (engine : Engine) (viewer : String) :
    Carries engine viewer w { w with cache := w.cache.touch w.clock (engine.key viewer) } where
  clock := Int.le_refl _
  kept entry there alive := by
    show Cache.entry? (w.cache.touch _ _) _ = _
    rw [Cache.touch_eq_self there alive]
    exact there
  of_entry _ there := Cache.entry?_of_touch there

theorem keeps_entry (engine : Engine) (viewer : String) :
    backend.Keeps (engine.Avoids viewer) fun w v : World => v.clock = w.clock ∧
      v.cache.entry? (engine.key viewer) = w.cache.entry? (engine.key viewer) where
  refl _ := ⟨rfl, rfl⟩
  trans first second := ⟨second.1.trans first.1, second.2.trans first.2⟩
  answer c w avoids :=
    ⟨(answered_answer c w).fixed.1, (answered_answer c w).entry_eq avoids⟩
  record _ _ := ⟨rfl, rfl⟩

theorem carries_answer (memory : w.wiring.cacheOnServer = false) {c : Call}
    (spares : c.SparesSeen) : Carries engine viewer w (w.answer c).2 := by
  by_cases avoids : engine.Avoids viewer c
  · obtain ⟨clock, entry⟩ := (keeps_entry engine viewer).answer c w avoids
    exact .of_same clock entry
  · have own : c.effect = some (.cache (engine.key viewer)) := Classical.not_not.1 avoids
    cases c with
    | cacheGet key =>
      cases own
      have asked : w.answer (.cacheGet (engine.key viewer)) = _ := answer_cacheGet memory (engine.window.requireHashable_key (.str viewer))
      rw [asked]
      exact carries_touch w engine viewer
    | cacheSet key value ttl =>
      cases own
      exact absurd rfl (spares engine viewer)
    | cacheDelete key =>
      cases own
      exact absurd rfl (spares engine viewer)
    | graph call => cases call <;> cases own
    | publish _ _ | presetMutualCount _ _ => cases own

/-- Sorted texts hold the texts there were. -/
theorem mem_idsOf_sortTexts {ids : List UserId} (texts : ∀ x ∈ ids, x.isText = true) {x : UserId} :
    x ∈ SeenWindow.idsOf (.plain (.arr (Json.sortTexts ids))) ↔ x ∈ ids := by
  have perm := Json.sorted_perm (Json.sorted_of_texts texts)
  have same : (Json.sortTexts ids).map Json.asText = Json.sortTexts ids := by
    conv => rhs; rw [← List.map_id (Json.sortTexts ids)]
    exact List.map_congr_left fun x hx => Json.asText_of_isText (texts x (perm.mem_iff.1 hx))
  rw [SeenWindow.idsOf, mem_distinct, same]
  exact perm.mem_iff

theorem adds_set (w : World) (engine : Engine) (viewer : String) {new : List UserId}
    (texts : ∀ x ∈ new, x.isText = true) (cache : Cache) :
    Adds engine viewer w new
      { w with
        cache := cache.set (engine.key viewer)
          (.arr (Json.sortTexts (distinct (w.seen engine viewer ++ new))))
          (w.clock + engine.seconds) } where
  clock := rfl
  entry := by
    have all_texts : ∀ x ∈ distinct (w.seen engine viewer ++ new), x.isText = true := by
      intro x hx
      rcases List.mem_append.1 (mem_distinct.1 hx) with old | hx
      · exact SeenWindow.isText_of_mem_idsOf old
      · exact texts x hx
    refine ⟨_, Cache.entry?_set_self, fun x => ?_⟩
    rw [mem_idsOf_sortTexts all_texts, mem_distinct, List.mem_append]

/-- Only what a request leaves in the cache counts for the entry, and not the log. -/
theorem Carries.of_unlogged {u : World} (same : v.unlogged = u.unlogged)
    (h : Carries engine viewer w u) : Carries engine viewer w v := by
  have clock : v.clock = u.clock :=
    (congrArg World.clock same : v.unlogged.clock = u.unlogged.clock)
  have cache : v.cache = u.cache :=
    (congrArg World.cache same : v.unlogged.cache = u.unlogged.cache)
  exact ⟨clock ▸ h.clock, cache ▸ h.kept, cache ▸ h.of_entry⟩

theorem Adds.of_unlogged {u : World} {new : List UserId} (same : v.unlogged = u.unlogged)
    (h : Adds engine viewer w new u) : Adds engine viewer w new v := by
  have clock : v.clock = u.clock :=
    (congrArg World.clock same : v.unlogged.clock = u.unlogged.clock)
  have cache : v.cache = u.cache :=
    (congrArg World.cache same : v.unlogged.cache = u.unlogged.cache)
  exact ⟨clock.trans h.clock, cache ▸ h.entry⟩

/-- A request that comes to nobody new carries the entry of its viewer along; one that comes to
somebody adds them. -/
theorem carries_or_adds (memory : w.wiring.cacheOnServer = false) (engine : Engine)
    (viewer : String) (page limit : Int) :
    let new := w.news engine viewer page limit
    let v := (w.perform (engine.request viewer page limit)).2
    (new = [] ∧ Carries engine viewer w v) ∨
      (new ≠ [] ∧ Adds engine viewer w (new.map UserNode.userId) v) := by
  intro new v
  have left : v.unlogged = (w.requested engine viewer page limit).unlogged :=
    (w.perform_request engine viewer memory page limit).2
  unfold requested at left
  cases offered : engine.offer w.graph viewer page limit with
  | error response =>
    rw [offered] at left
    have none_new : new = [] := by
      show w.news engine viewer page limit = []
      rw [news, offered]
    exact .inl ⟨none_new, .of_unlogged left (.of_same rfl rfl)⟩
  | ok nodes =>
    rw [offered] at left
    have is_new : SeenWindow.unseen nodes (w.seen engine viewer) = new := by
      show _ = w.news engine viewer page limit
      rw [news, offered]
    have texts : ∀ x ∈ new.map UserNode.userId, x.isText = true := by
      intro x hx
      obtain ⟨u, hu, rfl⟩ := List.mem_map.1 hx
      exact Engine.isText_of_offer offered u (List.mem_filter.1 (is_new ▸ hu)).1
    dsimp only at left
    rw [is_new] at left
    unfold remember at left
    cases empty : new.isEmpty with
    | true =>
      rw [empty] at left
      exact .inl ⟨List.isEmpty_iff.1 empty, .of_unlogged left (w.carries_touch engine viewer)⟩
    | false =>
      rw [empty] at left
      refine .inr ⟨?_, .of_unlogged left (w.adds_set engine viewer texts _)⟩
      exact fun none_new => by simp [none_new] at empty

theorem take_request (ready : w.Ready) (engine : Engine) (viewer : String) (page limit : Int) :
    let new := w.news engine viewer page limit
    let v := w.take (.perform (engine.request viewer page limit))
    (new = [] ∧ Carries engine viewer w v) ∨
      (new ≠ [] ∧ Adds engine viewer w (new.map UserNode.userId) v) :=
  carries_or_adds ready.memory engine viewer page limit

/-- Any other turn carries the entry along. -/
theorem take_other (ready : w.Ready) (fair : turn.Fair)
    (other : ∀ page limit, turn ≠ .perform (engine.request viewer page limit)) :
    Carries engine viewer w (w.take turn) := by
  cases turn with
  | perform op =>
    rcases engine.request_or_avoids viewer op with ⟨page, limit, rfl⟩ | avoids
    · exact absurd rfl (other page limit)
    · have uses := op.uses_effects.mono (Engine.avoids_of_within avoids)
      obtain ⟨clock, entry⟩ := uses.run_keeps (keeps_entry engine viewer) w
      exact .of_same clock entry
  | direct c => exact carries_answer ready.memory fair.2
  | wait seconds =>
    exact ⟨Int.le_add_of_nonneg_right (Int.natCast_nonneg seconds), fun _ there _ => there,
      fun _ there => there⟩

/-- A turn carries the entry of a viewer along or adds to it what is news in a request. -/
theorem take_cases (ready : w.Ready) (fair : turn.Fair) (engine : Engine) (viewer : String) :
    Carries engine viewer w (w.take turn) ∨
      ∃ page limit, turn = .perform (engine.request viewer page limit) ∧
        w.news engine viewer page limit ≠ [] ∧
        Adds engine viewer w ((w.news engine viewer page limit).map UserNode.userId)
          (w.take turn) := by
  by_cases own : ∃ page limit, turn = .perform (engine.request viewer page limit)
  · obtain ⟨page, limit, rfl⟩ := own
    rcases take_request ready engine viewer page limit with ⟨-, carries⟩ | ⟨some_new, adds⟩
    · exact .inl carries
    · exact .inr ⟨page, limit, rfl, some_new, adds⟩
  · exact .inl (take_other ready fair fun page limit same => own ⟨page, limit, same⟩)

theorem clock_le_take (ready : w.Ready) (fair : turn.Fair) : w.clock ≤ (w.take turn).clock := by
  -- Any viewer will do: the clock is the same for all.
  rcases take_cases ready fair .friends "" with carries | ⟨_, _, _, _, adds⟩
  · exact carries.clock
  · exact Int.le_of_eq adds.clock.symm

theorem clock_le_takeAll (ready : w.Ready) {turns : List Turn} (fair : ∀ turn ∈ turns, turn.Fair) :
    w.clock ≤ (w.takeAll turns).clock := by
  induction turns generalizing w with
  | nil => exact Int.le_refl _
  | cons turn rest ih =>
    obtain ⟨first, others⟩ := List.forall_mem_cons.1 fair
    exact Int.le_trans (clock_le_take ready first) (ih (ready.take first) others)

/-! ### What is remembered -/

/-- Some ids are in the entry of a viewer up to some time, which lies within one window from now. -/
structure Remembers (engine : Engine) (viewer : String) (ids : List UserId) (time : Int)
    (w : World) : Prop where
  soon : time ≤ w.clock + engine.seconds
  entry : ∃ entry, w.cache.entry? (engine.key viewer) = some entry ∧ time ≤ entry.expiresAt ∧
    ∀ x ∈ ids, x ∈ SeenWindow.idsOf (.plain entry.value)

variable {ids : List UserId} {time : Int}

theorem Remembers.mem_seen (h : Remembers engine viewer ids time w) (early : w.clock < time) :
    ∀ x ∈ ids, x ∈ w.seen engine viewer := by
  obtain ⟨entry, there, late, held⟩ := h.entry
  rw [seen_of_entry there (by omega)]
  exact held

/-- Whoever a request adds is remembered for one window from then on. -/
theorem Adds.remembers (h : Adds engine viewer w ids v) :
    Remembers engine viewer ids (w.clock + engine.seconds) v := by
  obtain ⟨shown, there, held⟩ := h.entry
  refine ⟨Int.le_of_eq (by rw [h.clock]), _, there, Int.le_refl _, fun x hx => ?_⟩
  exact (held x).2 (.inr hx)

theorem Remembers.take (h : Remembers engine viewer ids time w) (ready : w.Ready)
    (fair : turn.Fair) (early : w.clock < time) :
    Remembers engine viewer ids time (w.take turn) := by
  have onward := clock_le_take ready fair
  have soon : time ≤ (w.take turn).clock + engine.seconds := by
    have := h.soon
    omega
  rcases take_cases ready fair engine viewer with carries | ⟨page, limit, -, -, adds⟩
  · obtain ⟨entry, there, late, held⟩ := h.entry
    exact ⟨soon, entry, carries.kept entry there (by omega), late, held⟩
  · -- The write begins a window, which lasts longer, with all ids that were live.
    obtain ⟨shown, there, held⟩ := adds.entry
    exact ⟨soon, _, there, h.soon, fun x hx => (held x).2 (.inl (h.mem_seen early x hx))⟩

/-- What is remembered stays remembered along a run, as long as its time has not come. -/
theorem Remembers.takeAll (h : Remembers engine viewer ids time w) (ready : w.Ready)
    {turns : List Turn} (fair : ∀ turn ∈ turns, turn.Fair)
    (early : (w.takeAll turns).clock < time) :
    Remembers engine viewer ids time (w.takeAll turns) := by
  induction turns generalizing w with
  | nil => exact h
  | cons turn rest ih =>
    obtain ⟨first, others⟩ := List.forall_mem_cons.1 fair
    have now : w.clock < time :=
      Int.lt_of_le_of_lt (clock_le_takeAll ready fair) early
    exact ih (h.take ready first now) (ready.take first) others early

/-! ### What has lapsed -/

/-- A request of a viewer that came to someone new did so a whole window before some time. -/
def Lapses (engine : Engine) (viewer : String) (time : Int) (w : World) (turn : Turn) : Prop :=
  ∀ page limit, turn = .perform (engine.request viewer page limit) →
    w.news engine viewer page limit ≠ [] → w.clock + engine.seconds ≤ time

/-- All requests of a viewer along a run that came to someone new did so a whole window before some
time. -/
def Lapsed (engine : Engine) (viewer : String) (time : Int) : World → List Turn → Prop
  | _, [] => True
  | w, turn :: rest =>
    w.Lapses engine viewer time turn ∧ Lapsed engine viewer time (w.take turn) rest

/-- The entry of a viewer, if there is one, expires by some time. -/
def Expires (engine : Engine) (viewer : String) (time : Int) (w : World) : Prop :=
  ∀ entry, w.cache.entry? (engine.key viewer) = some entry → entry.expiresAt ≤ time

theorem Expires.take (h : w.Expires engine viewer time) (ready : w.Ready) (fair : turn.Fair)
    (lapses : w.Lapses engine viewer time turn) : (w.take turn).Expires engine viewer time := by
  intro entry there
  rcases take_cases ready fair engine viewer with carries | ⟨page, limit, request, some_new, adds⟩
  · exact h entry (carries.of_entry entry there)
  · obtain ⟨shown, written, -⟩ := adds.entry
    cases written.symm.trans there
    exact lapses page limit request some_new

theorem Expires.takeAll (h : w.Expires engine viewer time) (ready : w.Ready) {turns : List Turn}
    (fair : ∀ turn ∈ turns, turn.Fair) (lapsed : w.Lapsed engine viewer time turns) :
    (w.takeAll turns).Expires engine viewer time := by
  induction turns generalizing w with
  | nil => exact h
  | cons turn rest ih =>
    obtain ⟨first, others⟩ := List.forall_mem_cons.1 fair
    exact ih (h.take ready first lapsed.1) (ready.take first) others lapsed.2

theorem Expires.seen_eq_nil (h : w.Expires engine viewer w.clock) : w.seen engine viewer = [] := by
  unfold seen Cache.live?
  cases there : w.cache.entry? (engine.key viewer) with
  | none => rfl
  | some entry =>
    dsimp only
    rw [if_pos (h entry there)]
    rfl

/-! ## Whole runs -/

/-- **No user is suggested twice within a window.** Let stores be as they are meant to be, and let
any turns be taken. A request then lists no user twice, and whatever turns are taken after it, no
request of the same viewer lists a user of it again before the window has passed, on whichever page.
And when all that was written for the viewer was written a whole window ago, nobody on the page is
left out for having been shown. -/
theorem shown_once (ready : w.Ready) (engine : Engine) (viewer : String) (before : List Turn)
    (fair : ∀ turn ∈ before, turn.Fair) (page limit : Int) :
    let now := w.takeAll before
    ∃ first, (now.perform (engine.request viewer page limit)).1 = .ok first ∧
      first.userIds.Nodup ∧
      (∀ between : List Turn, (∀ turn ∈ between, turn.Fair) → ∀ page' limit' : Int,
        let later := (now.take (.perform (engine.request viewer page limit))).takeAll between
        later.clock < now.clock + engine.seconds →
        ∃ second, (later.perform (engine.request viewer page' limit')).1 = .ok second ∧
          ∀ x ∈ first.userIds, x ∉ second.userIds) ∧
      (w.Expires engine viewer now.clock → w.Lapsed engine viewer now.clock before →
        ∀ nodes, engine.offer now.graph viewer page limit = .ok nodes →
          first.users = (nodes.filterMap (engine.annotated? now.graph viewer)).map .enriched) := by
  intro now
  have ready_now : now.Ready := ready.takeAll fair
  have listed := now.userIds_answer engine viewer page limit
  refine ⟨_, (now.perform_request engine viewer ready_now.memory page limit).1, ?_, ?_, ?_⟩
  · exact (nodup_news ready_now engine viewer page limit).sublist listed
  · intro between fair_between page' limit' later early
    have ready_next := ready_now.take (engine.fair_request viewer page limit)
    have ready_later : later.Ready := ready_next.takeAll fair_between
    refine ⟨_, (later.perform_request engine viewer ready_later.memory page' limit').1, ?_⟩
    intro x shown again
    have shown_new := listed.subset shown
    obtain ⟨u, news_again, rfl⟩ :=
      List.mem_map.1 ((later.userIds_answer engine viewer page' limit').subset again)
    rcases take_request ready_now engine viewer page limit with ⟨none_new, -⟩ | ⟨-, adds⟩
    · rw [none_new] at shown_new
      cases shown_new
    · have remembers := adds.remembers.takeAll ready_next fair_between early
      exact not_mem_seen_of_news news_again (remembers.mem_seen early _ shown_new)
  · intro expires lapsed nodes offered
    have nothing : now.seen engine viewer = [] := (expires.takeAll ready fair lapsed).seen_eq_nil
    rw [Engine.answer, offered, nothing]
    show (List.map _ _) = _
    rw [SeenWindow.unseen_nil]

theorem ready_ofFollows (userIds : List String) (follows : List (String × String)) :
    ({ empty with graph := .ofFollows userIds follows } : World).Ready where
  memory := rfl
  wellFormed := Graph.wellFormed_ofFollows userIds follows
  textIds := Graph.textIds_ofFollows userIds follows

/-- A user follows another, who follows two more. -/
def befriended : World :=
  { empty with
    graph := .ofFollows ["ann", "bob", "cid", "dee"]
      [("ann", "bob"), ("bob", "cid"), ("bob", "dee")] }

/-- An edge that goes, a user who follows back, and nearly five minutes. -/
def meanwhile : List Turn :=
  [.direct (.graph (.deleteEdge (.str "bob") (.str "dee") .following)),
   .perform (.follow "dee" "ann"), .wait 299]

/-- The user of a first page is not on a second one within five minutes, and after five minutes
nobody is left out. -/
theorem shown_once_befriended :
    (∃ first second,
      (befriended.perform (.getSuggestions "ann" 0 1)).1 = .ok first ∧
      first.userIds = [.str "cid"] ∧
      (((befriended.take (.perform (.getSuggestions "ann" 0 1))).takeAll meanwhile).perform
        (.getSuggestions "ann" 0 5)).1 = .ok second ∧
      .str "cid" ∉ second.userIds) ∧
    (let now := befriended.takeAll [.perform (.getSuggestions "ann" 0 1), .wait 300]
      ∃ later, (now.perform (.getSuggestions "ann" 0 5)).1 = .ok later ∧
        ∀ nodes, Engine.friends.offer now.graph "ann" 0 5 = .ok nodes →
          later.users = (nodes.filterMap (now.graph.annotated? (.str "ann"))).map .enriched) := by
  have ready : befriended.Ready := ready_ofFollows _ _
  constructor
  · obtain ⟨first, performed, -, within, -⟩ :=
      shown_once ready .friends "ann" [] (by simp) 0 1
    obtain ⟨second, again, fresh⟩ := within meanwhile
      (by simp [meanwhile, Turn.Fair, Call.GivesTextIds, Call.SparesSeen, Graph.GivesTextIds])
      0 5 (by decide +kernel)
    have ids : first.userIds = [.str "cid"] := by
      have listed : (befriended.perform (.getSuggestions "ann" 0 1)).1.toOption.map
          Response.userIds = some [.str "cid"] := by decide +kernel
      have shown := congrArg (fun r => r.toOption.map Response.userIds) performed
      exact Option.some.inj (shown.symm.trans listed)
    refine ⟨first, second, performed, ids, again, fresh _ ?_⟩
    rw [ids]
    exact List.mem_singleton.2 rfl
  · obtain ⟨later, performed, -, -, unfiltered⟩ := shown_once ready .friends "ann"
      [.perform (.getSuggestions "ann" 0 1), .wait 300] (by simp [Turn.Fair]) 0 5
    refine ⟨later, performed, unfiltered (fun entry there => by cases there) ⟨?_, ?_, trivial⟩⟩
    · -- Five minutes have passed since the only write.
      exact fun _ _ _ _ => by decide +kernel
    · exact fun _ _ same => by cases same

end World
end FollowGraph
