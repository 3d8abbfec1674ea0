import FollowGraph.Proofs.Service.Action
import FollowGraph.Proofs.Service.Window

/-!
# What suggestions do not depend on

What one viewer is shown by one engine depends on the graph, the time and one entry of the cache,
the viewer's own (`World.view`). An action that changes nothing but other entries leaves that view
as it is, and an action that touches no other entry brings back the same on any stores with the same
view. Every action is of the first kind or of the second, and those that only read are of both: two
runs, one of which leaves out some actions of the first kind, have the same view all along
(`World.view_actAll`).

That every viewer has an entry of its own for each engine rests on the keys, which differ whatever
the ids are (`Engine.key_inj`).
-/

set_option autoImplicit false

namespace FollowGraph

/-! ## Actions -/

/-- The operations that only read. -/
def Operation.isReading : Operation → Bool
  | .getUser _ | .getFollowing .. | .getFollowers .. | .getBlocked .. | .mutualFollowers ..
  | .searchFollowers .. | .searchFollowing .. | .getInterests _ => true
  | _ => false

namespace Action

variable {engine : Engine} {viewer : String} {action : Action}

/-- A request for suggestions that is another viewer's, or that goes to the other engine. -/
def Foreign (engine : Engine) (viewer : String) (action : Action) : Prop :=
  ∃ (other : Engine) (asking : String) (page limit : Int),
    action = .perform (other.request asking page limit) ∧ ¬ (other = engine ∧ asking = viewer)

/-- What a viewer's suggestions from an engine do not depend on: reading and foreign requests. -/
def Idle (engine : Engine) (viewer : String) (action : Action) : Prop :=
  action.Foreign engine viewer ∨
    match action with
    | .perform op => op.isReading
    | .askStored _ => True
    | .wait _ => False

end Action

/-- An entry of the cache that is not the one of a viewer. -/
def Effect.Outside (engine : Engine) (viewer : String) (e : Effect) : Prop :=
  ∃ key, e = .cache key ∧ key ≠ engine.key viewer

namespace Action

variable {engine : Engine} {viewer : String} {action : Action}

theorem effects_request (engine : Engine) (viewer : String) (page limit : Int) :
    (engine.request viewer page limit).effects = [.cache (engine.key viewer)] := by
  cases engine <;> rfl

theorem outside_of_foreign (h : action.Foreign engine viewer) :
    ∀ e ∈ action.effects, e.Outside engine viewer := by
  obtain ⟨other, asking, page, limit, rfl, differ⟩ := h
  intro e there
  rw [effects, effects_request, List.mem_singleton] at there
  exact ⟨_, there, fun same => differ (Engine.key_inj same)⟩

theorem outside_of_idle (h : action.Idle engine viewer) :
    ∀ e ∈ action.effects, e.Outside engine viewer := by
  rcases h with foreign | reading
  · exact outside_of_foreign foreign
  · cases action with
    | perform op =>
      have none_there : op.effects = [] := by
        cases op <;> first | rfl | cases reading
      intro e there
      rw [effects, none_there] at there
      cases there
    | askStored userId => exact fun _ there => by cases there
    | wait seconds => cases reading

theorem seconds_of_idle (h : action.Idle engine viewer) : action.seconds = 0 := by
  rcases h with ⟨_, _, _, _, rfl, -⟩ | reading
  · rfl
  · cases action with
    | wait seconds => cases reading
    | _ => rfl

/-- Only a foreign request touches a foreign entry. -/
theorem not_outside_of_not_foreign (h : ¬ action.Foreign engine viewer) :
    ∀ e ∈ action.effects, ¬ e.Outside engine viewer := by
  rintro e there ⟨key, rfl, differ⟩
  have of_request (other : Engine) {asking : String} {page limit : Int}
      (same : action = .perform (other.request asking page limit)) : key = engine.key viewer := by
    have own : other = engine ∧ asking = viewer :=
      Classical.not_not.1 fun foreign => h ⟨other, asking, page, limit, same, foreign⟩
    rw [same, effects, effects_request, List.mem_singleton] at there
    rw [Effect.cache.inj there, own.1, own.2]
  cases action with
  | perform op =>
    cases op with
    | getSuggestions asking page limit => exact differ (of_request .friends rfl)
    | getInterestSuggestions asking page limit => exact differ (of_request .interests rfl)
    | _ => simp [effects, Operation.effects] at there
  | askStored userId => cases there
  | wait seconds => cases there

end Action

/-! ## Views -/

/-- What the suggestions of one viewer from one engine can depend on. The published events are a
part of it, although no suggestions depend on them. -/
structure View where
  wiring : Wiring
  graph : Graph
  events : List Event
  clock : Int
  entry : Option CacheEntry

namespace World

def view (engine : Engine) (viewer : String) (w : World) : View :=
  { wiring := w.wiring, graph := w.graph, events := w.events, clock := w.clock
    entry := w.cache.entry? (engine.key viewer) }

variable {engine : Engine} {viewer : String} {w t : World} {c : Call}

/-- A call that changes nothing but a foreign entry leaves the view as it is. -/
theorem keeps_view (engine : Engine) (viewer : String) :
    backend.Keeps (fun c => ∀ e ∈ c.effect, e.Outside engine viewer) fun w v : World =>
      v.view engine viewer = w.view engine viewer where
  refl _ := rfl
  trans first second := second.trans first
  answer c w outside := by
    have answered := answered_answer c w
    have graph := answered.graph_eq fun e he => by
      obtain ⟨key, rfl, -⟩ := outside e he
      exact id
    have events := answered.events_eq fun he => by
      obtain ⟨key, differ, -⟩ := outside _ he
      cases differ
    have foreign : c.effect ≠ some (.cache (engine.key viewer)) := fun he => by
      obtain ⟨key, same, differ⟩ := outside _ he
      exact differ (Effect.cache.inj same).symm
    have entry := answered.entry_eq foreign
    obtain ⟨clock, wiring⟩ := answered.fixed
    show View.mk _ _ _ _ _ = View.mk _ _ _ _ _
    exact View.mk.injEq .. ▸ ⟨wiring, graph, events, clock, entry⟩
  record _ _ := rfl

/-- A call that touches no foreign entry is answered alike on stores with the same view. -/
theorem answer_view (memory : w.wiring.cacheOnServer = false)
    (same : w.view engine viewer = t.view engine viewer)
    (own : ∀ e ∈ c.effect, ¬ e.Outside engine viewer) :
    (w.answer c).1 = (t.answer c).1 ∧
      (w.answer c).2.view engine viewer = (t.answer c).2.view engine viewer := by
  obtain ⟨wiring, graph, cache, events, server, clock, log⟩ := w
  obtain ⟨_, _, cache', _, server', _, log'⟩ := t
  simp only [view, View.mk.injEq] at same
  obtain ⟨rfl, rfl, rfl, rfl, entry⟩ := same
  have own_key {key : Json} (touched : c.effect = some (.cache key)) : key = engine.key viewer :=
    Classical.not_not.1 fun differ => own _ touched ⟨key, rfl, differ⟩
  have hashable : (engine.key viewer).requireHashable = .ok () := rfl
  simp only at memory
  cases c with
  | graph call | presetMutualCount _ _ => exact ⟨rfl, by simp only [answer, view, entry]⟩
  | cacheGet key =>
    obtain rfl := own_key rfl
    simp only [answer, cacheGet, memory, hashable, Bool.false_eq_true, if_false, view,
      Cache.live?, Cache.entry?_touch_self, entry, and_self]
  | cacheSet key value ttl =>
    obtain rfl := own_key rfl
    simp only [answer, cacheSet, memory, hashable, Bool.false_eq_true, if_false]
    cases expiryTime clock ttl with
    | error failure => exact ⟨rfl, by simp only [view, entry]⟩
    | ok time => exact ⟨rfl, by simp only [view, Cache.entry?_set_self]⟩
  | cacheDelete key =>
    obtain rfl := own_key rfl
    simp only [answer, cacheDelete, memory, hashable, Bool.false_eq_true, if_false, view,
      Cache.entry?_delete_self, and_self]
  | publish name payload =>
    simp only [answer, publish]
    cases wiring.channel with
    | some channel => exact ⟨rfl, by simp only [view, record, entry]⟩
    | none => cases payload.toMembers <;> exact ⟨rfl, by simp only [view, entry]⟩

/-! ## One action -/

/-- An action that touches no foreign entry brings back the same on stores with the same view. -/
theorem act_view (memory : w.wiring.cacheOnServer = false)
    (same : w.view engine viewer = t.view engine viewer) {action : Action}
    (own : ∀ e ∈ action.effects, ¬ e.Outside engine viewer) :
    (w.act action).1 = (t.act action).1 ∧
      (w.act action).2.view engine viewer = (t.act action).2.view engine viewer := by
  have uses := action.uses_effects.mono fun c within e (touched : e ∈ c.effect) =>
    own e (within e touched)
  have answer (c : Call) (w t : World) (own : ∀ e ∈ c.effect, ¬ e.Outside engine viewer)
      (alike : w.view engine viewer = t.view engine viewer ∧ w.wiring.cacheOnServer = false) :
      (backend.answer c w).1 = (backend.answer c t).1 ∧
        (backend.answer c w).2.view engine viewer = (backend.answer c t).2.view engine viewer ∧
        (backend.answer c w).2.wiring.cacheOnServer = false := by
    obtain ⟨answer, left⟩ := answer_view alike.2 alike.1 own
    have wiring := congrArg Wiring.cacheOnServer (answered_answer c w).fixed.2
    exact ⟨answer, left, wiring.trans alike.2⟩
  obtain ⟨reply, left, -⟩ := uses.run_alike _ answer (fun _ _ _ h => h) ⟨same, memory⟩
  simp only [view, View.mk.injEq] at left
  obtain ⟨wiring, graph, events, clock, entry⟩ := left
  exact ⟨reply, by simp only [act, view, wiring, graph, events, clock, entry]⟩

/-- An action that touches foreign entries only leaves the view as it is, but for the time. -/
theorem view_act (w : World) {action : Action}
    (outside : ∀ e ∈ action.effects, e.Outside engine viewer) :
    (w.act action).2.view engine viewer =
      { w.view engine viewer with clock := w.clock + action.seconds } := by
  have uses := action.uses_effects.mono fun c within e (touched : e ∈ c.effect) =>
    outside e (within e touched)
  have left : View.mk _ _ _ _ _ = View.mk _ _ _ _ _ := uses.run_keeps (keeps_view engine viewer) w
  simp only [View.mk.injEq] at left
  obtain ⟨wiring, graph, events, clock, entry⟩ := left
  simp only [act, view, wiring, graph, events, clock, entry]

/-- Any action keeps two stores with the same view at that. -/
theorem view_act_congr (memory : w.wiring.cacheOnServer = false)
    (same : w.view engine viewer = t.view engine viewer) (action : Action) :
    (w.act action).2.view engine viewer = (t.act action).2.view engine viewer := by
  by_cases foreign : action.Foreign engine viewer
  · have outside := Action.outside_of_foreign foreign
    have clock : w.clock = t.clock := congrArg View.clock same
    rw [view_act w outside, view_act t outside, same, clock]
  · exact (act_view memory same (Action.not_outside_of_not_foreign foreign)).2

/-! ## Runs -/

/-- Leaving out idle actions makes no difference to the view. -/
theorem view_actAll (memory : w.wiring.cacheOnServer = false)
    (same : w.view engine viewer = t.view engine viewer) {marked : List (Action × Bool)}
    (idle : ∀ m ∈ marked, m.2 = false → m.1.Idle engine viewer) :
    (w.actAll (marked.map Prod.fst)).view engine viewer =
      (t.actAll ((marked.filter Prod.snd).map Prod.fst)).view engine viewer := by
  induction marked generalizing w t with
  | nil => exact same
  | cons m rest ih =>
    obtain ⟨action, kept⟩ := m
    obtain ⟨first, others⟩ := List.forall_mem_cons.1 idle
    have memory' : (w.act action).2.wiring.cacheOnServer = false := by
      rwa [show (w.act action).2.wiring = w.wiring from w.wiring_actAll [action]]
    cases kept with
    | true => exact ih memory' (view_act_congr memory same action) others
    | false =>
      have left := view_act w (Action.outside_of_idle (first rfl))
      have still : action.seconds = 0 := Action.seconds_of_idle (first rfl)
      refine ih memory' (left.trans ?_) others
      rw [still, ← same]
      simp [view]

/-- **Viewers and engines do not influence each other's suggestions, and reading influences
nothing.** Let a viewer and an engine be given, and leave out of a run any actions that only read,
any requests for suggestions of other viewers, and any that go to the other engine. After each part
of the run the graph and the published events are the same as in the full one, and the next action,
if it stays in, brings back the same, unless it is itself such a foreign request. -/
theorem isolated (memory : w.wiring.cacheOnServer = false) (engine : Engine) (viewer : String)
    {marked : List (Action × Bool)}
    (idle : ∀ m ∈ marked, m.2 = false → m.1.Idle engine viewer)
    {before after : List (Action × Bool)} (split : marked = before ++ after) :
    let full := w.actAll (before.map Prod.fst)
    let thinned := w.actAll ((before.filter Prod.snd).map Prod.fst)
    full.graph = thinned.graph ∧ full.events = thinned.events ∧
    ∀ action rest, after = (action, true) :: rest → ¬ action.Foreign engine viewer →
      (full.act action).1 = (thinned.act action).1 := by
  intro full thinned
  have same : full.view engine viewer = thinned.view engine viewer :=
    view_actAll memory rfl fun m there => idle m (split ▸ List.mem_append_left _ there)
  have memory' : full.wiring.cacheOnServer = false := by rwa [wiring_actAll]
  refine ⟨congrArg View.graph same, congrArg View.events same, fun action _ _ own => ?_⟩
  exact (act_view memory' same (Action.not_outside_of_not_foreign own)).1

/-- Before a viewer asks for the same page again, another viewer asks for one, the viewer itself
asks for users with the same interests, and someone asks whether a user is stored. -/
theorem isolated_befriended :
    ((befriended.actAll [.perform (.getSuggestions "bob" 0 5), .perform (.getSuggestions "ann" 0 1),
        .perform (.getInterestSuggestions "ann" 0 5), .askStored "bob", .wait 10]).act
      (.perform (.getSuggestions "ann" 0 1))).1 =
    ((befriended.actAll [.perform (.getSuggestions "ann" 0 1), .wait 10]).act
      (.perform (.getSuggestions "ann" 0 1))).1 := by
  let again : Action := .perform (.getSuggestions "ann" 0 1)
  let before : List (Action × Bool) :=
    [(.perform (.getSuggestions "bob" 0 5), false), (.perform (.getSuggestions "ann" 0 1), true),
      (.perform (.getInterestSuggestions "ann" 0 5), false), (.askStored "bob", false),
      (.wait 10, true)]
  have idle : ∀ m ∈ before ++ [(again, true)], m.2 = false → m.1.Idle .friends "ann" := by
    intro m there left_out
    simp only [before, List.cons_append, List.nil_append, List.mem_cons, List.not_mem_nil,
      or_false] at there
    rcases there with rfl | rfl | rfl | rfl | rfl | rfl
    · exact .inl ⟨.friends, "bob", 0, 5, rfl, by decide⟩
    · cases left_out
    · exact .inl ⟨.interests, "ann", 0, 5, rfl, by decide⟩
    · exact .inr trivial
    · cases left_out
    · cases left_out
  have own : ¬ again.Foreign .friends "ann" := by
    rintro ⟨other, asking, page, limit, same, differ⟩
    have request : Operation.getSuggestions "ann" 0 1 = other.request asking page limit :=
      Action.perform.inj same
    cases other <;> cases request
    exact differ ⟨rfl, rfl⟩
  exact (isolated (w := befriended) rfl .friends "ann" idle rfl).2.2 again [] rfl own

end World
end FollowGraph
