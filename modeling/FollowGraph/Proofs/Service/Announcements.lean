import FollowGraph.Proofs.Pair.Permitted
import FollowGraph.Proofs.Service.Action
import FollowGraph.Proofs.Service.Flaky

/-!
# Who is told of a follow

A new follow is announced after its edge is there, by a look-up of the follower's name and a call
to publish. Nothing else publishes anything. Either of the two calls can fail, and no caller learns
of it.

What a follow asks, in which order, is a contract of its program on any stores
(`Follow.Followed`); what that comes to on stores in memory is read off from the history of its
calls, of which the published events are a part (`Flaky.events_run`). That nothing depends on what
becomes of a call to publish is a property of two runs. It holds of every program that publishes
nothing, because the events are no part of any answer, and of an announcement because it has nothing
to do after that call (`Follow.unheard_notifyNewFollow`).
-/

set_option autoImplicit false

namespace FollowGraph

open Attempt History

/-! ## What a follow asks -/

namespace History

variable {h s : History} {c : Call}

/-- What was asked after a call was first made. -/
def since (h : History) (c : Call) : History := (h.dropWhile fun asked => asked.call ≠ c).tail

theorem since_append (never : Never s c) (answer : Except Failure Value) (t : History) :
    since (s ++ ⟨c, answer⟩ :: t) c = t := by
  rw [since, List.dropWhile_append_of_pos fun asked there => decide_eq_true (never asked there),
    List.dropWhile_cons_of_neg (by simp), List.tail_cons]

/-- No call to publish anything was made. -/
def Unpublished (h : History) : Prop := ∀ asked ∈ h, asked.call.effect ≠ some .events

end History

/-- Whether the call came back with a value. -/
def Asked.answered (asked : Asked) : Bool := asked.answer.isOk

theorem Linked.unpublished {a b : UserId} {h : History} {refusal : Option Response}
    (linked : Linked a b h refusal) : h.Unpublished := by
  intro asked there
  have among := linked.among asked there
  simp only [findCalls, blockQueries, List.mem_cons, List.mem_append, List.not_mem_nil,
    or_false] at among
  rcases among with same | same | (same | same) | same | same <;> rw [same] <;>
    exact fun publishes => by cases publishes

namespace Follow

variable {a b : UserId}

/-- The calls of an announcement. It is left where no name is found out. -/
inductive Announcement (a b : UserId) : History → Prop
  | unread (failure : Failure) : Announcement a b [⟨.graph (.findNode a), .error failure⟩]
  | unnamed {follower : Value} {failure : Failure}
      (nameless : announcedName a follower = .error failure) :
      Announcement a b [⟨.graph (.findNode a), .ok follower⟩]
  | sent {follower : Value} {name : Json} (named : announcedName a follower = .ok name)
      (answer : Except Failure Value) :
      Announcement a b [⟨.graph (.findNode a), .ok follower⟩,
        ⟨.publish (.str newFollowEvent) (newFollowPayload b name), answer⟩]

theorem guarded_announcement :
    (notifyNewFollow a b).Guarded (fun _ _ => True) fun h _ => Announcement a b h := by
  refine Guarded.answering ?_ _
  refine (guarded_call (Q := fun h v => h = [⟨.graph (.findNode a), .ok v⟩]) trivial
    (fun _ => rfl) fun failure => .unread failure).bind ?_
  rintro _ follower rfl
  cases named : announcedName a follower with
  | error failure => exact .unnamed named
  | ok name => exact ⟨trivial, fun answer => by cases answer <;> exact .sent named _⟩

/-- What a follow asks, and whether it succeeds: it is refused and nothing is announced, or the
edge is created and then the follower announced. -/
inductive Followed (a b : UserId) : History → Response → Prop
  | refused {h : History} {r : Response} (unpublished : h.Unpublished)
      (unsuccessful : r.success = false) : Followed a b h r
  | linked {before after : History} {v : Value} {r : Response} (unpublished : before.Unpublished)
      (once : Never before (Edge.following a b).creation) (announcement : Announcement a b after)
      (successful : r.success = true) :
      Followed a b (before ++ ⟨(Edge.following a b).creation, .ok v⟩ :: after) r

namespace Followed

variable {h : History} {r : Response} {asked : Asked}

theorem successful (followed : Followed a b h r) (there : asked ∈ h)
    (publishes : asked.call.effect = some .events) : r.success = true := by
  cases followed with
  | refused unpublished _ => exact absurd publishes (unpublished asked there)
  | linked _ _ _ successful => exact successful

theorem since_creation (followed : Followed a b h r) (successful : r.success = true)
    (there : asked ∈ h.since (Edge.following a b).creation) :
    asked.call = .graph (.findNode a) ∨ asked.call.effect = some .events := by
  cases followed with
  | refused _ unsuccessful => cases unsuccessful.symm.trans successful
  | linked _ once announcement _ =>
    rw [since_append once] at there
    cases announcement with
    | unread _ | unnamed _ => exact .inl (List.mem_singleton.1 there ▸ rfl)
    | sent _ _ =>
      rcases List.mem_cons.1 there with rfl | last
      · exact .inl rfl
      · exact .inr (List.mem_singleton.1 last ▸ rfl)

end Followed

theorem guarded_followed : (follow a b).Guarded (fun _ _ => True) (Followed a b) := by
  unfold follow
  by_cases same : a = b
  · rw [if_pos same]
    exact .refused (fun _ there => by cases there) rfl
  rw [if_neg same]
  have free : Lenient fun _ _ => True := fun _ _ _ => trivial
  refine Program.Guarded.bind
    (Guarded.answering (guarded_followEdge free fun _ _ => trivial) _) ?_
  intro h refusal linked
  cases refusal with
  | some response =>
    show Followed a b (h ++ []) response
    rw [List.append_nil]
    exact .refused linked.unpublished (linked.refused response rfl)
  | none =>
    refine Program.Guarded.bind guarded_announcement ?_
    intro after _ announcement
    obtain ⟨before, v, rfl, once⟩ := linked.last rfl
    show Followed a b (before ++ [⟨(Edge.following a b).creation, .ok v⟩] ++ (after ++ [])) _
    rw [List.append_nil, List.append_assoc]
    refine .linked ?_ once announcement rfl
    exact fun asked there => linked.unpublished asked (List.mem_append_left _ there)

end Follow

/-! ## The name of a follower -/

theorem Json.orElse_orElse {other : Json} (falsy : other.isFalsy = true) (value last : Json) :
    (value.orElse other).orElse last = value.orElse last := by
  cases nothing : value.isFalsy <;> simp only [orElse, nothing, falsy, if_true, if_false,
    Bool.false_eq_true]

namespace Graph

variable {g g' : Graph}

/-- The users by id, with their profiles. -/
def profiles (g : Graph) : List (UserId × Profile) := g.users.map fun u => (u.userId, u.profile)

/-- The stored username of a user, or the id when it is empty. -/
def nameOf (g : Graph) (userId : UserId) : Json :=
  match g.stored? userId with
  | some u => u.profile.username.orElse userId
  | none => userId

theorem nameOf_congr (same : g.profiles = g'.profiles) (userId : UserId) :
    g.nameOf userId = g'.nameOf userId := by
  have by_profiles (g : Graph) : g.nameOf userId =
      ((g.profiles.find? (·.1 == userId)).map fun p => p.2.username.orElse userId).getD userId := by
    rw [profiles, List.find?_map, Option.map_map]
    unfold nameOf stored?
    show _ = ((g.users.find? (·.userId == userId)).map _).getD userId
    cases g.users.find? (·.userId == userId) <;> rfl
  rw [by_profiles, by_profiles, same]

/-- A name that was given as its default counts as none. -/
theorem announcedName_findNode (g : Graph) (userId : UserId) :
    Follow.announcedName userId (.ofUser? (g.findNode userId)) = .ok (g.nameOf userId) := by
  unfold findNode nameOf
  cases g.stored? userId with
  | none => rfl
  | some u =>
    exact congrArg Except.ok (Json.orElse_orElse rfl u.profile.username userId)

theorem Change.profiles_eq {call : GraphCall} (h : Change g call g')
    (out : (Call.graph call).effect ≠ some .users) : g'.profiles = g.profiles := by
  cases h with
  | nothing => rfl
  | upsert given => rcases given with rfl | rfl <;> exact absurd rfl out
  | addEdge added =>
    obtain ⟨-, rfl⟩ := addEdge?_eq_some_iff.1 added
    exact profiles_count ..
  | removeEdge removed =>
    obtain ⟨-, rfl⟩ := removeEdge?_eq_some_iff.1 removed
    exact profiles_count ..
  | setInterests stored read => exact congrArg (List.map _) (users_setInterests ..)

end Graph

/-! ## What is published -/

/-- The event that a call has published. -/
def Asked.event? : Asked → Option Event
  | ⟨.publish name payload, .ok _⟩ =>
    payload.toMembers.toOption.map fun payload => { name, payload }
  | _ => none

theorem History.Unpublished.no_events {h : History} (unpublished : h.Unpublished) :
    h.filterMap Asked.event? = [] := by
  refine List.filterMap_eq_nil_iff.2 fun asked there => ?_
  obtain ⟨c, answer⟩ := asked
  cases c with
  | publish name payload => exact absurd rfl (unpublished _ there)
  | graph _ | cacheGet _ | cacheSet _ _ _ | cacheDelete _ | presetMutualCount _ _ => rfl

namespace World

variable {w : World}

/-- In memory a call to publish adds its event, unless it fails. -/
theorem events_answer (memory : w.wiring.channel = none) (c : Call) :
    (w.answer c).2.events = w.events ++ [(⟨c, (w.answer c).1⟩ : Asked)].filterMap Asked.event? := by
  by_cases publishes : c.effect = some .events
  · cases c with
    | publish name payload =>
      simp only [answer, publish, memory]
      cases members : payload.toMembers with
      | error failure => exact (List.append_nil _).symm
      | ok _ => simp [Asked.event?, members, Except.toOption]
    | graph call => cases call <;> cases publishes
    | cacheGet _ | cacheSet _ _ _ | cacheDelete _ | presetMutualCount _ _ => cases publishes
  · have unpublished : History.Unpublished [⟨c, (w.answer c).1⟩] :=
      fun asked there => List.mem_singleton.1 there ▸ publishes
    rw [unpublished.no_events, List.append_nil]
    exact (answered_answer c w).events_eq publishes

/-- A user who is looked up without a failure is found as it is stored, or not at all. -/
theorem answer_findNode {x : UserId} {v : Value}
    (answered : (w.answer (.graph (.findNode x))).1 = .ok v) :
    v = .ofUser? (w.graph.findNode x) := by
  change (x.requireHashable.bind fun _ => .ok (.ofUser? (w.graph.findNode x))) = .ok v at answered
  cases hashable : x.requireHashable with
  | error failure =>
    rw [hashable] at answered
    cases answered
  | ok _ =>
    rw [hashable] at answered
    exact (Except.ok.inj answered).symm

end World

/-- Only a follow publishes anything. -/
theorem Action.quiet_of_not_follow (action : Action)
    (other : ∀ a b, action ≠ .perform (.follow a b)) : .events ∉ action.effects := by
  cases action with
  | perform op =>
    cases op with
    | follow a b => exact absurd rfl (other a b)
    | _ => simp [effects, Operation.effects]
  | askStored _ | wait _ => simp [effects]

def Reply.succeeded : Reply → Bool
  | .response (.ok r) => r.success
  | _ => false

namespace Flaky

variable (schedule : Schedule) {s : Flaky}

/-- The published events are those of the calls, in order. -/
theorem events_run {α : Type} (p : Program α) (memory : s.world.wiring.channel = none) :
    (p.run (backend schedule) s).2.world.events =
      s.world.events ++ (p.trace (backend schedule) s).filterMap Asked.event? := by
  have related := Program.run_related (b := backend schedule)
    (I := fun h t => t.world.wiring.channel = none ∧
      t.world.events = s.world.events ++ h.filterMap Asked.event?) ?_ (fun _ _ _ h => h) p
      (h := []) ⟨memory, (List.append_nil _).symm⟩
  · exact related.2
  rintro h t c ⟨memory, events⟩
  rw [List.filterMap_append, ← List.append_assoc, ← events]
  cases hf : schedule t.total c with
  | some failure =>
    rw [answer_of_failing schedule hf]
    refine ⟨memory, ?_⟩
    cases c <;> exact (List.append_nil _).symm
  | none =>
    rw [answer_of_passing schedule hf]
    have kept := (World.answered_answer c t.world).fixed.2
    refine ⟨(congrArg Wiring.channel kept).trans memory, ?_⟩
    exact World.events_answer memory c

/-- What was read of a user while no users were written is how the user is stored. -/
theorem read_run {α : Type} {p : Program α} {effects : List Effect}
    (uses : p.Uses (Call.Within effects)) (out : .users ∉ effects) :
    (p.run (backend schedule) s).2.world.graph.profiles = s.world.graph.profiles ∧
      ∀ x v, (⟨.graph (.findNode x), .ok v⟩ : Asked) ∈ p.trace (backend schedule) s →
        ∃ g : Graph, g.profiles = s.world.graph.profiles ∧ v = .ofUser? (g.findNode x) := by
  have related := Program.run_related (b := backend schedule)
    (I := fun h t => (∀ asked ∈ h, asked.call.effect ≠ some .users) →
      t.world.graph.profiles = s.world.graph.profiles ∧
        ∀ x v, (⟨.graph (.findNode x), .ok v⟩ : Asked) ∈ h →
          ∃ g : Graph, g.profiles = s.world.graph.profiles ∧ v = .ofUser? (g.findNode x))
    ?_ (fun _ _ _ h => h) p (h := []) fun _ => ⟨rfl, fun _ _ there => by cases there⟩
  · exact related fun asked there same => out (uses.trace _ s asked there _ same)
  intro h t c before quiet
  obtain ⟨quiet, now⟩ := List.forall_mem_append.1 quiet
  obtain ⟨kept, read⟩ := before quiet
  have unwritten : c.effect ≠ some .users := now _ (List.mem_singleton.2 rfl)
  cases hf : schedule t.total c with
  | some failure =>
    rw [answer_of_failing schedule hf]
    refine ⟨kept, fun x v there => ?_⟩
    rcases List.mem_append.1 there with earlier | last
    · exact read x v earlier
    · cases List.mem_singleton.1 last
  | none =>
    rw [answer_of_passing schedule hf]
    refine ⟨?_, fun x v there => ?_⟩
    · rcases (World.answered_answer c t.world).graph_change with same | ⟨call, rfl, changed⟩
      · exact (congrArg Graph.profiles same).trans kept
      · exact (changed.profiles_eq unwritten).trans kept
    · rcases List.mem_append.1 there with earlier | last
      · exact read x v earlier
      · have same := List.mem_singleton.1 last
        obtain ⟨rfl, answered⟩ := Asked.mk.inj same
        exact ⟨t.world.graph, kept, World.answer_findNode answered.symm⟩

/-! ## Runs -/

/-- What an action brings back, and the stores after it. -/
def act (s : Flaky) (action : Action) : Reply × Flaky :=
  let (reply, t) := action.program.run (backend schedule) { s with calls := [] }
  (reply, { t with world := { t.world with clock := t.world.clock + action.seconds } })

/-- The calls of an action, with their answers. -/
def trace (s : Flaky) (action : Action) : History :=
  action.program.trace (backend schedule) { s with calls := [] }

/-- The stores after some actions, the first of them first. -/
def actAll (s : Flaky) : List Action → Flaky
  | [] => s
  | action :: rest => (s.act schedule action).2.actAll rest

/-- What some actions bring back. -/
def replies (s : Flaky) : List Action → List Reply
  | [] => []
  | action :: rest => (s.act schedule action).1 :: (s.act schedule action).2.replies rest

/-- The event about a new follower of a user. -/
def newFollow (user : String) (follower : Json) : Event :=
  { name := .str "create_notification"
    payload := [("user_id", .str user), ("type", .str "new_follow"),
      ("title", .str "You have a new follower"),
      ("message", follower.followedBy " just followed you")] }

/-- What an action is to publish: a follow that succeeds its event, unless a call failed after the
edge was created. -/
def announced (s : Flaky) : Action → List Event
  | .perform (.follow a b) =>
    let (reply, t) := s.act schedule (.perform (.follow a b))
    let after := (s.trace schedule (.perform (.follow a b))).since
      (Edge.following (.str a) (.str b)).creation
    if reply.succeeded && after.all Asked.answered then
      [newFollow b (t.world.graph.nameOf (.str a))]
    else []
  | _ => []

/-- What some actions are to publish, in order. -/
def announcements (s : Flaky) : List Action → List Event
  | [] => []
  | action :: rest =>
    s.announced schedule action ++ (s.act schedule action).2.announcements rest

theorem wiring_act (s : Flaky) (action : Action) :
    (s.act schedule action).2.world.wiring = s.world.wiring :=
  (Program.uses_any action.program).run_keeps (keeps_worlds schedule World.keeps_wiring)
    { s with calls := [] }

theorem run_follow (a b : String) (s : Flaky) :
    (Action.perform (.follow a b)).program.run (backend schedule) s =
      (.response (.ok ((Follow.follow (.str a) (.str b)).run (backend schedule) s).1),
        ((Follow.follow (.str a) (.str b)).run (backend schedule) s).2) := by
  have always := on_always (backend schedule) (Follow.follow (.str a) (.str b)) s
  show (Reply.response <$> ExceptT.run (Operation.follow a b).program).run _ _ = _
  rw [map_eq_pure_bind, Program.bind_eq, Program.run_bind]
  change (ExceptT.run (Operation.follow a b).program).run _ s = _ at always
  rw [always]
  rfl

/-- A follow as a step: what it asks and answers, and under which name it finds a user. -/
theorem act_follow (s : Flaky) (a b : String) :
    ∃ r, Follow.Followed (.str a) (.str b) (s.trace schedule (.perform (.follow a b))) r ∧
      (s.act schedule (.perform (.follow a b))).1 = .response (.ok r) ∧
      ∀ x v, (⟨.graph (.findNode x), .ok v⟩ : Asked) ∈ s.trace schedule (.perform (.follow a b)) →
        Follow.announcedName x v =
          .ok ((s.act schedule (.perform (.follow a b))).2.world.graph.nameOf x) := by
  let start : Flaky := { s with calls := [] }
  have traced : s.trace schedule (.perform (.follow a b)) =
      (Follow.follow (.str a) (.str b)).trace (backend schedule) start :=
    (Program.trace_map _ _ _ _).trans
      ((Program.trace_bind _ _ _ _).trans (List.append_nil _))
  obtain ⟨-, followed⟩ := (Follow.guarded_followed (a := .str a) (b := .str b)).run
    (backend schedule) start
  obtain ⟨kept, read⟩ := read_run schedule (s := start)
    (Action.perform (.follow a b)).uses_effects (by simp [Action.effects, Operation.effects])
  refine ⟨_, traced ▸ followed, congrArg Prod.fst (run_follow schedule a b start), ?_⟩
  intro x v there
  obtain ⟨g, same, rfl⟩ := read x v there
  rw [Graph.announcedName_findNode, Graph.nameOf_congr (same.trans kept.symm)]
  rfl

variable {schedule}

theorem unpublished_trace {action : Action} (other : ∀ a b, action ≠ .perform (.follow a b))
    (s : Flaky) : (s.trace schedule action).Unpublished := fun asked there same =>
  action.quiet_of_not_follow other (action.uses_effects.trace _ _ asked there _ same)

/-- What is published of a follow, given what it asks and answers. -/
theorem events_followed {a b : String} {h : History} {r : Response} {name : Json}
    (followed : Follow.Followed (.str a) (.str b) h r)
    (named : ∀ v, (⟨.graph (.findNode (.str a)), .ok v⟩ : Asked) ∈ h →
      Follow.announcedName (.str a) v = .ok name) :
    h.filterMap Asked.event? =
      if r.success &&
          (h.since (Edge.following (.str a) (.str b)).creation).all Asked.answered then
        [newFollow b name]
      else [] := by
  cases followed with
  | refused unpublished unsuccessful => simp [unpublished.no_events, unsuccessful]
  | linked unpublished once announcement successful =>
    rw [since_append once, successful, Bool.true_and, List.filterMap_append,
      unpublished.no_events, List.nil_append]
    cases announcement with
    | unread failure => rfl
    | @unnamed follower failure nameless =>
      have known := named follower
        (List.mem_append_right _ (List.mem_cons_of_mem _ List.mem_cons_self))
      cases nameless.symm.trans known
    | @sent follower other told answer =>
      have known := named follower
        (List.mem_append_right _ (List.mem_cons_of_mem _ List.mem_cons_self))
      obtain rfl := Except.ok.inj (told.symm.trans known)
      cases answer <;> rfl

/-- An action publishes what it is to publish. -/
theorem events_act (memory : s.world.wiring.channel = none) (action : Action) :
    (s.act schedule action).2.world.events = s.world.events ++ s.announced schedule action := by
  have published := events_run schedule (s := { s with calls := [] }) action.program memory
  refine published.trans (congrArg (s.world.events ++ ·) ?_)
  by_cases follows : ∃ a b, action = .perform (.follow a b)
  · obtain ⟨a, b, rfl⟩ := follows
    obtain ⟨r, followed, answered, named⟩ := act_follow schedule s a b
    refine (events_followed followed (named _)).trans ?_
    unfold announced
    simp only [answered, Reply.succeeded]
  · have other (a b : String) : action ≠ .perform (.follow a b) :=
      fun same => follows ⟨a, b, same⟩
    have silent : s.announced schedule action = [] := by
      cases action with
      | perform op =>
        cases op with
        | follow a b => exact absurd rfl (other a b)
        | _ => rfl
      | askStored _ | wait _ => rfl
    rw [silent]
    exact (unpublished_trace other s).no_events

theorem events_actAll (memory : s.world.wiring.channel = none) (actions : List Action) :
    (s.actAll schedule actions).world.events =
      s.world.events ++ s.announcements schedule actions := by
  induction actions generalizing s with
  | nil => exact (List.append_nil _).symm
  | cons action rest ih =>
    have wiring := wiring_act schedule s action
    refine (ih ((congrArg Wiring.channel wiring).trans memory)).trans ?_
    rw [events_act memory, List.append_assoc]
    rfl

end Flaky

/-! ## What becomes of a call to publish -/

/-- Everything but the events and the log. -/
def World.unannounced (w : World) : World := { w with events := [], log := [] }

/-- The answer to any other call has nothing to do with the events. -/
theorem World.answer_unannounced {c : Call} {w v : World} (memory : w.wiring.cacheOnServer = false)
    (other : c.effect ≠ some .events) (same : w.unannounced = v.unannounced) :
    (w.answer c).1 = (v.answer c).1 ∧ (w.answer c).2.unannounced = (v.answer c).2.unannounced := by
  obtain ⟨wiring, graph, cache, events, server, clock, log⟩ := w
  obtain ⟨_, _, _, events', _, _, log'⟩ := v
  cases same
  simp only at memory
  cases c with
  | graph call | presetMutualCount _ _ => exact ⟨rfl, rfl⟩
  | cacheGet key =>
    simp only [answer, cacheGet, memory, Bool.false_eq_true, if_false]
    cases key.requireHashable <;> exact ⟨rfl, rfl⟩
  | cacheSet key value ttl =>
    simp only [answer, cacheSet, memory, Bool.false_eq_true, if_false]
    cases expiryTime clock ttl <;> cases key.requireHashable <;> exact ⟨rfl, rfl⟩
  | cacheDelete key =>
    simp only [answer, cacheDelete, memory, Bool.false_eq_true, if_false]
    cases key.requireHashable <;> exact ⟨rfl, rfl⟩
  | publish name payload => exact absurd rfl other

theorem World.publish_unannounced {w : World} (memory : w.wiring.channel = none)
    (name payload : Json) : (w.publish name payload).2.unannounced = w.unannounced := by
  unfold publish
  rw [memory]
  cases payload.toMembers <;> rfl

/-- The same calls fail, but for calls to publish. -/
def Schedule.AlikeElsewhere (schedule schedule' : Schedule) : Prop :=
  ∀ n c, c.effect ≠ some .events → schedule n c = schedule' n c

namespace Flaky

/-- Stores in memory after as many calls, which differ at most in events and log. -/
structure Matches (s t : Flaky) : Prop where
  memory : s.world.wiring = { cacheOnServer := false, channel := none }
  total : s.total = t.total
  stores : s.world.unannounced = t.world.unannounced

variable {schedule schedule' : Schedule} {s t : Flaky}

theorem Matches.memory_right (h : Matches s t) :
    t.world.wiring = { cacheOnServer := false, channel := none } :=
  (congrArg World.wiring h.stores).symm.trans h.memory

theorem Matches.answer (alike : schedule.AlikeElsewhere schedule') {c : Call}
    (other : c.effect ≠ some .events) (h : Matches s t) :
    ((backend schedule).answer c s).1 = ((backend schedule').answer c t).1 ∧
      Matches ((backend schedule).answer c s).2 ((backend schedule').answer c t).2 := by
  have same : schedule' t.total c = schedule s.total c := h.total ▸ (alike _ _ other).symm
  cases hf : schedule s.total c with
  | some failure =>
    rw [answer_of_failing schedule hf, answer_of_failing schedule' (same.trans hf)]
    exact ⟨rfl, h.memory, congrArg (· + 1) h.total, h.stores⟩
  | none =>
    rw [answer_of_passing schedule hf, answer_of_passing schedule' (same.trans hf)]
    obtain ⟨answered, left⟩ :=
      World.answer_unannounced (congrArg Wiring.cacheOnServer h.memory) other h.stores
    have kept := (World.answered_answer c s.world).fixed.2
    exact ⟨answered, kept.trans h.memory, congrArg (· + 1) h.total, left⟩

/-- One call more, and nothing else. -/
theorem matches_publish (schedule : Schedule)
    (memory : s.world.wiring = { cacheOnServer := false, channel := none }) (name payload : Json) :
    Matches ((backend schedule).answer (.publish name payload) s).2
      { s with total := s.total + 1 } := by
  cases hf : schedule s.total (.publish name payload) with
  | some failure =>
    rw [answer_of_failing schedule hf]
    exact ⟨memory, rfl, rfl⟩
  | none =>
    rw [answer_of_passing schedule hf]
    have kept := (World.answered_answer (.publish name payload) s.world).fixed.2
    exact ⟨kept.trans memory, rfl,
      World.publish_unannounced (congrArg Wiring.channel memory) name payload⟩

theorem Matches.publish (schedule schedule' : Schedule) (h : Matches s t) (name payload : Json) :
    Matches ((backend schedule).answer (.publish name payload) s).2
      ((backend schedule').answer (.publish name payload) t).2 := by
  have here := matches_publish schedule h.memory name payload
  have there := matches_publish schedule' h.memory_right name payload
  refine ⟨here.memory, ?_, ?_⟩
  · exact here.total.trans ((congrArg (· + 1) h.total).trans there.total.symm)
  · exact here.stores.trans (h.stores.trans there.stores.symm)

end Flaky

/-- A program that does the same on both sides. -/
def Program.Unheard (schedule schedule' : Schedule) {α : Type} (p : Program α) : Prop :=
  ∀ s t, Flaky.Matches s t →
    (p.run (Flaky.backend schedule) s).1 = (p.run (Flaky.backend schedule') t).1 ∧
      Flaky.Matches (p.run (Flaky.backend schedule) s).2 (p.run (Flaky.backend schedule') t).2

section Unheard

variable {schedule schedule' : Schedule} {α β : Type} {p : Program α}

theorem Program.Uses.unheard (alike : schedule.AlikeElsewhere schedule')
    (h : p.Uses fun c => c.effect ≠ some .events) : p.Unheard schedule schedule' :=
  fun _ _ => h.run_alike Flaky.Matches (fun _ _ _ other h => h.answer alike other)
    fun _ _ _ h => ⟨h.memory, h.total, h.stores⟩

theorem Program.Unheard.bind (h : p.Unheard schedule schedule') {f : α → Program β}
    (next : ∀ a, (f a).Unheard schedule schedule') : (p.bind f).Unheard schedule schedule' := by
  intro s t same
  obtain ⟨result, left⟩ := h s t same
  rw [run_bind, run_bind, ← result]
  exact next _ _ _ left

theorem Program.unheard_done (a : α) : (Program.done a).Unheard schedule schedule' :=
  fun _ _ same => ⟨rfl, same⟩

/-- An announcement has nothing to do after its call to publish. -/
theorem Follow.unheard_notifyNewFollow (alike : schedule.AlikeElsewhere schedule')
    (a b : UserId) : (notifyNewFollow a b).Unheard schedule schedule' := by
  intro s t same
  refine ⟨rfl, ?_⟩
  have noted {u v : Flaky} (h : Flaky.Matches u v) (entry entry' : LogEntry) :
      Flaky.Matches ((Flaky.backend schedule).record entry u)
        ((Flaky.backend schedule').record entry' v) := ⟨h.memory, h.total, h.stores⟩
  obtain ⟨found, left⟩ := same.answer (c := .graph (.findNode a)) alike nofun
  simp only [notifyNewFollow, run_catching, on_bind, Ask.findNode, Ask.publish, on_call,
    on_ofExcept, on_pure]
  revert found left
  rcases (Flaky.backend schedule).answer (.graph (.findNode a)) s with ⟨follower, u⟩
  rcases (Flaky.backend schedule').answer (.graph (.findNode a)) t with ⟨_, v⟩
  rintro rfl left
  cases follower with
  | error failure => exact noted left _ _
  | ok follower =>
    dsimp only
    cases announcedName a follower with
    | error failure => exact noted left _ _
    | ok name =>
      have sent := left.publish schedule schedule' (.str newFollowEvent)
        (newFollowPayload b name)
      dsimp only
      revert sent
      rcases (Flaky.backend schedule).answer (.publish _ _) u with ⟨here, u⟩
      rcases (Flaky.backend schedule').answer (.publish _ _) v with ⟨there, v⟩
      intro sent
      cases here <;> cases there <;> exact ⟨sent.memory, sent.total, sent.stores⟩

theorem Follow.unheard_follow (alike : schedule.AlikeElsewhere schedule') (a b : UserId) :
    (follow a b).Unheard schedule schedule' := by
  unfold follow
  split
  · exact Program.unheard_done _
  · have creates : (Edge.following a b).creation.Within [.edges] :=
      Call.within_of_effect rfl (List.mem_singleton.2 rfl)
    have quiet (c : Call) (within : c.Within [.edges]) : c.effect ≠ some .events :=
      fun same => by cases List.mem_singleton.1 (within _ same)
    refine Program.Unheard.bind (Program.Uses.unheard alike (Program.Uses.mono
      (Program.Agrees.uses (Obeys.catching (obeys_followEdge a b creates) ?_)) quiet)) fun
      | some response => Program.unheard_done response
      | none => (unheard_notifyNewFollow alike a b).bind fun _ => Program.unheard_done _
    exact fun _ _ => ⟨rfl, fun _ there => Option.some.inj there ▸ Response.proper_internalError _⟩

theorem Action.unheard (alike : schedule.AlikeElsewhere schedule') (action : Action) :
    action.program.Unheard schedule schedule' := by
  by_cases follows : ∃ a b, action = .perform (.follow a b)
  · obtain ⟨a, b, rfl⟩ := follows
    show (Reply.response <$> ExceptT.run (always _)).Unheard _ _
    rw [map_eq_pure_bind]
    exact ((Follow.unheard_follow alike (.str a) (.str b)).bind fun _ =>
      Program.unheard_done _).bind fun _ => Program.unheard_done _
  · refine Program.Uses.unheard alike (action.uses_effects.mono fun c within same => ?_)
    exact action.quiet_of_not_follow (fun a b same => follows ⟨a, b, same⟩) (within _ same)

end Unheard

namespace Flaky

variable {schedule schedule' : Schedule} {s t : Flaky}

theorem Matches.act (alike : schedule.AlikeElsewhere schedule') (h : Matches s t)
    (action : Action) :
    (s.act schedule action).1 = (t.act schedule' action).1 ∧
      Matches (s.act schedule action).2 (t.act schedule' action).2 := by
  obtain ⟨replied, left⟩ := action.unheard alike { s with calls := [] } { t with calls := [] }
    ⟨h.memory, h.total, h.stores⟩
  refine ⟨replied, left.memory, left.total, ?_⟩
  exact congrArg (fun w : World => { w with clock := w.clock + action.seconds }) left.stores

theorem Matches.actAll (alike : schedule.AlikeElsewhere schedule') (h : Matches s t)
    (actions : List Action) :
    s.replies schedule actions = t.replies schedule' actions ∧
      Matches (s.actAll schedule actions) (t.actAll schedule' actions) := by
  induction actions generalizing s t with
  | nil => exact ⟨rfl, h⟩
  | cons action rest ih =>
    obtain ⟨replied, left⟩ := h.act alike action
    obtain ⟨more, last⟩ := ih left
    exact ⟨List.cons_eq_cons.2 ⟨replied, more⟩, last⟩

/-- **Published is what was announced, and nobody waits for it.** Take any run of actions on stores
in memory, with any calls failing. The published events are those of the follows that succeeded, in
order, without the ones after which a call failed. Only a follow that succeeds ever calls to
publish, and after its edge it makes no calls but the look-up of the follower and that one. In a run
in which other calls to publish fail, every reply and the stores are the same. -/
theorem announces (schedule : Schedule) {s : Flaky}
    (memory : s.world.wiring = { cacheOnServer := false, channel := none })
    (actions : List Action) :
    let t := s.actAll schedule actions
    t.world.events = s.world.events ++ s.announcements schedule actions ∧
    (∀ next, ∀ asked ∈ t.trace schedule next, asked.call.effect = some .events →
      ∃ a b, next = .perform (.follow a b) ∧ (t.act schedule next).1.succeeded = true) ∧
    (∀ a b, (t.act schedule (.perform (.follow a b))).1.succeeded = true →
      ∀ asked ∈ (t.trace schedule (.perform (.follow a b))).since
          (Edge.following (.str a) (.str b)).creation,
        asked.call = .graph (.findNode (.str a)) ∨ asked.call.effect = some .events) ∧
    ∀ schedule', schedule.AlikeElsewhere schedule' →
      let t' := s.actAll schedule' actions
      s.replies schedule actions = s.replies schedule' actions ∧
        t.world.graph = t'.world.graph ∧ t.world.cache = t'.world.cache := by
  intro t
  refine ⟨events_actAll (congrArg Wiring.channel memory) actions, ?_, ?_, ?_⟩
  · intro next asked there publishes
    by_cases follows : ∃ a b, next = .perform (.follow a b)
    · obtain ⟨a, b, rfl⟩ := follows
      obtain ⟨r, followed, answered, -⟩ := act_follow schedule t a b
      refine ⟨a, b, rfl, ?_⟩
      rw [answered]
      exact followed.successful there publishes
    · exact absurd publishes
        (unpublished_trace (fun a b same => follows ⟨a, b, same⟩) t asked there)
  · intro a b succeeded asked there
    obtain ⟨r, followed, answered, -⟩ := act_follow schedule t a b
    rw [answered] at succeeded
    exact followed.since_creation succeeded there
  · intro schedule' alike
    obtain ⟨replies, left⟩ := Matches.actAll alike (t := s) ⟨memory, rfl, rfl⟩ actions
    have graph := congrArg (fun w : World => w.graph) left.stores
    have cache := congrArg (fun w : World => w.cache) left.stores
    exact ⟨replies, graph, cache⟩

/-- Users with and without a name, who follow each other. -/
def introduced : List Action :=
  [.perform (.createUser ⟨.str "ann", { Profile.unknown with username := .str "Ann" }, .int 0,
      .int 0, Eq.refl true⟩),
    .perform (.createUser ⟨.str "bob", .unknown, .int 0, .int 0, Eq.refl true⟩),
    .perform (.createUser ⟨.str "cid", .unknown, .int 0, .int 0, Eq.refl true⟩),
    .perform (.follow "ann" "bob"), .perform (.follow "ann" "cid"),
    .perform (.follow "ann" "bob"), .perform (.follow "cid" "bob")]

/-- Calls to publish fail that are about one user. -/
def unreachable (user : String) : Schedule := fun _ c =>
  if c = .publish (.str "create_notification")
      (Follow.newFollowPayload (.str user) (.str "Ann")) then
    some (.external "ConnectionError" "no such channel")
  else none

theorem announces_introduced :
    let s := ofWorld World.empty
    let t := s.actAll (unreachable "cid") introduced
    t.world.events = [newFollow "bob" (.str "Ann"), newFollow "bob" (.str "cid")] ∧
      t.world.graph = (s.actAll (fun _ _ => none) introduced).world.graph := by
  have elsewhere : (unreachable "cid").AlikeElsewhere fun _ _ => none := by
    intro n c other
    refine if_neg ?_
    rintro rfl
    exact other rfl
  obtain ⟨published, -, -, alike⟩ :=
    announces (unreachable "cid") (s := ofWorld World.empty) rfl introduced
  obtain ⟨-, graph, -⟩ := alike _ elsewhere
  have told : (ofWorld World.empty).announcements (unreachable "cid") introduced =
      [newFollow "bob" (.str "Ann"), newFollow "bob" (.str "cid")] := by decide +kernel
  exact ⟨told ▸ published, graph⟩

end Flaky
end FollowGraph
