import FollowGraph.Proofs.Service.Action
import FollowGraph.Proofs.Service.Requests
import FollowGraph.Proofs.Store.Mirrors

/-!
# The services with cache and notifications on the server

What the services do does not depend on where cache and notifications are kept. Most operations make
no calls but those of which nothing is lost on the server, so they come to the same in two worlds
that mirror each other (`Call.Mirrored`). Two kinds of operations write what they have been answered
before. A request for suggestions stores the ids of users that were listed, and a follow publishes
the name of a user that was found; these are strings because those of all users are, and that is not
to be seen from the operations by themselves. So a request is taken as what it comes to
(`World.on_request`), and the announcement of a follow is computed.
-/

set_option autoImplicit false

namespace FollowGraph

open Attempt World

/-! ## Programs -/

/-- A program that comes to the same in both worlds. -/
def Program.Mirrored (channel : Channel) {α : Type} (p : Program α) : Prop :=
  ∀ w v, Mirrors channel w v →
    (p.run silent w).1 = (p.run silent v).1 ∧
      Mirrors channel (p.run silent w).2 (p.run silent v).2

instance : AllowsReads Call.Mirrored where
  read := Call.mirrored_of_read

namespace Program

variable {channel : Channel} {α β : Type} {p : Program α}

theorem Uses.mirrored (h : p.Uses Call.Mirrored) : p.Mirrored channel :=
  fun _ _ => h.run_alike (Mirrors channel) (fun _ _ _ mirrored h => answer_mirrors h mirrored)
    fun _ _ _ h => h

theorem Mirrored.bind (h : p.Mirrored channel) {f : α → Program β}
    (next : ∀ a, (f a).Mirrored channel) : (p.bind f).Mirrored channel := by
  intro w v mirrors
  obtain ⟨same, left⟩ := h w v mirrors
  rw [run_bind, run_bind, ← same]
  exact next _ _ _ left

theorem Mirrored.done (a : α) : (Program.done a).Mirrored channel := fun _ _ h => ⟨rfl, h⟩

theorem Mirrored.map (h : p.Mirrored channel) (f : α → β) : (f <$> p).Mirrored channel := by
  rw [map_eq_pure_bind]
  exact h.bind fun a => .done (f a)

end Program

/-! ## The announcement of a follow -/

namespace Follow

variable {g : Graph} {channel : Channel}

/-- A follower is announced under a string. -/
theorem announcedName_isString (plain : g.Everyone IsPlain) (source : String) :
    ∃ name : String,
      announcedName (.str source) (.ofUser? (g.findNode (.str source))) = .ok (.str name) := by
  cases found : g.findNode (.str source) with
  | none => exact ⟨source, rfl⟩
  | some node =>
    obtain ⟨-, username⟩ := plain.of_findNode found
    have id : (Json.str source).IsString := ⟨source, rfl⟩
    obtain ⟨name, same⟩ := username.orElse id
    exact ⟨name, congrArg Except.ok same⟩

theorem mirrored_publish (target name : String) :
    (Call.publish (.str newFollowEvent) (newFollowPayload (.str target) (.str name))).Mirrored := by
  have names : ["event", "payload"].Nodup := by decide
  have fields : ["user_id", "type", "title", "message"].Nodup := by decide
  exact .publish ⟨names, trivial, ⟨fields, trivial, trivial, trivial, trivial, trivial⟩, trivial⟩

/-- Whatever becomes of the announcement, nothing else comes of it. -/
theorem run_notifyNewFollow {w : World} {source target name : String}
    (announced : announcedName (.str source) (.ofUser? (w.graph.findNode (.str source))) =
      .ok (.str name)) :
    (notifyNewFollow (.str source) (.str target)).run silent w =
      ((), (w.answer (.publish (.str newFollowEvent)
        (newFollowPayload (.str target) (.str name)))).2) := by
  have found : (Ask.findNode (.str source)).on silent w =
      (.ok (.ofUser? (w.graph.findNode (.str source))), w) := rfl
  have asked : silent.answer = World.answer := rfl
  simp only [notifyNewFollow, run_catching, on_bind, found, on_ofExcept, announced, Ask.publish,
    on_call, asked]
  rcases World.answer (.publish _ _) w with ⟨_ | _, t⟩ <;> rfl

theorem mirrored_notifyNewFollow (source target : String) :
    (notifyNewFollow (.str source) (.str target)).Mirrored channel := by
  intro w v mirrors
  obtain ⟨name, announced⟩ := announcedName_isString mirrors.plain source
  obtain ⟨-, left⟩ := answer_mirrors mirrors (mirrored_publish target name)
  rw [run_notifyNewFollow announced, run_notifyNewFollow (mirrors.graph ▸ announced)]
  exact ⟨rfl, left⟩

theorem mirrored_follow (source target : String) :
    (follow (.str source) (.str target)).Mirrored channel := by
  unfold follow
  split
  · exact .done _
  · -- Up to the edge nothing is written but the edge.
    refine Program.Mirrored.bind (Program.Uses.mirrored (Program.Agrees.uses
      (Obeys.catching (obeys_followEdge _ _ (.graph trivial)) ?_))) fun
      | some response => .done _
      | none => (mirrored_notifyNewFollow source target).bind fun _ => .done _
    exact fun _ _ => ⟨rfl, fun _ there => Option.some.inj there ▸ Response.proper_internalError _⟩

end Follow

/-! ## Requests -/

namespace World

variable {w v : World} {channel : Channel} (engine : Engine) (viewer : String)

/-- The ids that a request finds are those of what is held for its viewer. -/
theorem recalled_of_holds {held : Held} (h : w.Holds held) :
    w.recalled engine viewer =
      SeenWindow.idsOf (.plain ((held.at? w.clock (engine.key viewer)).getD .null)) := by
  have hashable : (engine.key viewer).requireHashable = .ok () := rfl
  have asked : (silent.answer (.cacheGet (engine.window.key (.str viewer))) w).1 = _ :=
    (holds_get h hashable).1
  simp only [recalled, SeenWindow.seenIds, run_catching, on_map, Ask.cacheGet, on_call, asked]
  rfl

theorem Mirrors.recalled_eq (h : Mirrors channel w v) :
    w.recalled engine viewer = v.recalled engine viewer := by
  obtain ⟨held, in_memory, on_server, -⟩ := h.cache
  rw [recalled_of_holds engine viewer in_memory, recalled_of_holds engine viewer on_server, h.clock]

theorem Mirrors.isString_of_mem_recalled (h : Mirrors channel w v) :
    ∀ x ∈ w.recalled engine viewer, x.IsString := by
  obtain ⟨held, in_memory, -, lists⟩ := h.cache
  intro x there
  rw [recalled_of_holds engine viewer in_memory] at there
  refine SeenWindow.isString_of_mem_idsOf ?_ there
  cases value : held.at? w.clock (engine.key viewer) with
  | none => exact .inl rfl
  | some value =>
    obtain ⟨entry, set, alive⟩ := Option.bind_eq_some_iff.1 value
    obtain ⟨-, same⟩ := Option.ite_none_right_eq_some.1 alive
    cases same
    exact .inr (lists _ entry set)

/-- Recording users with strings for ids comes to the same. -/
theorem Mirrors.recorded (h : Mirrors channel w v) {shown : List UserNode}
    (strings : ∀ u ∈ shown, u.userId.IsString) :
    Mirrors channel (w.recorded engine viewer shown) (v.recorded engine viewer shown) := by
  have get : Call.Mirrored (.cacheGet (engine.window.key (.str viewer))) := .cacheGet _
  have asked := ((SeenWindow.obeys_seenIds engine.window (.str viewer) get).uses.mirrored w v h).2
  unfold World.recorded
  dsimp only
  split
  · exact asked
  · rw [← h.recalled_eq engine viewer]
    have list : (Json.arr (Json.sortTexts (distinct
        (w.recalled engine viewer ++ shown.map UserNode.userId)))).IsStringList := by
      refine Json.isStringList_sortTexts fun x there => ?_
      rcases List.mem_append.1 (mem_distinct.1 there) with old | new
      · exact h.isString_of_mem_recalled engine viewer x old
      · obtain ⟨u, hu, rfl⟩ := List.mem_map.1 new
        exact strings u hu
    have set {value : Json} (list : value.IsStringList) : Call.Mirrored
        (.cacheSet (engine.window.key (.str viewer)) value engine.window.ttl) := by
      rw [engine.ttl_window]
      exact .cacheSet _ list engine.seconds
    exact ((SeenWindow.obeys_write engine.window (.str viewer) _ shown.length
      (set list)).uses.mirrored _ _ asked).2

end World

theorem Engine.mirrored_request {channel : Channel} (engine : Engine) (viewer : String)
    (page limit : Int) : (ExceptT.run (engine.request viewer page limit).program).Mirrored channel := by
  intro w v mirrors
  have here := w.on_request engine viewer page limit
  have there := v.on_request engine viewer page limit
  unfold Attempt.on at here there
  rw [here, there, mirrors.graph, ← mirrors.recalled_eq engine viewer]
  refine ⟨rfl, ?_⟩
  simp only [afterRequest, mirrors.graph, ← mirrors.recalled_eq engine viewer]
  split
  · exact mirrors
  · rename_i nodes offered
    refine mirrors.recorded engine viewer fun u shown => ?_
    obtain ⟨userId, found⟩ := Engine.found_of_candidates (Engine.candidates_of_offer offered) u
      (List.mem_filter.1 shown).1
    exact (mirrors.plain.of_findNode found).1

/-! ## Actions -/

/-- An action brings no user into the graph but with strings for id and name. -/
def Action.GivesPlain : Action → Prop
  | .perform (.createUser user) | .perform (.updateUser user) => IsPlain user.userId user.profile
  | _ => True

theorem Operation.mirrored {channel : Channel} {op : Operation}
    (given : (Action.perform op).GivesPlain) : (ExceptT.run op.program).Mirrored channel := by
  have of_writes (writes : ∀ c, op.Writes c → c.Mirrored) :
      (ExceptT.run op.program).Mirrored channel :=
    Program.Uses.mirrored (op.uses_makes.mono fun c makes =>
      makes.elim Call.mirrored_of_read (writes c))
  cases op with
  | getSuggestions viewer page limit => exact Engine.friends.mirrored_request viewer page limit
  | getInterestSuggestions viewer page limit =>
    exact Engine.interests.mirrored_request viewer page limit
  | follow source target =>
    exact (Follow.mirrored_follow source target).bind fun response => .done _
  | createUser user | updateUser user =>
    refine of_writes fun c writes => ?_
    cases writes
    exact .graph given
  | _ =>
    refine of_writes fun c writes => ?_
    cases writes <;> exact .graph trivial

theorem Action.mirrored {channel : Channel} {action : Action} (given : action.GivesPlain) :
    action.program.Mirrored channel := by
  cases action with
  | perform op => exact (Operation.mirrored given).map _
  | askStored userId =>
    exact (Users.obeys_isStored (.str userId)).uses.mirrored.map _
  | wait seconds => exact .done _

namespace World

variable {w v : World} {channel : Channel}

/-- **An action brings the same back in both worlds**, which go on mirroring each other. -/
theorem act_mirrors (h : Mirrors channel w v) {action : Action} (given : action.GivesPlain) :
    (w.act action).1 = (v.act action).1 ∧ Mirrors channel (w.act action).2 (v.act action).2 := by
  obtain ⟨same, left⟩ := Action.mirrored given w v h
  obtain ⟨reply, stores⟩ := run_silent action.program w
  obtain ⟨reply', stores'⟩ := run_silent action.program v
  exact ⟨reply.trans (same.trans reply'.symm),
    (left.of_unlogged stores stores').wait action.seconds⟩

theorem actAll_mirrors (h : Mirrors channel w v) {actions : List Action}
    (given : ∀ action ∈ actions, action.GivesPlain) :
    Mirrors channel (w.actAll actions) (v.actAll actions) := by
  induction actions generalizing w v with
  | nil => exact h
  | cons action rest ih =>
    obtain ⟨first, others⟩ := List.forall_mem_cons.1 given
    exact ih (act_mirrors h first).2 others

/-- **Cache and notifications can be kept in memory or on the server.** Let a run be made twice, from
a graph whose users have strings for ids and names: with both in memory, and with both on the server.
Every action brings back the same. After each part of the run every viewer has been shown the same
by each engine, and the messages on the server, read as JSON, are the events in memory in their
order.

Wherever a cache is kept, it answers with the value last set, as long as the key was not deleted
since and the seconds given with the value have not passed. On the server that is said of values
whose text is read as the value again, and of which this is certain `Json.kept_of_standard` says. -/
theorem interchangeable (channel : Channel) {graph : Graph} (plain : graph.Everyone IsPlain)
    (clock : Int) {actions : List Action} (given : ∀ action ∈ actions, action.GivesPlain) :
    let memory := { initial { cacheOnServer := false, channel := none } clock with graph }
    let server := { initial { cacheOnServer := true, channel := some channel } clock with graph }
    (∀ before after, actions = before ++ after →
      let w := memory.actAll before
      let v := server.actAll before
      (∀ action rest, after = action :: rest → (w.act action).1 = (v.act action).1) ∧
      (∀ engine viewer, w.recalled engine viewer = v.recalled engine viewer) ∧
      v.server.received = w.events.map fun event => (channel.name, .ok event.toJson)) ∧
    ∀ (wiring : Wiring) (uses : List CacheUse) (key : String),
      (wiring.cacheOnServer = true → ∀ key value seconds,
        .set key value seconds ∈ uses → value.Kept) →
      ∃ value? : Option Json,
        (((initial wiring clock).useAll uses).answer (.cacheGet (.str key))).1 = found value? ∧
        ∀ value, value? = some value ↔ ∃ ends, CacheUse.LastSet key clock uses ⟨value, ends⟩ ∧
          clock + CacheUse.elapsed uses < ends := by
  intro memory server
  have mirrors : Mirrors channel memory server := mirrors_initial channel plain clock
  constructor
  · rintro before after rfl w v
    have now : Mirrors channel w v := actAll_mirrors mirrors fun action there =>
      given action (List.mem_append_left _ there)
    refine ⟨?_, fun engine viewer => now.recalled_eq engine viewer, now.messages⟩
    rintro action rest rfl
    exact (act_mirrors now (given action (List.mem_append_right _ List.mem_cons_self))).1
  · exact fun wiring uses key kept => get_after_uses wiring clock uses kept key

/-- A user of whom id and name are known. -/
def named (userId username : String) (h : UserId.identifies (.str userId) = true) : UserNode :=
  { userId := .str userId
    profile := { Profile.unknown with username := .str username }
    followingNumber := .int 0
    followersNumber := .int 0
    identifies := h }

/-- Three users, two of them with names that JSON text spells in escapes. The first is shown the
third, and nearly five minutes pass. -/
def introductions : List Action :=
  [.perform (.createUser (named "ann" "\"Ann\"" (Eq.refl true))),
    .perform (.createUser (named "bob" "Böb 😀" (Eq.refl true))),
    .perform (.createUser (named "cy" "cy" (Eq.refl true))), .perform (.follow "bob" "cy"),
    .perform (.follow "ann" "bob"), .perform (.getSuggestions "ann" 0 5), .wait 299]

/-- On the server the third user is still remembered, and both follows have been announced. -/
theorem interchangeable_introductions :
    let channel : Channel := ⟨.str "create_notification", .int 1⟩
    let w := empty.actAll introductions
    let v := (initial { cacheOnServer := true, channel := some channel } 0).actAll introductions
    let again : Action := .perform (.getSuggestions "ann" 0 5)
    let announcement (target name : String) : Json := .obj [("event", .str Follow.newFollowEvent),
      ("payload", Follow.newFollowPayload (.str target) (.str name))]
    let uses : List CacheUse := [.set "k" (.arr [.str "\n"]) 10, .get "k", .wait 9]
    (w.act again).1 = (v.act again).1 ∧ v.recalled .friends "ann" = [.str "cy"] ∧
    v.server.received = [(channel.name, .ok (announcement "cy" "Böb 😀")),
      (channel.name, .ok (announcement "bob" "\"Ann\""))] ∧
    ∃ value? : Option Json,
      (((initial v.wiring 0).useAll uses).answer (.cacheGet (.str "k"))).1 = found value? ∧
      ∀ value, value? = some value ↔ ∃ ends, CacheUse.LastSet "k" 0 uses ⟨value, ends⟩ ∧
        0 + CacheUse.elapsed uses < ends := by
  intro channel w v again announcement uses
  have nobody : Graph.empty.Everyone IsPlain := fun u there => by cases there
  have given : ∀ action ∈ introductions ++ [again], action.GivesPlain := by
    simp [introductions, again, Action.GivesPlain, IsPlain, named, Json.IsString]
  have kept : v.wiring.cacheOnServer = true → ∀ key value seconds,
      .set key value seconds ∈ uses → value.Kept := by
    intro _ key value seconds there
    simp only [uses, List.mem_cons, CacheUse.set.injEq, reduceCtorEq, List.not_mem_nil, or_false]
      at there
    obtain ⟨-, rfl, -⟩ := there
    exact Json.kept_of_standard ⟨trivial, trivial⟩
  obtain ⟨run, cache⟩ := interchangeable channel nobody 0 given
  obtain ⟨replies, shown, messages⟩ := run introductions [again] rfl
  have remembered : w.recalled .friends "ann" = [.str "cy"] := by decide +kernel
  have published : w.events.map Event.toJson = [announcement "cy" "Böb 😀",
      announcement "bob" "\"Ann\""] := by decide +kernel
  refine ⟨replies again [] rfl, (shown .friends "ann").symm.trans remembered, ?_,
    cache v.wiring uses "k" kept⟩
  calc v.server.received
      = (w.events.map Event.toJson).map fun event => (channel.name, .ok event) :=
        messages.trans List.map_map.symm
    _ = _ := by rw [published]; rfl

end World
end FollowGraph
