import FollowGraph.Proofs.Graph.Texts
import FollowGraph.Proofs.Store.Held
import FollowGraph.Proofs.Store.Silent

/-!
# The server in place of memory

Two worlds, one with cache and notifications in memory and one with both on the server, mirror each
other when they have the same graph and the same time, their caches hold the same, and the messages
sent on the server's channel are the texts of the events in memory (`World.Mirrors`).

They are answered alike, and go on mirroring each other, as long as what is written to the server
can be read back. `Call.Mirrored` are the calls of which that is certain: lists of strings go into
the cache, objects that JSON text can spell are published, and users have strings for ids and names.
-/

set_option autoImplicit false

namespace FollowGraph

/-! ## Strings -/

namespace Json

/-- A text of characters, no surrogate in it alone. -/
def IsString (value : Json) : Prop := ∃ s : String, value = .str s

def IsStringList (value : Json) : Prop :=
  ∃ items, value = .arr items ∧ ∀ item ∈ items, item.IsString

theorem IsString.isText {value : Json} (h : value.IsString) : value.isText = true := by
  obtain ⟨s, rfl⟩ := h
  rfl

theorem IsString.orElse {value other : Json} (h : value.IsString) (h' : other.IsString) :
    (value.orElse other).IsString := by
  unfold Json.orElse
  split
  · exact h'
  · exact h

theorem IsStringList.standard {value : Json} (h : value.IsStringList) (depth : Nat) :
    value.Standard (depth + 1) := by
  obtain ⟨items, rfl, strings⟩ := h
  refine standardItems_of_forall fun item there => ?_
  obtain ⟨s, rfl⟩ := strings item there
  trivial

theorem IsStringList.kept {value : Json} (h : value.IsStringList) : value.Kept :=
  kept_of_standard (h.standard _)

/-- Sorted strings are strings. -/
theorem isStringList_sortTexts {items : List Json} (strings : ∀ item ∈ items, item.IsString) :
    (Json.arr (sortTexts items)).IsStringList := by
  have perm := sorted_perm (sorted_of_texts fun item there => (strings item there).isText)
  exact ⟨_, rfl, fun item there => strings item (perm.mem_iff.1 there)⟩

end Json

namespace SeenWindow

/-- The ids in a list of strings, or in nothing at all, are strings. -/
theorem isString_of_mem_idsOf {value : Json} (h : value = .null ∨ value.IsStringList) {x : UserId}
    (there : x ∈ idsOf (.plain value)) : x.IsString := by
  rcases h with rfl | ⟨items, rfl, strings⟩
  · cases there
  · obtain ⟨item, listed, rfl⟩ := List.mem_map.1 (mem_distinct.1 there)
    obtain ⟨s, rfl⟩ := strings item listed
    exact ⟨s, rfl⟩

end SeenWindow

/-- A user whose id and name are strings. -/
def IsPlain (userId : UserId) (profile : Profile) : Prop :=
  userId.IsString ∧ profile.username.IsString

/-- Users with strings for ids and names are read with such. -/
theorem Graph.Everyone.of_findNode {g : Graph} (h : g.Everyone IsPlain) {userId : UserId}
    {node : UserNode} (found : g.findNode userId = some node) :
    IsPlain node.userId node.profile := by
  obtain ⟨u, there, rfl⟩ := Option.map_eq_some_iff.1 found
  obtain ⟨⟨s, id⟩, name⟩ := h u (List.mem_of_find?_eq_some there)
  exact ⟨⟨s, congrArg Json.asText id⟩, name.orElse ⟨"", rfl⟩⟩

/-! ## Messages -/

def Event.toJson (event : Event) : Json :=
  .obj [("event", event.name), ("payload", .obj event.payload)]

namespace Keyspace

/-- The message that a command sends, with its channel. -/
def message? : KeyspaceCommand → Option (Json × String)
  | .publish channel text => some (channel, text)
  | .get _ | .set .. | .delete _ => none

def messages (server : Keyspace) : List (Json × String) := server.commands.filterMap message?

/-- The messages as they are read, each with its channel. -/
def received (server : Keyspace) : List (Json × Except Json.ReadError Json) :=
  server.messages.map fun message => (message.1, Json.readChars depthLimit message.2.toList)

theorem received_logged (server : Keyspace) (command : KeyspaceCommand) :
    (server.logged command).received = server.received ++ (message? command).toList.map
      fun message => (message.1, Json.readChars depthLimit message.2.toList) := by
  simp only [received, messages, logged, List.filterMap_append, List.map_append]
  cases command <;> rfl

end Keyspace

namespace World

variable {w v : World} {channel : Channel}

/-- Messages are only sent by publishing. -/
theorem received_answer {c : Call} (quiet : c.effect ≠ some .events) (w : World) :
    (w.answer c).2.server.received = w.server.received := by
  have of_put (server : Keyspace) (key : Json) (entry : KeyspaceEntry) :
      (server.put key entry).received = server.received := by
    unfold Keyspace.put
    split <;> rfl
  have unsent (command : KeyspaceCommand) (silent : Keyspace.message? command = none) :
      (w.server.logged command).received = w.server.received := by
    rw [Keyspace.received_logged, silent]
    exact List.append_nil _
  have of_recordDecoding (w : World) (key : Json) (text : String) :
      (w.recordDecoding key text).server = w.server := by
    unfold recordDecoding
    split <;> rfl
  cases c with
  | graph _ | presetMutualCount _ _ => rfl
  | cacheGet key =>
    simp only [answer, cacheGet]
    split <;> split
    · exact unsent _ rfl
    · split
      · exact unsent _ rfl
      · rw [of_recordDecoding]
        exact unsent _ rfl
    · rfl
    · rfl
  | cacheSet key value ttl =>
    simp only [answer, cacheSet]
    split <;> split
    · exact (of_put _ _ _).trans (unsent _ rfl)
    · exact unsent _ rfl
    · exact unsent _ rfl
    · rfl
    · rfl
    · rfl
  | cacheDelete key =>
    simp only [answer, cacheDelete]
    split <;> split
    · exact unsent _ rfl
    · exact unsent _ rfl
    · rfl
    · rfl
  | publish name payload => exact absurd rfl quiet

/-! ## Both worlds -/

structure Mirrors (channel : Channel) (w v : World) : Prop where
  memory : w.wiring = { cacheOnServer := false, channel := none }
  server : v.wiring = { cacheOnServer := true, channel := some channel }
  graph : v.graph = w.graph
  clock : v.clock = w.clock
  plain : w.graph.Everyone IsPlain
  cache : ∃ held : Held, w.Holds held ∧ v.Holds held ∧
    ∀ key entry, held key = some entry → entry.value.IsStringList
  messages : v.server.received = w.events.map fun event => (channel.name, .ok event.toJson)

theorem mirrors_initial (channel : Channel) {graph : Graph} (plain : graph.Everyone IsPlain)
    (clock : Int) :
    Mirrors channel { initial { cacheOnServer := false, channel := none } clock with graph }
      { initial { cacheOnServer := true, channel := some channel } clock with graph } where
  memory := rfl
  server := rfl
  graph := rfl
  clock := rfl
  plain := plain
  cache := ⟨.nothing, holds_initial _ _ _, holds_initial _ _ _, nofun⟩
  messages := rfl

/-- The log is no part of it. -/
theorem Mirrors.of_unlogged {w' v' : World} (h : Mirrors channel w v)
    (same : w'.unlogged = w.unlogged) (same' : v'.unlogged = v.unlogged) :
    Mirrors channel w' v' := by
  obtain ⟨wiring, graph, cache, events, server, clock, log⟩ := w
  obtain ⟨wiring', graph', cache', events', server', clock', log'⟩ := v
  obtain ⟨_, _, _, _, _, _, logged⟩ := w'
  obtain ⟨_, _, _, _, _, _, logged'⟩ := v'
  cases same
  cases same'
  obtain ⟨held, in_memory, on_server, lists⟩ := h.cache
  exact { h with
    cache := ⟨held, in_memory.congr rfl (Int.le_refl _) rfl rfl,
      on_server.congr rfl (Int.le_refl _) rfl rfl, lists⟩ }

theorem Mirrors.wait (h : Mirrors channel w v) (seconds : Nat) :
    Mirrors channel { w with clock := w.clock + seconds }
      { v with clock := v.clock + seconds } := by
  obtain ⟨held, in_memory, on_server, lists⟩ := h.cache
  exact { h with
    clock := congrArg (· + (seconds : Int)) h.clock
    cache := ⟨held, in_memory.wait seconds, on_server.wait seconds, lists⟩ }

/-- A call to the cache changes nothing but what the caches hold. -/
theorem Mirrors.of_cache (h : Mirrors channel w v) {c : Call} {key : Json}
    (effect : c.effect = some (.cache key))
    (cache : ∃ held : Held, (w.answer c).2.Holds held ∧ (v.answer c).2.Holds held ∧
      ∀ key entry, held key = some entry → entry.value.IsStringList) :
    Mirrors channel (w.answer c).2 (v.answer c).2 := by
  have outside : ∀ e ∈ c.effect, ¬ e.InGraph := by
    intro e there
    cases effect.symm.trans there
    exact id
  have quiet : c.effect ≠ some .events := fun same => by cases effect.symm.trans same
  have kept := answered_answer c w
  have kept' := answered_answer c v
  have graph := kept.graph_eq outside
  exact
    { memory := kept.fixed.2.trans h.memory
      server := kept'.fixed.2.trans h.server
      graph := (kept'.graph_eq outside).trans (h.graph.trans graph.symm)
      clock := kept'.fixed.1.trans (h.clock.trans kept.fixed.1.symm)
      plain := graph ▸ h.plain
      cache := cache
      messages := by
        rw [received_answer quiet, h.messages, kept.events_eq quiet] }

end World

/-! ## One call -/

/-- A call of which nothing is lost on the server. -/
inductive Call.Mirrored : Call → Prop
  | graph {call : GraphCall} (given : Graph.GivesUsers IsPlain call) : Mirrored (.graph call)
  | presetMutualCount (source target : UserId) : Mirrored (.presetMutualCount source target)
  | cacheGet (key : String) : Mirrored (.cacheGet (.str key))
  | cacheSet (key : String) {value : Json} (strings : value.IsStringList) (seconds : Int) :
      Mirrored (.cacheSet (.str key) value (.int seconds))
  | publish {name : Json} {payload : List (String × Json)}
      (standard : (Event.toJson ⟨name, payload⟩).Standard Keyspace.depthLimit) :
      Mirrored (.publish name (.obj payload))

theorem Call.mirrored_of_read {c : Call} (h : c.effect = none) : c.Mirrored := by
  cases c with
  | graph call =>
    cases call with
    | upsertUserNode _ | updateUserNode _ => cases h
    | _ => exact .graph trivial
  | presetMutualCount source target => exact .presetMutualCount source target
  | cacheGet _ | cacheSet _ _ _ | cacheDelete _ | publish _ _ => cases h

namespace World

variable {w v : World} {channel : Channel}

/-- **Such a call is answered alike by both worlds**, and they go on mirroring each other. -/
theorem answer_mirrors (h : Mirrors channel w v) {c : Call} (mirrored : c.Mirrored) :
    (w.answer c).1 = (v.answer c).1 ∧ Mirrors channel (w.answer c).2 (v.answer c).2 := by
  obtain ⟨held, in_memory, on_server, lists⟩ := h.cache
  cases mirrored with
  | graph given =>
    rename_i call
    have changed := Graph.change_answer w.graph call
    simp only [answer, h.graph]
    refine ⟨trivial, { h with graph := rfl, plain := h.plain.change given changed, cache := ?_ }⟩
    exact ⟨held, in_memory.congr rfl (Int.le_refl _) rfl rfl,
      on_server.congr rfl (Int.le_refl _) rfl rfl, lists⟩
  | presetMutualCount source target => exact ⟨rfl, h⟩
  | cacheGet key =>
    have hashable : (Json.str key).requireHashable = .ok () := rfl
    obtain ⟨answer, left⟩ := holds_get in_memory hashable
    obtain ⟨answer', left'⟩ := holds_get on_server hashable
    exact ⟨by rw [answer, answer', h.clock], h.of_cache rfl ⟨held, left, left', lists⟩⟩
  | cacheSet key strings seconds =>
    rename_i value
    have hashable : (Json.str key).requireHashable = .ok () := rfl
    obtain ⟨answer, left⟩ := holds_set in_memory hashable (fun _ => strings.kept) seconds
    obtain ⟨answer', left'⟩ := holds_set on_server hashable (fun _ => strings.kept) seconds
    rw [h.clock] at left'
    refine ⟨answer.trans answer'.symm, h.of_cache rfl ⟨_, left, left', ?_⟩⟩
    intro other entry there
    unfold Held.put at there
    split at there
    · cases there
      exact strings
    · exact lists other entry there
  | publish standard =>
    rename_i name payload
    have no_channel : w.wiring.channel = none := congrArg Wiring.channel h.memory
    have a_channel : v.wiring.channel = some channel := congrArg Wiring.channel h.server
    have read : Json.readChars Keyspace.depthLimit
        (Keyspace.eventMessage name (.obj payload)).toList = .ok (Event.toJson ⟨name, payload⟩) :=
      Json.readChars_write standard
    simp only [answer, publish, no_channel, a_channel, Json.toMembers]
    refine ⟨trivial, { h with cache := ?_, messages := ?_ }⟩
    · exact ⟨held, in_memory.congr rfl (Int.le_refl _) rfl rfl,
        on_server.congr rfl (Int.le_refl _) rfl rfl, lists⟩
    · show (v.server.logged _).received = _
      rw [Keyspace.received_logged, h.messages, List.map_append]
      simp [Keyspace.message?, read]

end World
end FollowGraph
