import FollowGraph.Proofs.Graph.WellFormed
import FollowGraph.Proofs.Program.Footprint
import FollowGraph.Proofs.Store.Cache
import FollowGraph.Service.Operation
import FollowGraph.Store.World

/-!
# What each operation can touch

`Call.effect` says which part of the stores a call can change, and `Operation.effects` which parts
an operation can. `Operation.Writes` is closer: the very calls, with their arguments, by which an
operation can change anything. That no operation makes others is a matter of its program, and is
proved with its contract.

A part that no effect of an operation names is as it was after the operation. That rests on
`World.Answered`, which lists once what a call can leave behind; every frame is read off from it.
-/

set_option autoImplicit false

namespace FollowGraph

/-- A part of the stores. Profiles count as users. -/
inductive Effect where
  | users
  | edges
  | interests
  | cache (key : Json)
  | events
  deriving DecidableEq

/-- The part that a call can change, if any. -/
def Call.effect : Call → Option Effect
  | .graph (.upsertUserNode _) | .graph (.updateUserNode _) => some .users
  | .graph (.createEdge ..) | .graph (.deleteEdge ..) => some .edges
  | .graph (.setUserInterests ..) => some .interests
  -- An entry that has expired goes when it is asked for.
  | .cacheGet key | .cacheSet key .. | .cacheDelete key => some (.cache key)
  | .publish .. => some .events
  | _ => none

/-- A call changes only parts of a list, or nothing. -/
def Call.Within (effects : List Effect) (c : Call) : Prop := ∀ e ∈ c.effect, e ∈ effects

theorem Call.within_of_read {c : Call} (h : c.effect = none) (effects : List Effect) :
    c.Within effects := by
  intro e he
  rw [h] at he
  cases he

theorem Call.within_of_effect {c : Call} {e : Effect} {effects : List Effect}
    (h : c.effect = some e) (he : e ∈ effects) : c.Within effects := by
  intro e' he'
  rw [h] at he'
  cases he'
  exact he

/-- A set of calls with all calls in it that change nothing. -/
class AllowsReads (P : Call → Prop) : Prop where
  read : ∀ {c : Call}, c.effect = none → P c

instance (effects : List Effect) : AllowsReads (Call.Within effects) where
  read h := Call.within_of_read h effects

instance : AllowsReads fun _ => True where
  read _ := trivial

/-! ## Operations -/

/-- The parts of the stores that an operation can change. -/
def Operation.effects : Operation → List Effect
  | .createUser _ | .updateUser _ => [.users]
  | .follow .. => [.edges, .events]
  | .unfollow .. | .removeFollower .. | .block .. | .unblock .. => [.edges]
  | .setInterests .. => [.interests]
  | .getSuggestions viewer .. => [.cache (SeenWindow.suggestions.key (.str viewer))]
  | .getInterestSuggestions viewer .. =>
    [.cache (SeenWindow.interestSuggestions.key (.str viewer))]
  | .getUser _ | .getFollowing .. | .getFollowers .. | .getBlocked .. | .mutualFollowers ..
  | .searchFollowers .. | .searchFollowing .. | .getInterests _ => []

/-- The calls by which an operation can change something. -/
inductive Operation.Writes : Operation → Call → Prop
  | create (user : UserNode) : Writes (.createUser user) (.graph (.upsertUserNode user))
  | update (user : UserNode) : Writes (.updateUser user) (.graph (.updateUserNode user))
  | follow (a b : String) : Writes (.follow a b) (.graph (.createEdge (.str a) (.str b) .following))
  | announce (a b : String) (event payload : Json) : Writes (.follow a b) (.publish event payload)
  | unfollow (a b : String) :
      Writes (.unfollow a b) (.graph (.deleteEdge (.str a) (.str b) .following))
  | removeFollower (a b : String) :
      Writes (.removeFollower a b) (.graph (.deleteEdge (.str b) (.str a) .following))
  -- A block first takes away the following edges of the pair.
  | detach (a b : String) : Writes (.block a b) (.graph (.deleteEdge (.str a) (.str b) .following))
  | detachBack (a b : String) :
      Writes (.block a b) (.graph (.deleteEdge (.str b) (.str a) .following))
  | block (a b : String) : Writes (.block a b) (.graph (.createEdge (.str a) (.str b) .blocked))
  | unblock (a b : String) : Writes (.unblock a b) (.graph (.deleteEdge (.str a) (.str b) .blocked))
  | unblockBack (a b : String) :
      Writes (.unblock a b) (.graph (.deleteEdge (.str b) (.str a) .blocked))
  | setInterests (userId : String) (given : List Json) (tags : List String) :
      Writes (.setInterests userId given)
        (.graph (.setUserInterests (.str userId) (Interests.ofTexts tags)))
  | readSeen (viewer : String) (page limit : Int) :
      Writes (.getSuggestions viewer page limit)
        (.cacheGet (SeenWindow.suggestions.key (.str viewer)))
  | writeSeen (viewer : String) (page limit : Int) (shown : Json) :
      Writes (.getSuggestions viewer page limit)
        (.cacheSet (SeenWindow.suggestions.key (.str viewer)) shown
          SeenWindow.suggestions.ttl)
  | readSeenInterests (viewer : String) (page limit : Int) :
      Writes (.getInterestSuggestions viewer page limit)
        (.cacheGet (SeenWindow.interestSuggestions.key (.str viewer)))
  | writeSeenInterests (viewer : String) (page limit : Int) (shown : Json) :
      Writes (.getInterestSuggestions viewer page limit)
        (.cacheSet (SeenWindow.interestSuggestions.key (.str viewer)) shown
          SeenWindow.interestSuggestions.ttl)

/-- The calls that an operation can make: any that change nothing, and its writes. -/
def Operation.Makes (op : Operation) (c : Call) : Prop := c.effect = none ∨ op.Writes c

instance (op : Operation) : AllowsReads op.Makes where
  read := .inl

theorem Operation.within_of_makes {op : Operation} (c : Call) (h : op.Makes c) :
    c.Within op.effects := by
  rcases h with read | writes
  · exact Call.within_of_read read _
  · cases writes <;> exact Call.within_of_effect rfl (by simp [Operation.effects])

/-! ## What is left alone -/

def Effect.InGraph : Effect → Prop
  | .users | .edges | .interests => True
  | .cache _ | .events => False

namespace World

/-- What the stores can be after a call: one part is another, or none. The server and the log count
for nothing here. -/
inductive Answered (w : World) : Call → World → Prop where
  | graph {call : GraphCall} {graph : Graph} (changed : Graph.Change w.graph call graph) :
      Answered w (.graph call) { w with graph }
  | cache {c : Call} {key : Json} {cache : Cache} (effect : c.effect = some (.cache key))
      (others : ∀ other, other ≠ key → cache.entry? other = w.cache.entry? other) :
      Answered w c { w with cache }
  | events {name payload : Json} {events : List Event} :
      Answered w (.publish name payload) { w with events }
  | server {c : Call} {server : Keyspace} {log : List LogEntry} :
      Answered w c { w with server, log }

theorem answered_recordDecoding (w : World) (c : Call) (server : Keyspace) (key : Json)
    (text : String) : Answered w c ({ w with server }.recordDecoding key text) := by
  unfold recordDecoding
  split <;> exact .server

/-- Each of the stores' branches is one of these, whether the call fails in it or not. -/
theorem answered_answer (c : Call) (w : World) : Answered w c (w.answer c).2 := by
  cases c with
  | graph call => exact .graph (Graph.change_answer w.graph call)
  | cacheGet key =>
    simp only [answer, cacheGet]
    split <;> split
    · exact .server
    · split
      · exact .server
      · exact answered_recordDecoding ..
    · exact .server
    · exact .cache rfl fun _ differ => Cache.entry?_touch_ne differ
  | cacheSet key value ttl =>
    simp only [answer, cacheSet]
    split <;> split
    · exact .server
    · exact .server
    · exact .server
    · exact .cache rfl fun _ differ => Cache.entry?_set_ne differ
    · exact .server
    · exact .server
  | cacheDelete key =>
    simp only [answer, cacheDelete]
    split <;> split
    · exact .server
    · exact .server
    · exact .server
    · exact .cache rfl fun _ differ => Cache.entry?_delete_ne differ
  | publish name payload =>
    simp only [answer, publish]
    split
    · exact .server
    · split
      · exact .server
      · exact .events
  | presetMutualCount source target => exact .server

namespace Answered

variable {w v : World} {c : Call}

theorem graph_eq (h : Answered w c v) (out : ∀ e ∈ c.effect, ¬ e.InGraph) : v.graph = w.graph := by
  cases h with
  | graph changed =>
    cases changed with
    | nothing => rfl
    | upsert given => rcases given with rfl | rfl <;> exact absurd trivial (out _ rfl)
    | addEdge _ | removeEdge _ | setInterests _ _ => exact absurd trivial (out _ rfl)
  | cache _ _ | events | server => rfl

theorem edges_eq (h : Answered w c v) (out : .edges ∉ c.effect) :
    v.graph.edges = w.graph.edges := by
  cases h with
  | graph changed =>
    cases changed with
    | nothing => rfl
    | upsert _ => exact Graph.edges_upsert ..
    | addEdge _ | removeEdge _ => exact absurd rfl out
    | setInterests _ _ => exact Graph.edges_setInterests ..
  | cache _ _ | events | server => rfl

/-- Only a call to the graph changes the graph. -/
theorem graph_change (h : Answered w c v) :
    v.graph = w.graph ∨ ∃ call, c = .graph call ∧ Graph.Change w.graph call v.graph := by
  cases h with
  | graph changed => exact .inr ⟨_, rfl, changed⟩
  | cache _ _ | events | server => exact .inl rfl

theorem wellFormed (h : Answered w c v) (wf : w.graph.WellFormed) : v.graph.WellFormed := by
  rcases h.graph_change with same | ⟨call, -, changed⟩
  · exact same ▸ wf
  · exact wf.change changed

/-- Neither time nor the way the stores are wired is a matter of calls. -/
theorem fixed (h : Answered w c v) : v.clock = w.clock ∧ v.wiring = w.wiring := by
  cases h <;> exact ⟨rfl, rfl⟩

theorem events_eq (h : Answered w c v) (out : .events ∉ c.effect) : v.events = w.events := by
  cases h with
  | events => exact absurd rfl out
  | graph _ | cache _ _ | server => rfl

/-- The entry of a key is only changed by a call with that key. -/
theorem entry_eq (h : Answered w c v) {key : Json} (out : c.effect ≠ some (.cache key)) :
    v.cache.entry? key = w.cache.entry? key := by
  cases h with
  | cache effect others => exact others key fun same => out (same ▸ effect)
  | graph _ | events | server => rfl

end Answered

theorem answer_cacheGet {w : World} {key : Json} (memory : w.wiring.cacheOnServer = false)
    (hashable : key.requireHashable = .ok ()) :
    w.answer (.cacheGet key) =
      (found (w.cache.live? w.clock key),
        { w with cache := w.cache.touch w.clock key }) := by
  simp only [answer, cacheGet, memory, hashable, Bool.false_eq_true, if_false]

theorem answer_cacheSet {w : World} {key : Json} (memory : w.wiring.cacheOnServer = false)
    (hashable : key.requireHashable = .ok ()) (value : Json) (seconds : Int) :
    w.answer (.cacheSet key value (.int seconds)) =
      (.ok .null, { w with cache := w.cache.set key value (w.clock + seconds) }) := by
  simp only [answer, cacheSet, memory, hashable, expiryTime_int, Bool.false_eq_true, if_false]

variable {α : Type} {p : Program α} {effects : List Effect}

theorem run_graph (h : p.Uses (Call.Within effects)) (out : ∀ e ∈ effects, ¬ e.InGraph)
    (w : World) : (p.run backend w).2.graph = w.graph := by
  have keeps : backend.Keeps (Call.Within effects) fun w v : World => v.graph = w.graph :=
    { refl := fun _ => rfl
      trans := fun first second => second.trans first
      answer := fun c w within => (answered_answer c w).graph_eq fun e he => out e (within e he)
      record := fun _ _ => rfl }
  exact h.run_keeps keeps w

theorem keeps_edges (out : .edges ∉ effects) :
    backend.Keeps (Call.Within effects) fun w v : World => v.graph.edges = w.graph.edges where
  refl _ := rfl
  trans first second := second.trans first
  answer c w within := (answered_answer c w).edges_eq fun he => out (within _ he)
  record _ _ := rfl

theorem run_edges (h : p.Uses (Call.Within effects)) (out : .edges ∉ effects) (w : World) :
    (p.run backend w).2.graph.edges = w.graph.edges := h.run_keeps (keeps_edges out) w

end World
end FollowGraph
