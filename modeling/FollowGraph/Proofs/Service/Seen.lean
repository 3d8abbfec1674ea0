import FollowGraph.Proofs.Json.Order
import FollowGraph.Proofs.Program.Moves
import FollowGraph.Proofs.Service.Contracts

/-!
# What a request for suggestions does to the ids shown

The two kinds of suggestions keep the ids they have shown under keys of their own, one for each
viewer, and no two of all these keys are equal. A request touches its key in one place only: it
reads the ids, and may then write them back with new ones. `SeenWindow.filterUnseen_cases` says how,
for any stores, and `Engine.request_moves` that nothing else in a request touches the key.
-/

set_option autoImplicit false

namespace FollowGraph

inductive Engine where
  | friends
  | interests
  deriving DecidableEq

namespace Engine

def window : Engine → SeenWindow
  | .friends => .suggestions
  | .interests => .interestSuggestions

/-- How long ids are remembered. -/
def seconds : Engine → Int
  | .friends => 300
  | .interests => 600

theorem ttl_window (engine : Engine) : engine.window.ttl = .int engine.seconds := by
  cases engine <;> rfl

def request (engine : Engine) (viewer : String) (page limit : Int) : Operation :=
  match engine with
  | .friends => .getSuggestions viewer page limit
  | .interests => .getInterestSuggestions viewer page limit

def key (engine : Engine) (viewer : String) : Json := engine.window.key (.str viewer)

theorem key_inj {engine engine' : Engine} {viewer viewer' : String}
    (h : engine.key viewer = engine'.key viewer') : engine = engine' ∧ viewer = viewer' := by
  have same : engine.window.keyspace ++ ":" ++ viewer = engine'.window.keyspace ++ ":" ++ viewer' :=
    Json.str.inj h
  cases engine <;> cases engine'
  · exact ⟨rfl, (String.append_right_inj _).1 same⟩
  · -- The keyspaces begin with different letters.
    have := congrArg (fun s => s.toList.head?) same
    simp [window, SeenWindow.suggestions, SeenWindow.interestSuggestions] at this
  · have := congrArg (fun s => s.toList.head?) same
    simp [window, SeenWindow.suggestions, SeenWindow.interestSuggestions] at this
  · exact ⟨rfl, (String.append_right_inj _).1 same⟩

/-- An operation is a request of one viewer for one kind of suggestions, or has no effect on what
that viewer has been shown. -/
theorem request_or_avoids (engine : Engine) (viewer : String) (op : Operation) :
    (∃ page limit, op = engine.request viewer page limit) ∨
      .cache (engine.key viewer) ∉ op.effects := by
  have avoids {engine' : Engine} {viewer' : String} (other : engine' = engine → viewer' ≠ viewer) :
      Effect.cache (engine.key viewer) ∉ [Effect.cache (engine'.key viewer')] := by
    intro there
    obtain ⟨rfl, rfl⟩ := key_inj (Effect.cache.inj (List.mem_singleton.1 there))
    exact other rfl rfl
  cases op with
  | getSuggestions viewer' page limit =>
    by_cases own : Engine.friends = engine → viewer' ≠ viewer
    · exact .inr (avoids own)
    · obtain ⟨rfl, same⟩ := Classical.not_imp.1 own
      exact .inl ⟨page, limit, Classical.not_not.1 same ▸ rfl⟩
  | getInterestSuggestions viewer' page limit =>
    by_cases own : Engine.interests = engine → viewer' ≠ viewer
    · exact .inr (avoids own)
    · obtain ⟨rfl, same⟩ := Classical.not_imp.1 own
      exact .inl ⟨page, limit, Classical.not_not.1 same ▸ rfl⟩
  | _ => exact .inr (by simp [Operation.effects])

end Engine

/-! ## Remembered ids -/

namespace SeenWindow

/-- Remembered ids are texts. -/
theorem asText_of_mem_idsOf {x : UserId} {v : Value} (h : x ∈ idsOf v) : x.asText = x :=
  Json.asText_of_isText (isText_of_mem_idsOf h)

/-- What is written back holds all ids that were read. -/
theorem mem_idsOf_merged {seen ids : List UserId} {shown : Json} (h : merged seen ids = .ok shown)
    {x : UserId} (text : x.asText = x) (hx : x ∈ seen) : x ∈ idsOf (.plain shown) := by
  unfold merged at h
  cases hs : Json.sorted (distinct (seen ++ ids)) with
  | error failure =>
    rw [hs] at h
    cases h
  | ok out =>
    rw [hs] at h
    cases h
    refine mem_distinct.2 (List.mem_map.2 ⟨x, ?_, text⟩)
    exact (Json.sorted_perm hs).mem_iff.2 (mem_distinct.2 (List.mem_append_left ids hx))

variable {σ : Type} (b : Backend σ)

/-- Filtering reads the ids, and that is all, or it writes them back with others. -/
theorem filterUnseen_cases (window : SeenWindow) (viewer : UserId) (candidates : Value) {s t : σ}
    {seen : List UserId} (read : (window.seenIds viewer).run b s = (seen, t)) :
    ((window.filterUnseen viewer candidates).on b s).2 = t ∨
      ∃ ids shown new, merged seen ids = .ok shown ∧
        ((window.filterUnseen viewer candidates).on b s).2 =
          ((window.write viewer shown new).run b t).2 := by
  simp only [filterUnseen, remember, Attempt.on_bind, Attempt.on_always, Attempt.on_ofExcept,
    Attempt.on_ite, Attempt.on_pure, read]
  cases candidates.items with
  | error failure => exact .inl rfl
  | ok items =>
    dsimp only
    cases items.mapM candidate with
    | error failure => exact .inl rfl
    | ok nodes =>
      dsimp only
      generalize nodes.filter _ = unseen
      cases unseen.isEmpty with
      | true => exact .inl rfl
      | false =>
        simp only [Bool.false_eq_true, if_false]
        cases hm : merged seen (unseen.map UserNode.userId) with
        | error failure => exact .inl rfl
        | ok shown => exact .inr ⟨_, shown, _, hm, rfl⟩

/-- Filtering users whose ids are texts: those are left whose ids were not read, and if there are
any, their ids are written back with the others. -/
theorem on_filterUnseen_users (window : SeenWindow) (viewer : UserId) {nodes : List UserNode}
    (texts : ∀ u ∈ nodes, u.userId.isText = true) {s t : σ} {seen : List UserId}
    (read : (window.seenIds viewer).run b s = (seen, t)) :
    let unseen := nodes.filter fun u => !seen.contains u.userId
    (window.filterUnseen viewer (.users nodes)).on b s =
      (.ok unseen, if unseen.isEmpty then t else
        ((window.write viewer
          (.arr (Json.sortTexts (distinct (seen ++ unseen.map UserNode.userId))))
          unseen.length).run b t).2) := by
  intro unseen
  have seen_texts : ∀ x ∈ seen, x.isText = true := by
    have run := (obeys_seenIds (P := fun _ => True) window viewer trivial).run b s
    rwa [read] at run
  have new_texts : ∀ x ∈ unseen.map UserNode.userId, x.isText = true := by
    intro x hx
    obtain ⟨u, hu, rfl⟩ := List.mem_map.1 hx
    exact texts u (List.mem_filter.1 hu).1
  simp only [filterUnseen, Attempt.on_bind, Attempt.on_always, read, Attempt.on_ofExcept,
    Value.items_users, mapM_candidate_users texts, Attempt.on_ite, Attempt.on_pure, remember]
  rw [show (nodes.filter fun u => !seen.contains u.userId) = unseen from rfl]
  generalize unseen = unseen at new_texts ⊢
  cases unseen.isEmpty with
  | true => rfl
  | false =>
    simp only [Bool.false_eq_true, if_false, merged_of_texts seen_texts new_texts, List.length_map]

end SeenWindow

namespace World

/-- The ids that the live entry of a viewer holds. -/
def seen (w : World) (engine : Engine) (viewer : String) : List UserId :=
  SeenWindow.idsOf (.plain ((w.cache.live? w.clock (engine.key viewer)).getD .null))

theorem seen_of_entry {w : World} {engine : Engine} {viewer : String} {entry : CacheEntry}
    (h : w.cache.entry? (engine.key viewer) = some entry) (alive : w.clock < entry.expiresAt) :
    w.seen engine viewer = SeenWindow.idsOf (.plain entry.value) := by
  rw [seen, Cache.live?_eq_some h alive]
  rfl

theorem seen_congr {w v : World} {engine : Engine} {viewer : String} (clock : v.clock = w.clock)
    (entry : v.cache.entry? (engine.key viewer) = w.cache.entry? (engine.key viewer)) :
    v.seen engine viewer = w.seen engine viewer := by
  rw [seen, seen, Cache.live?, Cache.live?, clock, entry]

end World

/-! ## Requests -/

section Requests

variable {σ : Type} {b : Backend σ} {Q : σ → σ → Prop}

/-- One filtering of candidates. -/
def Engine.Filters (b : Backend σ) (engine : Engine) (viewer : String) (s t : σ) : Prop :=
  ∃ candidates, t = ((engine.window.filterUnseen (.str viewer) candidates).on b s).2

/-- A call that leaves the ids shown to a viewer alone. -/
def Engine.Avoids (engine : Engine) (viewer : String) (c : Call) : Prop :=
  c.effect ≠ some (.cache (engine.key viewer))

theorem Engine.avoids_of_within {engine : Engine} {viewer : String} {effects : List Effect}
    (out : .cache (engine.key viewer) ∉ effects) (c : Call) (h : c.Within effects) :
    engine.Avoids viewer c := fun same => out (h _ same)

instance (engine : Engine) (viewer : String) : AllowsReads (engine.Avoids viewer) where
  read h same := by
    rw [h] at same
    cases same

open Attempt

/-- A request filters its candidates once, or not at all, and nothing before or after that touches
the ids shown. -/
theorem Engine.request_moves (engine : Engine) (viewer : String) (page limit : Int)
    (keeps : b.Keeps (engine.Avoids viewer) Q) :
    (engine.request viewer page limit).program.Moves b
      (Around Q (engine.Filters b viewer)) := by
  have filters (candidates : Value) :
      (engine.window.filterUnseen (.str viewer) candidates).Moves b
        (Around Q (engine.Filters b viewer)) :=
    Moves.event (fun s => ⟨candidates, rfl⟩) keeps
  cases engine with
  | friends =>
    refine Moves.after (asks_ofExcept _).uses keeps fun
      | some refusal => Moves.quiet (asks_pure _).uses keeps
      | none => Moves.catching ?_ keeps fun _ => trivial
    refine Moves.after (Suggestions.asks_fetchCandidates _ _ _).uses keeps fun candidates => ?_
    refine Moves.after (asks_log _ _ _).uses keeps fun _ => ?_
    refine (filters candidates.users).before keeps fun unseen => ?_
    exact ((Enrichment.asks_enrichMany _ _).bind fun _ _ => asks_pure _).uses
  | interests =>
    refine Moves.after (asks_ofExcept _).uses keeps fun
      | some refusal => Moves.quiet (asks_pure _).uses keeps
      | none => Moves.catching ?_ keeps fun _ => trivial
    refine Moves.after (asks_read rfl).uses keeps fun raw => ?_
    refine (filters raw).before keeps fun unseen => ?_
    exact ((Enrichment.asks_enrichManyUnfollowed _ _).bind fun _ _ =>
      (asks_ofExcept _).bind fun _ _ => asks_pure _).uses

end Requests
end FollowGraph
