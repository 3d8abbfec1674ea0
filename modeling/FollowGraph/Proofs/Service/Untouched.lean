import FollowGraph.Proofs.Graph.Texts
import FollowGraph.Proofs.Program.Commits
import FollowGraph.Proofs.Service.Flaky
import FollowGraph.Proofs.Store.Silent

/-!
# Operations that succeed or change nothing

An operation reads first, and then makes one write that it answers for. A request for suggestions
writes before it has its answer, but to the cache, and then nothing can go wrong any more: users
whose ids are texts can always be filtered, and annotated or left out. So each operation succeeds or
spares the stores, whatever fails in it (`Flaky.spares_program`).

There are two exceptions. An update reads the user back after it was stored. A block takes away the
following edges of its pair before it sets its own edge, and what it took away stays away:
`World.Detached` is all that a block without success can have done.
-/

set_option autoImplicit false

namespace FollowGraph

open Attempt Response

/-! ## Calls that change nothing, and writes that did not -/

def Call.Reads (c : Call) : Prop := c.effect = none

instance : AllowsReads Call.Reads where
  read h := h

abbrev Response.Succeeds (r : Response) : Prop := r.success = true

namespace Graph

/-- What did not change the graph says so, and the other way round. -/
theorem written_holds_or_same (g : Graph) (changed : Except Failure (Option Graph)) :
    (∃ v, (g.written changed).1 = .ok v ∧ v.isFalsy = false) ∨ (g.written changed).2 = g := by
  match changed with
  | .ok (some g') => exact .inl ⟨_, rfl, rfl⟩
  | .ok none => exact .inr rfl
  | .error _ => exact .inr rfl

end Graph

namespace World

theorem answer_of_reads {c : Call} (h : c.Reads) (w : World) : (w.answer c).2 = w := by
  cases c with
  | graph call => cases call <;> first | rfl | cases h
  | presetMutualCount source target => rfl
  | cacheGet _ | cacheSet _ _ _ | cacheDelete _ | publish _ _ => cases h

/-- Nothing is different but the log. -/
def Untouched (w v : World) : Prop := v.unlogged = w.unlogged

theorem keeps_untouched : backend.Keeps Call.Reads Untouched where
  refl _ := rfl
  trans first second := second.trans first
  answer _ w h := congrArg unlogged (answer_of_reads h w)
  record _ _ := rfl

end World

namespace Flaky

variable (schedule : Schedule) {P : Call → Prop} {S : World → World → Prop}

/-- A write to the graph holds, or it has done nothing. -/
theorem commits_write (keeps : World.backend.Keeps P S) {call : GraphCall}
    (writes : ∀ g : Graph, ∃ changed, g.answer call = g.written changed) :
    (Attempt.call (.graph call)).Commits (backend schedule) (fun s t => S s.world t.world)
      fun v => v.isFalsy = false := by
  intro s
  rw [on_call]
  cases hf : schedule s.total (.graph call) with
  | some failure =>
    rw [answer_of_failing schedule hf]
    exact .inr (keeps.refl s.world)
  | none =>
    rw [answer_of_passing schedule hf]
    obtain ⟨changed, answered⟩ := writes s.world.graph
    have same : s.world.answer (.graph call) =
        ((s.world.graph.written changed).1,
          { s.world with graph := (s.world.graph.written changed).2 }) := by
      show ((s.world.graph.answer call).1, { s.world with graph := (s.world.graph.answer call).2 }) = _
      rw [answered]
    rw [same]
    refine (s.world.graph.written_holds_or_same changed).imp_right ?_
    intro unchanged
    show S s.world { s.world with graph := _ }
    rw [unchanged]
    exact keeps.refl s.world

/-- An attempt that succeeds or changes nothing in the stores. -/
abbrev Spares (x : Attempt Response) : Prop :=
  x.Commits (backend schedule) (fun s t => World.Untouched s.world t.world) Succeeds

theorem keeps_untouched :
    (backend schedule).Keeps Call.Reads fun s t => World.Untouched s.world t.world :=
  keeps_worlds schedule World.keeps_untouched

theorem spares_of_uses {x : Attempt Response} (h : x.Uses Call.Reads) : Spares schedule x :=
  commits_of_uses h (keeps_untouched schedule)

theorem spares_refusal (r : Response) : Spares schedule (pure r) :=
  commits_pure (keeps_untouched schedule) r

/-- What is done about a failure is no call. -/
theorem spares_catching {x : Attempt Response} (h : Spares schedule x) (entry : Failure → LogEntry)
    (response : Response) :
    Spares schedule (always (x.catching fun failure => .note (entry failure) (.done response))) :=
  commits_always (h.catching (keeps_untouched schedule) fun _ => trivial)

/-- One write, and a success if it holds. -/
theorem spares_write {call : GraphCall}
    (writes : ∀ g : Graph, ∃ changed, g.answer call = g.written changed) {yes : Attempt Response}
    (done : yes.Obeys (fun _ => True) Succeeds False) (refusal : Response) :
    Spares schedule (do if ← (Attempt.call (.graph call)).holds then yes else pure refusal) :=
  Commits.decide (commits_write schedule World.keeps_untouched writes) (keeps_untouched schedule)
    done (spares_refusal schedule refusal)

/-- A success with an entry in the log. -/
theorem obeys_logged_ok (level : LogLevel) (source : LogSource) (text message : String)
    (data : Value) :
    (do Attempt.log level source text
        pure (Response.ok message data)).Obeys (fun _ => True) Succeeds False :=
  (obeys_log level source text).bind fun _ _ => obeys_pure rfl

/-! ## One write -/

theorem spares_create (user : UserNode) : Spares schedule (always (Users.create user)) := by
  refine spares_catching schedule ?_ _ _
  have upserted : (Ask.upsertUserNode user).Commits (backend schedule)
      (fun s t => World.Untouched s.world t.world) fun v => ∃ u, v = .user u := by
    intro s
    rw [Ask.upsertUserNode, on_call]
    cases hf : schedule s.total (.graph (.upsertUserNode user)) with
    | some failure =>
      rw [answer_of_failing schedule hf]
      exact .inr rfl
    | none =>
      rw [answer_of_passing schedule hf]
      simp only [World.answer, Graph.answer]
      cases user.userId.requireHashable with
      | error failure => exact .inr rfl
      | ok _ => exact .inl ⟨_, rfl, _, rfl⟩
  refine upserted.bind (keeps_untouched schedule) ?_ ?_
  · rintro _ ⟨u, rfl⟩
    exact (obeys_ofExcept (fun _ _ => trivial) fun _ differ => by cases differ).bind fun _ _ =>
      obeys_logged_ok ..
  · intro stored _
    refine spares_of_uses schedule (show Asks Call.Reads _ from ?_).uses
    exact (asks_ofExcept _).bind fun _ _ => (asks_log _ _ _).bind fun _ _ => asks_pure _

theorem spares_follow (a b : UserId) : Spares schedule (always (Follow.follow a b)) := by
  refine commits_always ?_
  unfold Follow.follow
  split
  · exact Program.commits_done (keeps_untouched schedule) _
  · have added : (Follow.followEdge a b).Commits (backend schedule)
        (fun s t => World.Untouched s.world t.world) (· = none) := by
      have keeps := keeps_untouched schedule
      refine Commits.after (Follow.asks_bothExist a b).uses keeps fun _ _ => ?_
      refine commits_ite (commits_pure keeps _) ?_
      refine Commits.after (Queries.asks_isFollowing a b).uses keeps fun _ _ => ?_
      refine commits_ite (commits_pure keeps _) ?_
      refine Commits.after (Queries.asks_isBlocked a b).uses keeps fun _ _ => ?_
      refine commits_ite (commits_pure keeps _) ?_
      refine Commits.decide (commits_write schedule World.keeps_untouched fun _ => ⟨_, rfl⟩) keeps
        ?_ (commits_pure keeps _)
      exact (obeys_log _ _ _).bind fun _ _ => obeys_pure rfl
    refine Program.Commits.bind (Q := (· = none)) ?_ (keeps_untouched schedule) ?_ ?_
    · exact added.catching (keeps_untouched schedule) fun _ => trivial
    · rintro _ rfl
      exact (Follow.obeys_notifyNewFollow a b fun _ _ => trivial).bind fun _ _ =>
        Program.obeys_done rfl
    · intro refusal refused
      cases refusal with
      | none => exact absurd rfl refused
      | some response => exact Program.commits_done (keeps_untouched schedule) response

theorem spares_unfollow (a b : UserId) : Spares schedule (always (Follow.unfollow a b)) := by
  unfold Follow.unfollow
  split
  · exact spares_refusal schedule _
  · refine spares_catching schedule ?_ _ _
    refine Commits.after (Queries.asks_isFollowing a b).uses (keeps_untouched schedule) fun _ _ => ?_
    refine commits_ite (spares_refusal schedule _) ?_
    refine Commits.after (Queries.asks_isBlocked a b).uses (keeps_untouched schedule) fun _ _ => ?_
    refine commits_ite (spares_refusal schedule _) ?_
    exact spares_write schedule (fun _ => ⟨_, rfl⟩) (obeys_logged_ok ..) _

theorem spares_removeFollower (user follower : UserId) :
    Spares schedule (always (Follow.removeFollower user follower)) := by
  unfold Follow.removeFollower
  split
  · exact spares_refusal schedule _
  · refine spares_catching schedule ?_ _ _
    refine Commits.after (Queries.asks_isBlocked user follower).uses (keeps_untouched schedule)
      fun _ _ => ?_
    refine commits_ite (spares_refusal schedule _) ?_
    refine Commits.after (Queries.asks_isFollowing follower user).uses (keeps_untouched schedule)
      fun _ _ => ?_
    refine commits_ite (spares_refusal schedule _) ?_
    exact spares_write schedule (fun _ => ⟨_, rfl⟩) (obeys_logged_ok ..) _

theorem spares_unblock (a b : UserId) : Spares schedule (always (Block.unblock a b)) := by
  unfold Block.unblock
  split
  · exact spares_refusal schedule _
  · refine spares_catching schedule ?_ _ _
    refine Commits.after (Queries.asks_blockedDirection a b).uses (keeps_untouched schedule) ?_
    rintro (_ | ⟨blocker, blocked⟩) _
    · exact spares_refusal schedule _
    · exact spares_write schedule (fun _ => ⟨_, rfl⟩) (obeys_logged_ok ..) _

theorem spares_setInterests (userId : UserId) (tags : List Json) :
    Spares schedule (Interests.set userId (.arr tags)) := by
  refine Commits.after (asks_ofExcept _).uses (keeps_untouched schedule) ?_
  rintro (_ | tags) _
  · exact spares_refusal schedule _
  · refine spares_catching schedule ?_ _ _
    exact spares_write schedule (fun _ => ⟨_, rfl⟩) (obeys_logged_ok ..) _

/-! ## Requests for suggestions -/

theorem answer_of_ok {c : Call} {s : Flaky} {v : Value}
    (h : ((backend schedule).answer c s).1 = .ok v) : (s.world.answer c).1 = .ok v := by
  cases hf : schedule s.total c with
  | some failure =>
    rw [answer_of_failing schedule hf] at h
    cases h
  | none =>
    rw [answer_of_passing schedule hf] at h
    exact h

theorem isUserList_of_fetchCandidates {viewer : UserId} {page limit : Json} {s : Flaky}
    {candidates : CandidatePage}
    (h : ((Suggestions.fetchCandidates viewer page limit).on (backend schedule) s).1 =
      .ok candidates) : candidates.users.IsUserList := by
  obtain ⟨count, -, h⟩ := of_on_bind_eq_ok h
  obtain ⟨start, -, h⟩ := of_on_bind_eq_ok h
  obtain ⟨isSecond, -, h⟩ := of_on_bind_eq_ok h
  cases isSecond <;>
  · obtain ⟨users, listed, h⟩ := of_on_bind_eq_ok h
    obtain ⟨total, -, h⟩ := of_on_bind_eq_ok h
    obtain ⟨isLastPage, -, h⟩ := of_on_bind_eq_ok h
    cases h
    exact Graph.isUserList_of_nodePage (answer_of_ok schedule listed)

theorem spares_getSuggestions (viewer : UserId) (page limit : Int) :
    Spares schedule (Suggestions.getSuggestions viewer (.int page) (.int limit)) := by
  refine Commits.after (asks_ofExcept _).uses (keeps_untouched schedule) ?_
  rintro (_ | refusal) _
  · refine spares_catching schedule ?_ _ _
    refine Commits.after (Suggestions.asks_fetchCandidates viewer _ _).uses
      (keeps_untouched schedule) ?_
    rintro candidates ⟨s, fetched⟩
    obtain ⟨nodes, same, texts⟩ := isUserList_of_fetchCandidates schedule fetched
    rw [same]
    -- The cache is written in what follows, and nothing in it can fail.
    refine commits_of_obeys ((obeys_log _ _ _).bind fun _ _ => ?_)
    refine (SeenWindow.obeys_filterUnseen_users _ viewer texts trivial fun _ => trivial).bind
      fun unseen _ => ?_
    exact (Enrichment.obeys_enrichMany_users unseen viewer).bind fun _ _ => obeys_pure rfl
  · exact spares_refusal schedule refusal

theorem spares_getInterestSuggestions (viewer : String) (page limit : Int) :
    Spares schedule (Interests.getSuggestions (.str viewer) (.int page) (.int limit)) := by
  refine Commits.after (asks_ofExcept _).uses (keeps_untouched schedule) ?_
  rintro (_ | refusal) _
  · refine spares_catching schedule ?_ _ _
    refine Commits.after (asks_read rfl).uses (keeps_untouched schedule) ?_
    rintro raw ⟨s, listed⟩
    have shown : (s.world.graph.listing (s.world.graph.nodePage
        (s.world.graph.sharingIds (.str viewer)) (.int page) (.int limit))).1 = .ok raw :=
      answer_of_ok schedule listed
    obtain ⟨nodes, rfl, texts⟩ := Graph.isUserList_of_nodePage shown
    refine commits_of_obeys ?_
    refine (SeenWindow.obeys_filterUnseen_users _ _ texts trivial fun _ => trivial).bind
      fun unseen _ => ?_
    refine (Enrichment.obeys_enrichManyUnfollowed_users unseen _).bind fun _ _ => ?_
    rw [pageMetaOf_users]
    exact (obeys_ofExcept (fun _ _ => trivial) fun _ differ => by cases differ).bind fun _ _ =>
      obeys_pure rfl
  · exact spares_refusal schedule refusal

/-! ## All operations but two -/

theorem reads_of_within_nil {c : Call} (h : c.Within []) : c.Reads := by
  cases effect : c.effect with
  | none => exact effect
  | some e => cases h e effect

theorem spares_program (op : Operation) (no_update : ∀ user, op ≠ .updateUser user)
    (no_block : ∀ a b, op ≠ .block a b) : Spares schedule op.program := by
  have quiet (h : op.effects = []) : Spares schedule op.program :=
    spares_of_uses schedule <| op.uses_effects.mono fun _ within =>
      reads_of_within_nil (h ▸ within)
  cases op with
  | createUser user => exact spares_create schedule user
  | updateUser user => exact absurd rfl (no_update user)
  | follow a b => exact spares_follow schedule _ _
  | unfollow a b => exact spares_unfollow schedule _ _
  | removeFollower a b => exact spares_removeFollower schedule _ _
  | block a b => exact absurd rfl (no_block a b)
  | unblock a b => exact spares_unblock schedule _ _
  | getSuggestions viewer page limit => exact spares_getSuggestions schedule _ page limit
  | setInterests userId tags => exact spares_setInterests schedule _ tags
  | getInterestSuggestions viewer page limit =>
    exact spares_getInterestSuggestions schedule viewer page limit
  | _ => exact quiet rfl

end Flaky

/-! ## Blocking -/

/-- Whether the edge is one by which either of two users follows the other. -/
def Edge.isFollowBetween (a b : UserId) (e : Edge) : Bool :=
  e == ⟨a, b, .following⟩ || e == ⟨b, a, .following⟩

/-- The calls of a block before its last one. -/
def Block.Prepares (a b : UserId) (c : Call) : Prop :=
  c.Reads ∨ c = .graph (.deleteEdge a b .following) ∨ c = .graph (.deleteEdge b a .following)

instance (a b : UserId) : AllowsReads (Block.Prepares a b) where
  read := .inl

/-- Following edges between two users may be gone, and nothing else is different but the log. -/
structure World.Detached (a b : UserId) (w v : World) : Prop where
  profiles : v.graph.users.map (fun u => (u.userId, u.profile)) =
    w.graph.users.map fun u => (u.userId, u.profile)
  counted : w.graph.Counted → v.graph.Counted
  interests : v.graph.interests = w.graph.interests
  /-- No edge was added, and those that are left stand in their old order. -/
  edges : v.graph.edges.Sublist w.graph.edges
  /-- All other edges are left, every block among them. -/
  others : v.graph.edges.filter (fun e => !e.isFollowBetween a b) =
    w.graph.edges.filter fun e => !e.isFollowBetween a b
  /-- Cache, notifications and all the rest. -/
  stores : { v with graph := w.graph }.unlogged = w.unlogged

namespace World

theorem Detached.refl (a b : UserId) (w : World) : Detached a b w w :=
  ⟨rfl, id, rfl, List.Sublist.refl _, rfl, rfl⟩

theorem Detached.trans {a b : UserId} {w v u : World} (first : Detached a b w v)
    (second : Detached a b v u) : Detached a b w u where
  profiles := second.profiles.trans first.profiles
  counted h := second.counted (first.counted h)
  interests := second.interests.trans first.interests
  edges := second.edges.trans first.edges
  others := second.others.trans first.others
  stores :=
    (congrArg (fun x : World => { x with graph := w.graph }) second.stores).trans first.stores

theorem detached_removeEdge {a b : UserId} {w : World} {e : Edge} {g : Graph}
    (between : e.isFollowBetween a b = true) (removed : w.graph.removeEdge? e = some g) :
    Detached a b w { w with graph := g } := by
  have counted (h : w.graph.Counted) : g.Counted := h.removeEdge removed
  obtain ⟨-, rfl⟩ := Graph.removeEdge?_eq_some_iff.1 removed
  refine ⟨Graph.profiles_count .., counted, Graph.interests_count .., ?_, ?_, rfl⟩
  · rw [Graph.edges_count]
    exact List.erase_sublist
  · rw [Graph.edges_count, ← List.erase_filter, List.erase_of_not_mem]
    intro there
    have kept := (List.mem_filter.1 there).2
    rw [between] at kept
    cases kept

theorem keeps_detached (a b : UserId) : backend.Keeps (Block.Prepares a b) (Detached a b) where
  refl := Detached.refl a b
  trans := Detached.trans
  record _ w := ⟨rfl, id, rfl, List.Sublist.refl _, rfl, rfl⟩
  answer c w prepares := by
    have deleted {x y : UserId} (between : Edge.isFollowBetween a b ⟨x, y, .following⟩ = true) :
        Detached a b w (w.answer (.graph (.deleteEdge x y .following))).2 := by
      show Detached a b w { w with graph := (w.graph.written (.ok (w.graph.removeEdge? _))).2 }
      cases removed : w.graph.removeEdge? ⟨x, y, .following⟩ with
      | none => exact Detached.refl a b w
      | some g => exact detached_removeEdge between removed
    rcases prepares with reads | rfl | rfl
    · show Detached a b w (w.answer c).2
      rw [answer_of_reads reads]
      exact Detached.refl a b w
    · exact deleted (by simp [Edge.isFollowBetween])
    · exact deleted (by simp [Edge.isFollowBetween])

end World

/-- A block succeeds, or it has at most taken following edges of its pair away. -/
theorem Flaky.commits_block (schedule : Schedule) (a b : UserId) :
    (always (Block.block a b)).Commits (backend schedule)
      (fun s t => World.Detached a b s.world t.world) Succeeds := by
  have keeps := keeps_worlds schedule (World.keeps_detached a b)
  unfold Block.block
  split
  · exact commits_pure keeps _
  · refine commits_always (Commits.catching ?_ keeps fun _ => trivial)
    refine Commits.after (Follow.asks_bothExist a b).uses keeps fun _ _ => ?_
    refine commits_ite (commits_pure keeps _) ?_
    refine Commits.after (Queries.asks_isBlocked a b).uses keeps fun _ _ => ?_
    refine commits_ite (commits_pure keeps _) ?_
    refine Commits.after (show Asks (Block.Prepares a b) _ from obeys_always ?_).uses keeps
      fun _ _ => ?_
    · exact Block.obeys_detach _ _ _ (Queries.asks_isFollowing a b)
        (Follow.obeys_unfollow a b (.inr (.inl rfl)))
    refine Commits.after (show Asks (Block.Prepares a b) _ from obeys_always ?_).uses keeps
      fun _ _ => ?_
    · exact Block.obeys_detach _ _ _ (Queries.asks_isFollowing b a)
        (Follow.obeys_removeFollower a b (.inr (.inr rfl)))
    refine Commits.decide ?_ keeps (obeys_logged_ok ..) (commits_pure keeps _)
    exact commits_write schedule (World.keeps_detached a b) fun _ => ⟨_, rfl⟩

end FollowGraph
