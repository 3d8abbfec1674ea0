import FollowGraph.Proofs.Pair.Refinement
import FollowGraph.Proofs.Service.Announcements
import Mathlib.Data.Sym.Sym2

/-!
# Operations on different pairs commute

An operation looks at the pair of its two users, in both directions, and at nothing else: from
states that agree about that pair it goes to states that agree about it (`Pairs.Agree.step`), and
about all other pairs it leaves things as they were (`Pairs.agree_step`). Two operations with
different pairs can share a user. They still cannot see each other, because no pair is a pair of
both, so on the machine either order comes to the same state (`Pairs.step_comm`).

On the graph that settles the edges, and the edges settle the counters of every user. What is
announced depends on the answer to the follow and on the follower's name, of which no operation
changes either (`PairOperation.sends`).
-/

set_option autoImplicit false

namespace FollowGraph

open Attempt Follow History

/-- The two users of an operation, in no order. -/
def PairOperation.pair : PairOperation → Sym2 String
  | .follow a b | .unfollow a b | .removeFollower a b | .block a b | .unblock a b => s(a, b)

/-- Its ordered pairs, one in each direction. -/
def PairOperation.own (op : PairOperation) : Set (UserId × UserId) :=
  {x | ∃ a b, x = (.str a, .str b) ∧ op.pair = s(a, b)}

theorem PairOperation.own_subset_compl {op other : PairOperation} (apart : op.pair ≠ other.pair) :
    op.own ⊆ other.ownᶜ := by
  rintro _ ⟨a, b, rfl, mine⟩ ⟨c, d, same, theirs⟩
  cases same
  exact apart (mine.trans theirs.symm)

/-! ## Agreement about some pairs -/

namespace Pairs

/-- A pair is there, of a kind. -/
def Has (p : Pairs) : Relationship → UserId × UserId → Prop
  | .following, x => x ∈ p.following
  | .blocked, x => x ∈ p.blocked

/-- The same users, and the same of some pairs. -/
structure Agree (s : Set (UserId × UserId)) (p q : Pairs) : Prop where
  users : q.users = p.users
  has : ∀ kind, ∀ x ∈ s, q.Has kind x ↔ p.Has kind x

variable {s t : Set (UserId × UserId)} {p q r : Pairs} {kind : Relationship} {x : UserId × UserId}

theorem has_insert {other : Relationship} {y : UserId × UserId} :
    (p.insert kind x).Has other y ↔ (other = kind ∧ y = x) ∨ p.Has other y := by
  cases kind <;> cases other <;> simp [insert, Has]

theorem has_erase {other : Relationship} {y : UserId × UserId} :
    (p.erase kind x).Has other y ↔ ¬ (other = kind ∧ y = x) ∧ p.Has other y := by
  cases kind <;> cases other <;> simp [erase, Has]

theorem users_insert (p : Pairs) (kind : Relationship) (x : UserId × UserId) :
    (p.insert kind x).users = p.users := by
  cases kind <;> rfl

theorem users_erase (p : Pairs) (kind : Relationship) (x : UserId × UserId) :
    (p.erase kind x).users = p.users := by
  cases kind <;> rfl

namespace Agree

theorem refl (s : Set (UserId × UserId)) (p : Pairs) : Agree s p p := ⟨rfl, fun _ _ _ => Iff.rfl⟩

theorem symm (h : Agree s p q) : Agree s q p :=
  ⟨h.users.symm, fun kind x there => (h.has kind x there).symm⟩

theorem trans (first : Agree s p q) (second : Agree s q r) : Agree s p r :=
  ⟨second.users.trans first.users,
    fun kind x there => (second.has kind x there).trans (first.has kind x there)⟩

/-- States that agree about every pair are the same. -/
theorem eq_of_cover (first : Agree s p q) (second : Agree t p q) (cover : ∀ x, x ∈ s ∨ x ∈ t) :
    q = p := by
  have has (kind : Relationship) (x : UserId × UserId) : q.Has kind x ↔ p.Has kind x := by
    rcases cover x with there | there
    · exact first.has kind x there
    · exact second.has kind x there
  exact Pairs.ext first.users (Finset.ext (has .following)) (Finset.ext (has .blocked))

protected theorem insert (h : Agree s p q) (kind : Relationship) (x : UserId × UserId) :
    Agree s (p.insert kind x) (q.insert kind x) := by
  refine ⟨?_, fun other y there => ?_⟩
  · rw [users_insert, users_insert, h.users]
  · rw [has_insert, has_insert, h.has other y there]

protected theorem erase (h : Agree s p q) (kind : Relationship) (x : UserId × UserId) :
    Agree s (p.erase kind x) (q.erase kind x) := by
  refine ⟨?_, fun other y there => ?_⟩
  · rw [users_erase, users_erase, h.users]
  · rw [has_erase, has_erase, h.has other y there]

end Agree

theorem agree_insert (p : Pairs) (kind : Relationship) (out : x ∉ s) :
    Agree s p (p.insert kind x) := by
  refine ⟨users_insert p kind x, fun other y there => ?_⟩
  have differ : y ≠ x := fun same => out (same ▸ there)
  simp [has_insert, differ]

theorem agree_erase (p : Pairs) (kind : Relationship) (out : x ∉ s) :
    Agree s p (p.erase kind x) := by
  refine ⟨users_erase p kind x, fun other y there => ?_⟩
  have differ : y ≠ x := fun same => out (same ▸ there)
  simp [has_erase, differ]

/-! ## One step -/

theorem agree_ite {c : Prop} [Decidable c] {y z : Response × Pairs} (first : Agree s p y.2)
    (second : Agree s p z.2) : Agree s p (if c then y else z).2 := by
  split
  · exact first
  · exact second

/-- An operation leaves all pairs but its own as they were. -/
theorem agree_step (p : Pairs) (op : PairOperation) : Agree op.ownᶜ p (p.step op).2 := by
  have refused : Agree op.ownᶜ p p := .refl _ p
  have own {a b : String} (mine : op.pair = s(a, b)) : (.str a, .str b) ∉ op.ownᶜ :=
    fun out => out ⟨a, b, rfl, mine⟩
  cases op with
  | follow a b =>
    refine agree_ite refused (agree_ite refused (agree_ite refused (agree_ite refused ?_)))
    exact agree_insert p .following (own rfl)
  | unfollow a b =>
    refine agree_ite refused (agree_ite refused (agree_ite refused ?_))
    exact agree_erase p .following (own rfl)
  | removeFollower a b =>
    refine agree_ite refused (agree_ite refused (agree_ite refused ?_))
    exact agree_erase p .following (own Sym2.eq_swap)
  | block a b =>
    refine agree_ite refused (agree_ite refused (agree_ite refused ?_))
    have out := agree_erase p .following (own rfl)
    have back := agree_erase (p.erase .following (.str a, .str b)) .following (own Sym2.eq_swap)
    exact (out.trans back).trans (agree_insert _ .blocked (own rfl))
  | unblock a b =>
    refine agree_ite refused (agree_ite refused ?_)
    show Agree _ p (if _ then _ else _)
    split
    · exact agree_erase p .blocked (own rfl)
    · exact agree_erase p .blocked (own Sym2.eq_swap)

/-- The same answer, and states that agree about some pairs. -/
def Alike (s : Set (UserId × UserId)) (y y' : Response × Pairs) : Prop :=
  y'.1 = y.1 ∧ Agree s y.2 y'.2

theorem alike_ite {c c' : Prop} [Decidable c] [Decidable c'] {y y' z z' : Response × Pairs}
    (same : c' ↔ c) (first : Alike s y y') (second : Alike s z z') :
    Alike s (if c then y else z) (if c' then y' else z') := by
  by_cases now : c
  · rw [if_pos now, if_pos (same.2 now)]
    exact first
  · rw [if_neg now, if_neg fun there => now (same.1 there)]
    exact second

namespace Agree

theorem both (h : Agree s p q) (a b : UserId) : q.Both a b ↔ p.Both a b := by
  rw [Both, Both, h.users]

/-- An operation cannot tell states apart that agree about its own pairs. -/
theorem step {op : PairOperation} (h : Agree s p q) (sub : op.own ⊆ s) :
    Alike s (p.step op) (q.step op) := by
  have refused (r : Response) : Alike s (r, p) (r, q) := ⟨rfl, h⟩
  have own {a b : String} (mine : op.pair = s(a, b)) : (.str a, .str b) ∈ s :=
    sub ⟨a, b, rfl, mine⟩
  have follows {a b : String} (mine : op.pair = s(a, b)) :=
    h.has .following (.str a, .str b) (own mine)
  have blocks {a b : String} (mine : op.pair = s(a, b)) :=
    h.has .blocked (.str a, .str b) (own mine)
  have limited {a b : String} (mine : op.pair = s(a, b)) :
      q.Limited (.str a) (.str b) ↔ p.Limited (.str a) (.str b) :=
    or_congr (blocks mine) (blocks (mine.trans Sym2.eq_swap))
  cases op with
  | follow a b =>
    refine alike_ite Iff.rfl (refused _) (alike_ite (not_congr (h.both _ _)) (refused _) ?_)
    refine alike_ite (follows rfl) (refused _) (alike_ite (limited rfl) (refused _) ?_)
    exact ⟨rfl, h.insert .following (.str a, .str b)⟩
  | unfollow a b =>
    refine alike_ite Iff.rfl (refused _) (alike_ite (not_congr (follows rfl)) (refused _) ?_)
    refine alike_ite (limited rfl) (refused _) ?_
    exact ⟨rfl, h.erase .following (.str a, .str b)⟩
  | removeFollower a b =>
    refine alike_ite Iff.rfl (refused _) (alike_ite (limited rfl) (refused _) ?_)
    refine alike_ite (not_congr (follows Sym2.eq_swap)) (refused _) ?_
    exact ⟨rfl, h.erase .following (.str b, .str a)⟩
  | block a b =>
    refine alike_ite Iff.rfl (refused _) (alike_ite (not_congr (h.both _ _)) (refused _) ?_)
    refine alike_ite (limited rfl) (refused _) ?_
    have out := h.erase .following (.str a, .str b)
    exact ⟨rfl, (out.erase .following (.str b, .str a)).insert .blocked (.str a, .str b)⟩
  | unblock a b =>
    refine alike_ite Iff.rfl (refused _) (alike_ite (not_congr (limited rfl)) (refused _) ?_)
    refine ⟨rfl, ?_⟩
    have ours : (.str a, .str b) ∈ q.blocked ↔ (.str a, .str b) ∈ p.blocked := blocks rfl
    simp only [ours]
    split
    · exact h.erase .blocked (.str a, .str b)
    · exact h.erase .blocked (.str b, .str a)

end Agree

/-- **Steps on different pairs commute**, each with the answer that it has when it comes first. -/
theorem step_comm (p : Pairs) {first second : PairOperation} (apart : first.pair ≠ second.pair) :
    ((p.step second).2.step first).1 = (p.step first).1 ∧
      ((p.step second).2.step first).2 = ((p.step first).2.step second).2 := by
  -- Away from the pairs of `second`, only `first` moves anything, and the other way round.
  obtain ⟨answer, left⟩ := (p.agree_step second).step (PairOperation.own_subset_compl apart)
  obtain ⟨-, right⟩ := (p.agree_step first).step (PairOperation.own_subset_compl apart.symm)
  have away := (agree_step (p.step first).2 second).symm.trans left
  have here := right.symm.trans (agree_step (p.step second).2 first)
  refine ⟨answer, away.eq_of_cover here fun x => ?_⟩
  by_cases own : x ∈ second.own
  · exact .inr fun other => PairOperation.own_subset_compl apart other own
  · exact .inl own

end Pairs

/-! ## Edges and counters -/

namespace Graph.Counted

variable {g g' : Graph}

/-- The pairs of a graph are its edges, up to their order. -/
theorem edges_perm (h : g.Counted) (h' : g'.Counted) (same : g'.pairs = g.pairs) :
    g'.edges.Perm g.edges := by
  refine (List.perm_ext_iff_of_nodup h'.edges_nodup h.edges_nodup).2 fun e => ?_
  obtain ⟨a, b, kind⟩ := e
  rw [← mem_pairsOf, ← mem_pairsOf]
  cases kind with
  | following => exact iff_of_eq (congrArg (fun p => (a, b) ∈ p.following) same)
  | blocked => exact iff_of_eq (congrArg (fun p => (a, b) ∈ p.blocked) same)

/-- Who is stored, and which edges there are, settles every user with both counters. -/
theorem users_eq (h : g.Counted) (h' : g'.Counted) (profiles : g'.profiles = g.profiles)
    (edges : g'.edges.Perm g.edges) : g'.users = g.users := by
  have tally (stop : Edge → UserId) (userId : UserId) :
      tally g'.edges stop userId = tally g.edges stop userId :=
    congrArg Nat.cast (edges.countP_eq _)
  have length : g'.users.length = g.users.length := by
    simpa only [Graph.profiles, List.length_map] using congrArg List.length profiles
  refine List.ext_getElem length fun i there here => ?_
  have profile : (g'.users[i].userId, g'.users[i].profile) =
      (g.users[i].userId, g.users[i].profile) := by
    simpa only [Graph.profiles, List.getElem_map] using
      List.getElem_of_eq profiles (by simpa only [Graph.profiles, List.length_map] using there)
  obtain ⟨sameId, sameProfile⟩ := Prod.mk.inj profile
  have following := h'.following_tally (List.getElem_mem there)
  have followers := h'.followers_tally (List.getElem_mem there)
  rw [tally, sameId, ← h.following_tally (List.getElem_mem here)] at following
  rw [tally, sameId, ← h.followers_tally (List.getElem_mem here)] at followers
  revert sameId sameProfile following followers
  cases g'.users[i]
  cases g.users[i]
  rintro rfl rfl rfl rfl
  rfl

end Graph.Counted

/-! ## Notifications -/

namespace Wiring

/-- What memory keeps of some notifications. -/
def kept (wiring : Wiring) (sent : List Event) : List Event :=
  match wiring.channel with
  | none => sent
  | some _ => []

/-- What the server is told of some notifications. -/
def posted (wiring : Wiring) (sent : List Event) : List KeyspaceCommand :=
  match wiring.channel with
  | none => []
  | some channel => sent.map fun event =>
    .publish channel.name (Keyspace.eventMessage event.name (.obj event.payload))

variable {wiring : Wiring} {sent more : List Event}

theorem kept_append : wiring.kept (sent ++ more) = wiring.kept sent ++ wiring.kept more := by
  unfold kept
  split <;> rfl

theorem posted_append :
    wiring.posted (sent ++ more) = wiring.posted sent ++ wiring.posted more := by
  unfold posted
  split
  · rfl
  · exact List.map_append

theorem kept_perm (h : sent.Perm more) : (wiring.kept sent).Perm (wiring.kept more) := by
  unfold kept
  split
  · exact h
  · exact .refl _

theorem posted_perm (h : sent.Perm more) : (wiring.posted sent).Perm (wiring.posted more) := by
  unfold posted
  split
  · exact .refl _
  · exact h.map _

end Wiring

/-- The stores after some notifications were sent, with the same users as before. -/
structure World.Sends (w : World) (sent : List Event) (v : World) : Prop where
  wiring : v.wiring = w.wiring
  profiles : v.graph.profiles = w.graph.profiles
  events : v.events = w.events ++ w.wiring.kept sent
  commands : v.server.commands = w.server.commands ++ w.wiring.posted sent

namespace World

variable {u v w : World} {sent more : List Event}

theorem Sends.trans (first : w.Sends sent v) (second : v.Sends more u) :
    w.Sends (sent ++ more) u where
  wiring := second.wiring.trans first.wiring
  profiles := second.profiles.trans first.profiles
  events := by
    rw [second.events, first.events, first.wiring, Wiring.kept_append, List.append_assoc]
  commands := by
    rw [second.commands, first.commands, first.wiring, Wiring.posted_append, List.append_assoc]

theorem sends_nil (wiring : v.wiring = w.wiring) (profiles : v.graph.profiles = w.graph.profiles)
    (events : v.events = w.events) (server : v.server = w.server) : w.Sends [] v := by
  refine ⟨wiring, profiles, ?_, ?_⟩
  · rw [events, Wiring.kept]
    split <;> exact (List.append_nil _).symm
  · rw [server, Wiring.posted]
    split <;> exact (List.append_nil _).symm

/-- To write edges sends nothing. -/
theorem keeps_sent : backend.Keeps (Call.Within [.edges]) fun w v : World => w.Sends [] v where
  refl w := sends_nil rfl rfl rfl rfl
  trans := Sends.trans
  answer c w within := by
    have other {e : Effect} (effect : c.effect = some e) : e = .edges :=
      List.mem_singleton.1 (within e effect)
    cases c with
    | graph call =>
      refine sends_nil rfl ((Graph.change_answer w.graph call).profiles_eq fun writes => ?_) rfl rfl
      cases other writes
    | presetMutualCount _ _ => exact sends_nil rfl rfl rfl rfl
    | cacheGet _ | cacheSet _ _ _ | cacheDelete _ | publish _ _ => cases other rfl
  record _ w := sends_nil rfl rfl rfl rfl

theorem publish_newFollow (w : World) (user : String) (follower : Json) :
    ∃ v, w.publish (.str Follow.newFollowEvent) (Follow.newFollowPayload (.str user) follower) =
      (.ok .null, v) ∧ w.Sends [Flaky.newFollow user follower] v := by
  cases channel : w.wiring.channel with
  | none =>
    refine ⟨{ w with events := w.events ++ [Flaky.newFollow user follower] }, ?_, rfl, rfl, ?_, ?_⟩
    · rw [publish, channel]
      rfl
    · rw [Wiring.kept, channel]
    · rw [Wiring.posted, channel]
      exact (List.append_nil _).symm
  | some channel =>
    rw [publish, channel]
    refine ⟨_, rfl, rfl, rfl, ?_, ?_⟩
    · rw [Wiring.kept, channel]
      exact (List.append_nil _).symm
    · rw [Wiring.posted, channel]
      rfl

/-- An announcement sends one event, under the name with which the follower is stored. -/
theorem sends_notifyNewFollow (a b : String) (w : World) :
    w.Sends [Flaky.newFollow b (w.graph.nameOf (.str a))]
      ((Follow.notifyNewFollow (.str a) (.str b)).run backend w).2 := by
  have found : (Ask.findNode (.str a)).on backend w =
      (.ok (.ofUser? (w.graph.findNode (.str a))), w) := rfl
  obtain ⟨v, published, sends⟩ := w.publish_newFollow b (w.graph.nameOf (.str a))
  have told : (Ask.publish (.str Follow.newFollowEvent)
      (Follow.newFollowPayload (.str b) (w.graph.nameOf (.str a)))).on backend w =
      (.ok .null, v) := published
  simp only [Follow.notifyNewFollow, Attempt.run_catching, Attempt.on_bind, found,
    Attempt.on_ofExcept, Graph.announcedName_findNode, told, Attempt.on_pure]
  exact sends

/-- A follow that succeeds sends one notification, any other none. -/
theorem sends_follow (a b : String) (w : World) :
    w.Sends (if ((Follow.follow (.str a) (.str b)).run backend w).1.success then
        [Flaky.newFollow b (w.graph.nameOf (.str a))] else [])
      ((Follow.follow (.str a) (.str b)).run backend w).2 := by
  unfold Follow.follow
  split
  · exact keeps_sent.refl w
  generalize defined : (Follow.followEdge (.str a) (.str b)).catching _ = edge
  have linked : ∃ h, Linked (.str a) (.str b) h (edge.run backend w).1 := by
    subst defined
    exact ⟨_, ((Guarded.answering (guarded_followEdge (G := fun _ _ => True)
      (fun _ _ _ => trivial) fun _ _ => trivial) _).run backend w).2⟩
  have quiet : w.Sends [] (edge.run backend w).2 := by
    subst defined
    have creates : (Edge.following (.str a) (.str b)).creation.Within [.edges] :=
      Call.within_of_effect rfl (List.mem_singleton.2 rfl)
    refine Program.Uses.run_keeps (Program.Agrees.uses
      (Obeys.catching (obeys_followEdge _ _ creates) ?_)) keeps_sent w
    exact fun _ _ => ⟨rfl, fun _ there => Option.some.inj there ▸ Response.proper_internalError _⟩
  rw [Program.bind_eq, Program.run_bind]
  revert linked quiet
  rcases edge.run backend w with ⟨refusal, v⟩
  rintro ⟨h, linked⟩ quiet
  cases refusal with
  | some response =>
    show w.Sends (if response.success then _ else []) v
    rw [linked.refused response rfl]
    exact quiet
  | none =>
    have told := sends_notifyNewFollow a b v
    rw [Graph.nameOf_congr quiet.profiles] at told
    simp only [Program.bind_eq, Program.run_bind]
    exact quiet.trans told

end World

/-- What an operation has others told when it succeeds. -/
def PairOperation.notices (op : PairOperation) (g : Graph) : List Event :=
  match op with
  | .follow a b =>
    if (g.pairs.step op).1.success then [Flaky.newFollow b (g.nameOf (.str a))] else []
  | .unfollow .. | .removeFollower .. | .block .. | .unblock .. => []

theorem PairOperation.notices_congr (op : PairOperation) {g g' : Graph}
    (answer : (g'.pairs.step op).1 = (g.pairs.step op).1) (profiles : g'.profiles = g.profiles) :
    op.notices g' = op.notices g := by
  cases op with
  | follow a b => simp only [notices, answer, Graph.nameOf_congr profiles]
  | unfollow _ _ | removeFollower _ _ | block _ _ | unblock _ _ => rfl

namespace World

theorem sends_perform (w : World) (counted : w.graph.Counted) (op : PairOperation) :
    w.Sends (op.notices w.graph) (w.perform op.operation).2 := by
  have quiet (other : op.operation.effects = [.edges]) : w.Sends [] (w.perform op.operation).2 :=
    (other ▸ op.operation.uses_effects).run_keeps keeps_sent w
  cases op with
  | follow a b =>
    have performed : w.perform (PairOperation.follow a b).operation =
        (.ok ((follow (.str a) (.str b)).run backend w).1,
          ((follow (.str a) (.str b)).run backend w).2) := on_always backend _ w
    have answered := (w.perform_pairOperation counted (.follow a b)).1
    have sends := w.sends_follow a b
    rw [performed] at answered ⊢
    rw [Except.ok.inj answered] at sends
    exact sends
  | unfollow _ _ | removeFollower _ _ | block _ _ | unblock _ _ => exact quiet rfl

/-- **Operations on different pairs commute.** On every well-formed graph, two of the five
operations whose pairs of users differ, if by one user only, are answered alike in either order.
Either order leaves every user with the same profile and counters and leaves the same edges. The
same notifications are sent, where they stay in memory and where they go to a server. -/
theorem perform_comm (w : World) (wellFormed : w.graph.WellFormed) (first second : PairOperation)
    (apart : first.pair ≠ second.pair) :
    let one := w.perform first.operation
    let both := one.2.perform second.operation
    let other := w.perform second.operation
    let both' := other.2.perform first.operation
    both'.1 = one.1 ∧ both.1 = other.1 ∧
      both'.2.graph.users = both.2.graph.users ∧ both'.2.graph.edges.Perm both.2.graph.edges ∧
      both'.2.events.Perm both.2.events ∧ both'.2.server.commands.Perm both.2.server.commands := by
  intro one both other both'
  have counted := wellFormed.counted
  obtain ⟨answered, pairs, counted₁⟩ := w.perform_pairOperation counted first
  obtain ⟨answered', pairs', counted₂⟩ := w.perform_pairOperation counted second
  obtain ⟨last, end₁, counted₁₂⟩ := one.2.perform_pairOperation counted₁ second
  obtain ⟨last', end₂, counted₂₁⟩ := other.2.perform_pairOperation counted₂ first
  obtain ⟨same, meet⟩ := w.graph.pairs.step_comm apart
  obtain ⟨same', -⟩ := w.graph.pairs.step_comm apart.symm
  rw [pairs] at last end₁
  rw [pairs'] at last' end₂
  have edges : both'.2.graph.edges.Perm both.2.graph.edges :=
    counted₁₂.edges_perm counted₂₁ (end₂.trans (meet.trans end₁.symm))
  -- The operation that comes second sends what it would have sent first.
  have sends₁ := w.sends_perform counted first
  have sends₂ := w.sends_perform counted second
  have sends₁₂ := sends₁.trans (one.2.sends_perform counted₁ second)
  have sends₂₁ := sends₂.trans (other.2.sends_perform counted₂ first)
  rw [second.notices_congr (pairs ▸ same') sends₁.profiles] at sends₁₂
  rw [first.notices_congr (pairs' ▸ same) sends₂.profiles] at sends₂₁
  refine ⟨?_, ?_, ?_, edges, ?_, ?_⟩
  · exact last'.trans ((congrArg Except.ok same).trans answered.symm)
  · exact last.trans ((congrArg Except.ok same').trans answered'.symm)
  · exact counted₁₂.users_eq counted₂₁ (sends₂₁.profiles.trans sends₁₂.profiles.symm) edges
  · rw [sends₁₂.events, sends₂₁.events]
    exact (Wiring.kept_perm List.perm_append_comm).append_left _
  · rw [sends₁₂.commands, sends₂₁.commands]
    exact (Wiring.posted_perm List.perm_append_comm).append_left _

/-- Three users, the first two of whom follow each other. -/
def acquainted : World :=
  { empty with
    graph := Graph.empty.after (["ann", "bob", "cid"].filterMap Graph.newUser? ++
      [.createEdge (.str "ann") (.str "bob") .following,
       .createEdge (.str "bob") (.str "ann") .following]) }

/-- A user is followed and blocks another, in either order. -/
theorem perform_comm_acquainted :
    let blocks := PairOperation.block "ann" "bob"
    let follows := PairOperation.follow "cid" "ann"
    let left := ((acquainted.perform follows.operation).2.perform blocks.operation).2
    acquainted.graph.WellFormed ∧ blocks.pair ≠ follows.pair ∧
      left.graph.users =
        ((acquainted.perform blocks.operation).2.perform follows.operation).2.graph.users ∧
      left.graph.users.map (fun u => (u.followingNumber, u.followersNumber)) =
        [(0, 1), (0, 0), (1, 0)] ∧
      left.events = [Flaky.newFollow "ann" (.str "cid")] := by
  have wellFormed : acquainted.graph.WellFormed := Graph.wellFormed_empty.after _
  have apart : PairOperation.pair (.block "ann" "bob") ≠ PairOperation.pair (.follow "cid" "ann") :=
    by decide
  obtain ⟨-, -, users, -⟩ := perform_comm acquainted wellFormed _ _ apart
  refine ⟨wellFormed, apart, users, ?_, ?_⟩
  · decide +kernel
  · decide +kernel

/-- With one pair the order matters. -/
example :
    let p := acquainted.graph.pairs
    (p.step (.unfollow "ann" "bob")).1.success = true ∧
      ((p.step (.block "bob" "ann")).2.step (.unfollow "ann" "bob")).1.success = false := by
  decide +kernel

end World
end FollowGraph
