import FollowGraph.Proofs.Graph.Lived
import FollowGraph.Proofs.Pair.Permitted
import FollowGraph.Proofs.Program.Struck
import FollowGraph.Proofs.Service.Unsuccessful

/-!
# What an operation that failed has done

Two operations make a write before the call that decides their result. A block takes the following
edges of its pair away before it adds its own edge, and an update reads the user back after it was
stored. Nothing is undone when the later call fails, so neither of them is all or nothing
(`Flaky.half_done_acquainted`).

What is left is known all the same, for it can be read off the calls that the operation made. A call
that was not answered with yes has not changed the graph (`Graph.Lived.same`). So a block that
answers with an error has changed the graph just when one of its removals went through, and then it
is those edges that are missing (`Block.HalfDone`); an update that answers with an error has
changed it just when the user was stored, and then nothing but that user's profile
(`Users.HalfDone`).
-/

set_option autoImplicit false

namespace FollowGraph

open Attempt History

/-! ## Calls that change nothing -/

/-- A call that only reads, or that was not answered with yes. -/
def Asked.Idle (asked : Asked) : Prop :=
  asked.call.Reads ∨ ∀ v, asked.answer = .ok v → v.isFalsy = true

namespace Graph

variable {g g' : Graph} {asked : Asked} {h : History}

theorem Answers.same (answers : Answers g asked g') (idle : asked.Idle) : g' = g := by
  cases answers with
  | failed _ same | elsewhere _ same => exact same
  | @here call made answered =>
    obtain ⟨c, answer⟩ := asked
    obtain rfl : c = .graph call := made
    have unwritten {changed : Except Failure (Option Graph)}
        (answered : g.written changed = (answer, g'))
        (refused : ∀ v, answer = .ok v → v.isFalsy = true) : g' = g := by
      by_contra differ
      obtain ⟨rfl, -⟩ := of_written answered differ
      cases refused _ rfl
    cases call with
    | createEdge | deleteEdge | updateUserNode | setUserInterests =>
      rcases idle with reads | refused
      · cases reads
      · exact unwritten answered refused
    | upsertUserNode user =>
      rcases idle with reads | refused
      · cases reads
      · simp only [Graph.answer] at answered
        cases hashed : user.userId.requireHashable with
        | error failure =>
          rw [hashed] at answered
          cases answered
          rfl
        | ok _ =>
          rw [hashed] at answered
          cases answered
          cases refused _ rfl
    | _ =>
      cases answered
      rfl

/-- A graph is left as it was by calls that are idle. -/
theorem Lived.same (lived : g.Lived h g') (idle : ∀ asked ∈ h, asked.Idle) : g' = g := by
  induction lived with
  | nil => rfl
  | cons first _ ih =>
    obtain ⟨now, later⟩ := List.forall_mem_cons.1 idle
    exact (ih later).trans (first.same now)

/-- A user was updated who is stored, and given the profile. -/
theorem Answers.of_update {user : UserNode} {v : Value}
    (answers : Answers g ⟨.graph (.updateUserNode user), .ok v⟩ g') (truthy : v.isFalsy = false) :
    g.hasUser user.userId = true ∧
      g' = g.modifyUser user.userId fun u => { u with profile := user.profile } := by
  cases answers with
  | failed broke _ => cases broke
  | elsewhere out _ => exact absurd rfl (out _)
  | here made answered =>
    cases made
    change g.written (g.updateUser user) = _ at answered
    unfold updateUser at answered
    cases found : g.lookUp user.userId with
    | error failure =>
      rw [found] at answered
      cases answered
    | ok stored =>
      have there := lookUp_eq_ok found
      rw [found] at answered
      cases stored with
      | false =>
        cases answered
        cases truthy
      | true =>
        cases answered
        exact ⟨there, if_pos there⟩

end Graph

namespace Flaky

variable (schedule : Schedule)

/-- Where calls fail the graph lives through what the program hears. -/
theorem lived_run {α : Type} (p : Program α) (s : Flaky) :
    s.world.graph.Lived (p.trace (backend schedule) s)
      (p.run (backend schedule) s).2.world.graph := by
  refine Program.run_related (b := backend schedule)
    (I := fun h t => s.world.graph.Lived h t.world.graph) ?_ (fun _ _ _ lived => lived) p (.nil _)
  intro h t c lived
  cases hf : schedule t.total c with
  | some failure =>
    rw [answer_of_failing schedule hf]
    exact lived.snoc (.failed rfl rfl)
  | none =>
    rw [answer_of_passing schedule hf]
    exact lived.snoc (World.answers c t.world)

end Flaky

/-! ## Blocking -/

namespace Block

variable {α : Type} {a b : UserId} {s t : History} {r : Response}

/-- The response says whether the block was set. -/
def Sets (a b : UserId) (h : History) (r : Response) : Prop :=
  r.success = true ↔ Affirmed h (Edge.blocked a b).creation

/-- What comes before the last call of a block sets none. -/
theorem unset_of_prepares (prepares : ∀ asked ∈ s, Prepares a b asked.call) :
    ¬ Affirmed s (Edge.blocked a b).creation := by
  rintro ⟨v, made, -⟩
  rcases prepares _ made with reads | other | other
  · cases reads
  · cases other
  · cases other

theorem sets_append (prepares : ∀ asked ∈ s, Prepares a b asked.call) :
    Sets a b (s ++ t) r ↔ Sets a b t r := by
  have unset := unset_of_prepares prepares
  simp only [Sets, heard_append, unset, false_or]

theorem sets_of_prepares (prepares : ∀ asked ∈ s, Prepares a b asked.call)
    (unsuccessful : r.success = false) : Sets a b s r := by
  have unset := unset_of_prepares prepares
  simp only [Sets, unsuccessful, Bool.false_eq_true, unset]

/-- The answer to a block whose calls fail. -/
abbrev failed : Response := .internalError "Failed to block user"

theorem guarded_prepared {x : Attempt α} {f : α → Attempt Response} (uses : x.Uses (Prepares a b))
    (rest : ∀ v, (f v).Guarded (fun _ _ => True) (Sets a b) fun h => Sets a b h failed) :
    (x >>= f).Guarded (fun _ _ => True) (Sets a b) fun h => Sets a b h failed := by
  have heard : x.Guarded (fun _ _ => True) (fun h _ => ∀ asked ∈ h, Prepares a b asked.call)
      fun h => Sets a b h failed := by
    refine Program.Guarded.mono (Program.Uses.guarded uses) ?_
    intro h outcome prepares
    cases outcome with
    | ok v => exact prepares
    | error failure => exact sets_of_prepares prepares rfl
  refine heard.bind ?_
  intro h v prepares
  exact (rest v).mono (fun _ _ => (sets_append prepares).2) fun _ => (sets_append prepares).2

/-- **A block answers for its last call**, whatever the steps before it came to. -/
theorem guarded_block_sets (a b : UserId) :
    (block a b).Guarded (fun _ _ => True) (Sets a b) := by
  have refused (r : Response) (unsuccessful : r.success = false) :
      (pure r : Attempt Response).Guarded (fun _ _ => True) (Sets a b)
        fun h => Sets a b h failed :=
    guarded_pure (sets_of_prepares (fun _ there => by cases there) unsuccessful)
  unfold block
  split
  · exact sets_of_prepares (fun _ there => by cases there) rfl
  · refine Guarded.answering ?_ _
    refine guarded_prepared (Follow.asks_bothExist a b).uses fun _ => ?_
    refine guarded_ite (fun _ => refused _ rfl) fun _ => ?_
    refine guarded_prepared (Queries.asks_isBlocked a b).uses fun _ => ?_
    refine guarded_ite (fun _ => refused _ rfl) fun _ => ?_
    refine guarded_prepared (show Asks (Prepares a b) _ from obeys_always ?_).uses fun _ => ?_
    · exact obeys_detach _ _ _ (Queries.asks_isFollowing a b)
        (Follow.obeys_unfollow a b (.inr (.inl rfl)))
    refine guarded_prepared (show Asks (Prepares a b) _ from obeys_always ?_).uses fun _ => ?_
    · exact obeys_detach _ _ _ (Queries.asks_isFollowing b a)
        (Follow.obeys_removeFollower a b (.inr (.inr rfl)))
    exact (guarded_written trivial).mono (fun _ _ => And.right) fun _ => And.right

/-- All calls that a block can make. -/
def Makes (a b : UserId) (c : Call) : Prop := Prepares a b c ∨ c = (Edge.blocked a b).creation

instance (a b : UserId) : AllowsReads (Makes a b) where
  read h := .inl (.inl h)

theorem uses_block (a b : UserId) : (block a b).Uses (Makes a b) :=
  (obeys_block a b (.inl (.inr (.inl rfl))) (.inl (.inr (.inr rfl))) (.inr rfl)).uses

/-- What a block leaves behind when it answers with an error. -/
structure HalfDone (a b : UserId) (h : History) (w v : World) : Prop where
  detached : World.Detached a b w v
  wellFormed : v.graph.WellFormed
  /-- An edge is gone just when its removal went through. -/
  gone_iff : ∀ e ∈ w.graph.edges, e ∉ v.graph.edges ↔ Affirmed h e.deletion
  unchanged_iff : v.graph = w.graph ↔ ∀ e : Edge, ¬ Affirmed h e.deletion

/-- A graph that lived through a block which set nothing. -/
theorem unchanged_iff_of_lived {g g' : Graph} (lived : g.Lived s g') (nodup : g.edges.Nodup)
    (makes : ∀ asked ∈ s, Makes a b asked.call)
    (unset : ¬ Affirmed s (Edge.blocked a b).creation) :
    (∀ e ∈ g.edges, e ∉ g'.edges ↔ Affirmed s e.deletion) ∧
      (g' = g ↔ ∀ e : Edge, ¬ Affirmed s e.deletion) := by
  have uncreated (e : Edge) : (⟨e.creation, .ok (.bool true)⟩ : Asked) ∉ s := by
    intro made
    rcases makes _ made with (reads | other | other) | own
    · cases reads
    · cases other
    · cases other
    · obtain rfl := Edge.creation_inj.1 own
      exact unset ⟨_, made, rfl⟩
  have missing {e : Edge} (taken : Affirmed s e.deletion) : e ∉ g'.edges := by
    obtain ⟨v, told, -⟩ := taken
    exact lived.missing nodup told (.deleted v) (uncreated e)
  refine ⟨fun e before => ⟨fun after => ⟨_, lived.deleted before after, rfl⟩, missing⟩, ?_, ?_⟩
  · intro same e taken
    obtain ⟨v, told, truthy⟩ := taken
    have before := lived.found told (.taken truthy) (uncreated e)
    exact missing ⟨v, told, truthy⟩ (same.symm ▸ before)
  · intro untaken
    refine lived.same fun asked there => ?_
    obtain ⟨c, answer⟩ := asked
    have refused (unheard : ¬ Affirmed s c) : ∀ v, answer = .ok v → v.isFalsy = true := by
      rintro v rfl
      by_contra truthy
      exact unheard ⟨v, there, Bool.eq_false_iff.2 truthy⟩
    rcases makes _ there with (reads | rfl | rfl) | rfl
    · exact .inl reads
    · exact .inr (refused (untaken (Edge.following a b)))
    · exact .inr (refused (untaken (Edge.following b a)))
    · exact .inr (refused unset)

end Block

theorem Response.Proper.success_false {r : Response} (proper : r.Proper)
    (code : r.statusCode = 500) : r.success = false := by
  rcases proper with ⟨-, fine⟩ | ⟨failed, -⟩
  · rw [code] at fine
    cases fine
  · exact failed

/-- A block that answers with an error is half done. -/
theorem Flaky.halfDone_block (schedule : Schedule) {s : Flaky} (wf : s.world.graph.WellFormed)
    (a b : UserId)
    (code : ((Block.block a b).run (backend schedule) s).1.statusCode = 500) :
    Block.HalfDone a b ((Block.block a b).trace (backend schedule) s) s.world
      ((Block.block a b).run (backend schedule) s).2.world := by
  have proper := (Block.obeys_block (P := fun _ => True) a b trivial trivial trivial).run
    (backend schedule) s
  have failed := Response.Proper.success_false proper code
  have sets := (Block.guarded_block_sets a b).run (backend schedule) s
  have unset : ¬ Affirmed ((Block.block a b).trace (backend schedule) s)
      (Edge.blocked a b).creation := fun affirmed => by
    rw [sets.2.2 affirmed] at failed
    cases failed
  have makes := (Block.uses_block a b).trace (backend schedule) s
  have lived := lived_run schedule (Block.block a b) s
  obtain ⟨gone_iff, unchanged_iff⟩ :=
    Block.unchanged_iff_of_lived lived wf.edges_nodup makes unset
  refine ⟨?_, ?_, gone_iff, unchanged_iff⟩
  · rcases commits_block schedule a b s with ⟨r, answered, succeeds⟩ | detached
    · rw [on_always] at answered
      cases answered
      exact absurd succeeds (by simp [failed])
    · rw [on_always] at detached
      exact detached
  · exact (Program.uses_any _).run_keeps (keeps_worlds schedule World.keeps_wellFormed) s wf

/-! ## Updating -/

namespace Users

/-- The calls of an update that answers with an error, and what came back from them. -/
inductive Breaks (user : UserNode) : History → Prop
  | unstored (failure : Failure) : Breaks user [⟨.graph (.updateUserNode user), .error failure⟩]
  | unread {v : Value} (truthy : v.isFalsy = false) (failure : Failure) :
    Breaks user [⟨.graph (.updateUserNode user), .ok v⟩,
      ⟨.graph (.findNode user.userId), .error failure⟩]

theorem guarded_update_breaks (user : UserNode) :
    (update user).Guarded (fun _ _ => True) fun h r => r.statusCode = 500 → Breaks user h := by
  refine Guarded.answering ?_ _
  have stored : (Ask.updateUserNode user).Guarded (fun _ _ => True)
      (fun h v => h = [⟨.graph (.updateUserNode user), .ok v⟩]) fun h =>
        (Response.internalError "Failed to update user").statusCode = 500 → Breaks user h :=
    guarded_call trivial (fun _ => rfl) fun failure _ => .unstored failure
  refine stored.holds.bind ?_
  rintro _ _ ⟨v, rfl, rfl⟩
  refine guarded_ite ?_ ?_
  · intro truthy
    have read : (Ask.findNode user.userId).Guarded (fun _ _ => True) (fun _ _ => True) fun h =>
        (Response.internalError "Failed to update user").statusCode = 500 →
          Breaks user (⟨.graph (.updateUserNode user), .ok v⟩ :: h) :=
      guarded_call trivial (fun _ => trivial) fun failure _ =>
        .unread (by simpa using truthy) failure
    exact read.bind fun _ _ _ => guarded_pure fun differ => by cases differ
  · intro _
    exact guarded_pure fun differ => by cases differ

/-- What an update leaves behind when it answers with an error: nothing, if storing the user failed,
and the new profile, if only reading it back did. -/
inductive HalfDone (user : UserNode) (h : History) (w v : World) : Prop
  | unstored (unheard : ¬ Affirmed h (.graph (.updateUserNode user))) (same : v.graph = w.graph)
  | stored (heard : Affirmed h (.graph (.updateUserNode user)))
      (unread : ∃ failure, (⟨.graph (.findNode user.userId), .error failure⟩ : Asked) ∈ h)
      (there : w.graph.hasUser user.userId = true)
      (profile : v.graph =
        w.graph.modifyUser user.userId fun u => { u with profile := user.profile })

theorem halfDone_of_lived {user : UserNode} {h : History} {w v : World} (breaks : Breaks user h)
    (lived : w.graph.Lived h v.graph) : HalfDone user h w v := by
  cases breaks with
  | unstored failure =>
    refine .unstored heard_error (lived.same fun asked there => .inr ?_)
    rw [List.mem_singleton.1 there]
    exact nofun
  | @unread answer truthy failure =>
    obtain ⟨m, first, rest⟩ := Graph.lived_cons.1 lived
    obtain ⟨there, updated⟩ := first.of_update truthy
    have same : v.graph = m := rest.same fun asked there => .inl (by
      rw [List.mem_singleton.1 there]
      rfl)
    refine .stored ⟨answer, List.mem_cons_self, truthy⟩
      ⟨failure, List.mem_cons_of_mem _ (List.mem_singleton.2 rfl)⟩ there ?_
    rw [same, updated]

end Users

/-- **What a failed operation has done, when it is a block or an update.** Whatever calls fail, a
block of any two users that answers with an error has changed the graph just when one of its
removals went through, and then only those following edges of the pair are gone; an update that
answers with an error has changed it just when the user was stored, and then only that user's
profile. -/
theorem Flaky.half_done (schedule : Schedule) (s : Flaky) (wf : s.world.graph.WellFormed) :
    (∀ a b : UserId, ((Block.block a b).run (backend schedule) s).1.statusCode = 500 →
      Block.HalfDone a b ((Block.block a b).trace (backend schedule) s) s.world
        ((Block.block a b).run (backend schedule) s).2.world) ∧
    ∀ user : UserNode, ((Users.update user).run (backend schedule) s).1.statusCode = 500 →
      Users.HalfDone user ((Users.update user).trace (backend schedule) s) s.world
        ((Users.update user).run (backend schedule) s).2.world := by
  refine ⟨fun a b code => halfDone_block schedule wf a b code, fun user code => ?_⟩
  have breaks := ((Users.guarded_update_breaks user).run (backend schedule) s).2 code
  exact Users.halfDone_of_lived breaks (lived_run schedule (Users.update user) s)

/-- Users can be stored, but not looked up. -/
def Schedule.unreadable : Schedule := fun _ c =>
  match c with
  | .graph (.findNode _) => some (.external "ConnectionError" "graph down")
  | _ => none

/-- Ann with a name. -/
def named : UserNode :=
  { userId := .str "ann", profile := { Profile.unknown with username := .str "Ann" }
    followingNumber := .int 0, followersNumber := .int 0, identifies := by decide +kernel }

/-- Ann follows Bob and blocks him without success, and gives herself a name without success. -/
theorem Flaky.half_done_acquainted :
    Block.HalfDone (.str "ann") (.str "bob")
      ((Block.block (.str "ann") (.str "bob")).trace (backend .fixedEdges) (ofWorld acquainted))
      acquainted
      ((Block.block (.str "ann") (.str "bob")).run (backend .fixedEdges)
        (ofWorld acquainted)).2.world ∧
    Users.HalfDone named ((Users.update named).trace (backend .unreadable) (ofWorld acquainted))
      acquainted ((Users.update named).run (backend .unreadable) (ofWorld acquainted)).2.world := by
  have wf : acquainted.graph.WellFormed := Graph.wellFormed_ofFollows _ _
  exact ⟨(half_done .fixedEdges (ofWorld acquainted) wf).1 _ _ (by decide +kernel),
    (half_done .unreadable (ofWorld acquainted) wf).2 named (by decide +kernel)⟩

/-- Neither has left the graph as it was: Ann does not follow Bob any more, and she has the name. -/
theorem Flaky.not_undone_acquainted :
    let blocked := (Block.block (.str "ann") (.str "bob")).run (backend .fixedEdges)
      (ofWorld acquainted)
    let updated := (Users.update named).run (backend .unreadable) (ofWorld acquainted)
    let username (w : World) := (w.graph.findNode (.str "ann")).map fun u => u.profile.username
    blocked.1.statusCode = 500 ∧ acquainted.graph.edges = [.following (.str "ann") (.str "bob")] ∧
      blocked.2.world.graph.edges = [] ∧
    updated.1.statusCode = 500 ∧ username acquainted = some (.str "") ∧
      username updated.2.world = some (.str "Ann") := by
  decide +kernel

end FollowGraph
