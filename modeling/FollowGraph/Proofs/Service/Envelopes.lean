import FollowGraph.Proofs.Pair.Permitted
import FollowGraph.Proofs.Program.Struck
import FollowGraph.Proofs.Service.Contracts

/-!
# What an operation answers when the graph fails

Once a graph call has failed, an operation has few answers left. Most have one, their own error. A
follow and a block can succeed all the same, the first when only the announcement was hit, the
second when only a step before the block was. And a list of users comes without those whose
annotation failed, so it is shorter than what the graph listed.

`Operation.Excuses` has a case for each of these, and `Operation.answers` says that there are no
others: whatever the stores answer, and however many calls fail. The tags of a user are sorted where
nothing is caught any more, but an operation that comes that far has heard of no failure.
-/

set_option autoImplicit false

namespace FollowGraph

open Attempt History Response

/-! ## The answers -/

/-- The users that a value lists. -/
def Value.nodes (v : Value) : Except Failure (List UserNode) := do
  let items ← v.items
  items.mapM (Value.node "user_id")

/-- A list that is shorter than what the graph listed: a success, with some of the users that a
call came back with, in the same order. -/
structure Shortened (call : GraphCall) (message : String) (h : History) (r : Response) : Prop where
  success : r.success = true
  code : r.statusCode = 200
  message : r.message = .str message
  users : ∃ (v : Value) (nodes : List UserNode) (shown : List EnrichedUser),
    (⟨.graph call, .ok v⟩ : Asked) ∈ h ∧ v.nodes = .ok nodes ∧
    r.users = shown.map Entity.enriched ∧ (shown.map EnrichedUser.user).Sublist nodes ∧
    shown.length < nodes.length

namespace Operation

/-- The message of an operation that could not be carried out. -/
def failureText : Operation → String
  | .createUser _ => "Failed to create user"
  | .updateUser _ => "Failed to update user"
  | .getUser _ => "Failed to get user"
  | .follow .. => "Failed to follow user"
  | .unfollow .. => "Failed to unfollow user"
  | .removeFollower .. => "Failed to remove follower"
  | .getFollowing .. => "Failed to get following users"
  | .getFollowers .. => "Failed to get followers"
  | .block .. => "Failed to block user"
  | .unblock .. => "Failed to unblock user"
  | .getBlocked .. => "Failed to get blocked users"
  | .mutualFollowers .. => "Failed to get mutual followers"
  | .searchFollowers .. => "Failed to search followers"
  | .searchFollowing .. => "Failed to search following"
  | .getSuggestions .. => "Failed to get suggestions"
  | .setInterests .. => "Failed to create user interests"
  | .getInterests _ => "Failed to get user interests"
  | .getInterestSuggestions .. => "Failed to get interest-based suggestions"

/-- The call that an operation gets its users from, and the message that it shows them with. -/
inductive Lists : Operation → GraphCall → String → Prop
  | following (userId : String) (page limit : Int) :
    Lists (.getFollowing userId page limit)
      (.pagedNeighbors (.str userId) .following .outgoing (.int page) (.int limit))
      "Following users fetched successfully"
  | followers (userId : String) (page limit : Int) :
    Lists (.getFollowers userId page limit)
      (.pagedNeighbors (.str userId) .following .incoming (.int page) (.int limit))
      "Followers fetched successfully"
  | blocked (userId : String) (page limit : Int) :
    Lists (.getBlocked userId page limit)
      (.pagedNeighbors (.str userId) .blocked .outgoing (.int page) (.int limit))
      "Blocked users fetched successfully"
  | mutual (source target : String) :
    Lists (.mutualFollowers source target) (.commonConnection (.str source) (.str target))
      "Mutual followers fetched successfully"
  | searchFollowers (userId query : String) (page limit : Int) :
    Lists (.searchFollowers userId query page limit)
      (.substringSearch (.str userId) .incoming (.str (Text.strip query)) (.int page) (.int limit))
      "Followers fetched successfully"
  | searchFollowing (userId query : String) (page limit : Int) :
    Lists (.searchFollowing userId query page limit)
      (.substringSearch (.str userId) .outgoing (.str (Text.strip query)) (.int page) (.int limit))
      "Following fetched successfully"
  | friends (viewer : String) (page limit : Int) :
    Lists (.getSuggestions viewer page limit)
      (.secondDegree (.str viewer) (.int page) (.int limit)) "Suggestions fetched successfully"
  | friendsOfFriends (viewer : String) (page limit start : Int) :
    Lists (.getSuggestions viewer page limit)
      (.thirdDegree (.str viewer) (.int start) (.int limit)) "Suggestions fetched successfully"
  | sharingInterests (viewer : String) (page limit : Int) :
    Lists (.getInterestSuggestions viewer page limit)
      (.sharedInterestUsers (.str viewer) (.int page) (.int limit))
      "Interest-based suggestions fetched successfully"

/-- What an operation may answer after a failed graph call. -/
inductive Excuses : Operation → History → Response → Prop
  | failed (op : Operation) (h : History) : Excuses op h (.internalError op.failureText)
  | followed (source target : String) (h : History) :
    Excuses (.follow source target) h (.ok "User followed successfully" .null)
  | blocked (source target : String) (h : History) :
    Excuses (.block source target) h (.ok "User blocked successfully" .null)
  | shortened {op : Operation} {call : GraphCall} {message : String} {h : History} {r : Response}
    (lists : op.Lists call message) (short : Shortened call message h r) : Excuses op h r

end Operation

/-- It answers after a failed graph call, and as `Q` says. -/
def Attempt.Answers (Q : History → Response → Prop) (x : Attempt Response) : Prop :=
  x.Guarded (fun _ _ => True) (fun s r => Struck s → Q s r) fun s => ¬ Struck s

section

variable {Q : History → Response → Prop}

theorem Attempt.Answers.of_struck {σ : Type} {x : Attempt Response} (h : x.Answers Q)
    (b : Backend σ) (s : σ) (struck : Struck (x.trace b s)) :
    ∃ r, (x.on b s).1 = .ok r ∧ Q (x.trace b s) r := by
  have settled := (Program.Guarded.run h b s).2
  unfold on
  revert settled
  cases ((ExceptT.run x).run b s).1 with
  | ok r => exact fun settled => ⟨r, rfl, settled struck⟩
  | error failure => exact fun steady => absurd struck steady

/-- Programs always answer. -/
theorem Program.Tolerates.answers {P : Response → Prop} {p : Program Response}
    (h : p.Tolerates P) (le : ∀ s r, P r → Q s r) : (always p).Answers Q :=
  guarded_always (Program.Guarded.mono h fun s r allowed struck => le s r (allowed struck))

end

/-! ## Checks and writes -/

theorem yields_graph (call : GraphCall) : (Attempt.call (.graph call)).Yields := yields_call _

theorem Queries.yields_isFollowing (a b : UserId) : (isFollowing a b).holds.Yields :=
  (yields_graph _).holds

theorem Queries.yields_blockedDirection (a b : UserId) : (blockedDirection a b).Yields := by
  refine (yields_graph _).holds.bind fun _ => tolerates_ite (tolerates_pure _) ?_
  refine (yields_graph _).holds.bind fun _ => tolerates_ite (tolerates_pure _) ?_
  exact (yields_log _ _ _).bind fun _ => tolerates_pure _

theorem Queries.yields_isBlocked (a b : UserId) : (isBlocked a b).Yields :=
  (yields_blockedDirection a b).bind fun _ => tolerates_pure _

theorem Follow.yields_bothExist (a b : UserId) : (bothExist a b).Yields :=
  (yields_graph _).bind fun _ => tolerates_ite (tolerates_pure _)
    ((yields_graph _).bind fun _ => tolerates_pure _)

/-- A call that is asked whether it did anything, and what is made of that. -/
theorem yields_written {α : Type} (c : Call) (level : LogLevel) (source : LogSource)
    (text : String) (yes no : α) :
    (do if ← (call c).holds then
          Attempt.log level source text
          pure yes
        else pure no).Yields := by
  refine (yields_call c).holds.bind fun _ => tolerates_ite ?_ (tolerates_pure _)
  exact (yields_log _ _ _).bind fun _ => tolerates_pure _

/-! ## Single users -/

namespace Users

theorem tolerates_create (user : UserNode) :
    (create user).Tolerates (· = .internalError "Failed to create user") := by
  refine Yields.answering ?_ _ rfl
  refine (yields_graph _).bind fun _ => (Yields.bind (tolerates_ofExcept _)) fun _ => ?_
  exact (yields_log _ _ _).bind fun _ => tolerates_pure _

theorem tolerates_update (user : UserNode) :
    (Users.update user).Tolerates (· = .internalError "Failed to update user") := by
  refine Yields.answering ?_ _ rfl
  refine (yields_graph _).holds.bind fun _ => tolerates_ite ?_ (tolerates_pure _)
  exact (yields_graph _).bind fun _ => tolerates_pure _

theorem tolerates_get (userId : UserId) :
    (get userId).Tolerates (· = .internalError "Failed to get user") := by
  refine Yields.answering ?_ _ rfl
  exact (yields_graph _).bind fun _ => tolerates_ite (tolerates_pure _) (tolerates_pure _)

end Users

/-! ## Pairs of users -/

namespace Follow

theorem yields_followEdge (a b : UserId) : (followEdge a b).Yields := by
  refine (yields_bothExist a b).bind fun _ => tolerates_ite (tolerates_pure _) ?_
  refine (Queries.yields_isFollowing a b).bind fun _ => tolerates_ite (tolerates_pure _) ?_
  refine (Queries.yields_isBlocked a b).bind fun _ => tolerates_ite (tolerates_pure _) ?_
  exact yields_written _ _ _ _ _ _

/-- The answer to a follow is settled before it is announced. -/
theorem tolerates_follow (a b : UserId) :
    (follow a b).Tolerates fun r => r = .internalError "Failed to follow user" ∨
      r = .ok "User followed successfully" .null := by
  refine Program.tolerates_unless ?_
  refine Program.Guarded.bind (Yields.answering (yields_followEdge a b) _ rfl) ?_
  intro s refusal settled
  cases refusal with
  | some response =>
    intro struck
    rw [List.append_nil] at struck
    exact .inl (Option.some.inj (settled struck)).symm
  | none =>
    have told := (notifyNewFollow a b).guarded_any
    exact told.bind fun _ _ _ _ => .inr rfl

theorem tolerates_unfollow (a b : UserId) :
    (unfollow a b).Tolerates (· = .internalError "Failed to unfollow user") := by
  refine Program.tolerates_unless (Yields.answering ?_ _ rfl)
  refine (Queries.yields_isFollowing a b).bind fun _ => tolerates_ite (tolerates_pure _) ?_
  refine (Queries.yields_isBlocked a b).bind fun _ => tolerates_ite (tolerates_pure _) ?_
  exact yields_written _ _ _ _ _ _

theorem tolerates_removeFollower (a b : UserId) :
    (removeFollower a b).Tolerates (· = .internalError "Failed to remove follower") := by
  refine Program.tolerates_unless (Yields.answering ?_ _ rfl)
  refine (Queries.yields_isBlocked a b).bind fun _ => tolerates_ite (tolerates_pure _) ?_
  refine (Queries.yields_isFollowing b a).bind fun _ => tolerates_ite (tolerates_pure _) ?_
  exact yields_written _ _ _ _ _ _

end Follow

namespace Block

/-- The block itself is made, or answered with the same error, whatever the steps came to. -/
theorem tolerates_block (a b : UserId) :
    (block a b).Tolerates fun r => r = .internalError "Failed to block user" ∨
      r = .ok "User blocked successfully" .null := by
  refine Program.tolerates_unless (Tolerates.answering ?_ _ (.inl rfl))
  refine (Follow.yields_bothExist a b).bind fun _ => tolerates_ite (tolerates_pure _) ?_
  refine (Queries.yields_isBlocked a b).bind fun _ => tolerates_ite (tolerates_pure _) ?_
  refine Guarded.mono (Q := fun _ r => r = .internalError "Failed to block user" ∨
    r = .ok "User blocked successfully" .null) ?_ (fun _ _ result _ => result) fun _ => id
  refine (guarded_always (Program.guarded_any _)).bind fun _ _ _ => ?_
  refine (guarded_always (Program.guarded_any _)).bind fun _ _ _ => ?_
  exact guarded_answered trivial (fun _ _ => .inr rfl) (fun _ _ => .inl rfl) fun _ => trivial

theorem tolerates_unblock (a b : UserId) :
    (unblock a b).Tolerates (· = .internalError "Failed to unblock user") := by
  refine Program.tolerates_unless (Yields.answering ?_ _ rfl)
  refine (Queries.yields_blockedDirection a b).bind fun
    | none => tolerates_pure _
    | some (blocker, blocked) => yields_written _ _ _ _ _ _

end Block

/-! ## Annotations -/

namespace Mutual

theorem tolerates_find (a b : UserId) : (find a b).Tolerates (· = .null) :=
  Yields.answering (yields_graph _) _ rfl

theorem tolerates_count (a b : UserId) : (count a b).Tolerates (· = .null) := by
  refine (tolerates_always (tolerates_find a b)).bind ?_ fun found => ?_
  · rintro _ rfl
    exact guarded_pure rfl
  · exact tolerates_ite (tolerates_pure _)
      (Yields.bind (tolerates_ofExcept _) fun _ => tolerates_pure _)

end Mutual

namespace Enrichment

/-- An annotation is of the user that it is made for, and after a failed graph call there is
none. -/
structure Annotates (node : UserNode) (s : History) (e : Option EnrichedUser) : Prop where
  none_of_struck : Struck s → e = none
  user : ∀ u ∈ e, u.user = node

theorem annotates_none (node : UserNode) (s : History) : Annotates node s none :=
  ⟨fun _ => rfl, fun _ there => by cases there⟩

theorem tolerates_flags? (viewer candidate : UserId) :
    (flags? viewer candidate).Tolerates (· = none) := by
  refine Yields.answering (Yields.map ?_ _) _ rfl
  refine (yields_graph _).bind fun _ => (yields_graph _).bind fun _ => ?_
  exact (yields_graph _).bind fun _ => (yields_graph _).bind fun _ => tolerates_pure _

theorem guarded_enrich (node : UserNode) (viewer : UserId) :
    (enrich Mutual.count node viewer).Guarded (fun _ _ => True) (Annotates node)
      fun _ => True := by
  refine Guarded.bind (tolerates_always (tolerates_flags? viewer node.userId)) ?_
  intro s flags unflagged
  cases flags with
  | none => exact guarded_pure (annotates_none _ _)
  | some flags =>
    have steady : ¬ Struck s := fun struck => nomatch unflagged struck
    refine Guarded.bind (Mutual.tolerates_count viewer node.userId) ?_
    intro t mutualCount uncounted
    split
    · refine (guarded_log (Q := fun _ _ => True) trivial).bind fun _ _ _ => ?_
      exact guarded_pure (annotates_none _ _)
    · rename_i counted
      refine guarded_pure ⟨fun struck => ?_, ?_⟩
      · rw [List.append_nil, struck_append] at struck
        exact absurd (uncounted (struck.resolve_left steady)) counted
      · rintro _ ⟨⟩
        rfl

theorem guarded_enrichUnfollowed (node : UserNode) (viewer : UserId) :
    (enrichUnfollowed Mutual.count node viewer).Guarded (fun _ _ => True) (Annotates node)
      fun _ => True := by
  refine (guarded_enrich node viewer).bind ?_
  intro s e annotates
  refine guarded_pure_after ⟨fun struck => ?_, fun u there => annotates.user u ?_⟩
  · rw [annotates.none_of_struck struck]
    rfl
  · exact (Option.mem_filter_iff.1 there).1

end Enrichment

/-! ## Lists -/

/-- Annotated users are some of those that a value lists, and after a failed graph call not all of
them. -/
def Picked (v : Value) (s : History) (shown : List EnrichedUser) : Prop :=
  ∃ nodes, v.nodes = .ok nodes ∧ (shown.map EnrichedUser.user).Sublist nodes ∧
    (Struck s → shown.length < nodes.length)

namespace Enrichment

/-- The step of a list: a user who could not be annotated is missing from it. -/
theorem picked_cons {item : Value} {items : List Value} {node : UserNode} {s t : History}
    {e : Option EnrichedUser} {others : List EnrichedUser} (usable : item.node "user_id" = .ok node)
    (annotates : Annotates node s e) (picked : Picked (.list items) t others) :
    Picked (.list (item :: items)) (s ++ t) (e.toList ++ others) := by
  obtain ⟨nodes, listed, some_of, fewer⟩ := picked
  have listed_too : (Value.list (item :: items)).nodes = .ok (node :: nodes) := by
    change items.mapM (Value.node "user_id") = .ok nodes at listed
    change (item :: items).mapM (Value.node "user_id") = _
    rw [List.mapM_cons, usable, listed]
    rfl
  refine ⟨_, listed_too, ?_⟩
  cases e with
  | none =>
    have within := some_of.length_le
    rw [List.length_map] at within
    exact ⟨some_of.cons node, fun _ => Nat.lt_succ_of_le within⟩
  | some u =>
    obtain rfl := annotates.user u rfl
    refine ⟨some_of.cons_cons _, fun struck => ?_⟩
    have later : Struck t := (struck_append.1 struck).resolve_left
      fun struck => nomatch annotates.none_of_struck struck
    exact Nat.succ_lt_succ (fewer later)

theorem guarded_collect {one : UserNode → Attempt (Option EnrichedUser)}
    (h : ∀ node, (one node).Guarded (fun _ _ => True) (Annotates node) fun _ => True)
    (items : List Value) :
    (collect one items).Guarded (fun _ _ => True) (Picked (.list items)) fun _ => True := by
  induction items with
  | nil =>
    exact guarded_pure ⟨[], rfl, List.Sublist.refl _, fun struck => absurd struck not_struck_nil⟩
  | cons item items ih =>
    refine guarded_given (fun node usable => ?_) trivial
    have annotated := Guarded.answering (Guarded.mono (h node) (fun _ _ => id)
      fun s _ => annotates_none node s) fun failure => ⟨.warning, .enrichment,
        "Failed to enrich " ++ node.userId.display ++ ": " ++ failure.message⟩
    refine Guarded.bind (guarded_always annotated) ?_
    intro s e annotates
    refine Guarded.bind ih ?_
    intro t others picked
    refine guarded_pure ?_
    rw [List.append_nil]
    exact picked_cons usable annotates picked

theorem guarded_items {one : UserNode → Attempt (Option EnrichedUser)}
    (h : ∀ node, (one node).Guarded (fun _ _ => True) (Annotates node) fun _ => True) (v : Value) :
    (ofExcept v.items >>= collect one).Guarded (fun _ _ => True) (Picked v) fun _ => True := by
  refine guarded_given (fun items listed => ?_) trivial
  refine Guarded.mono (guarded_collect h items) ?_ fun _ => id
  rintro s shown ⟨nodes, same, picked⟩
  refine ⟨nodes, ?_, picked⟩
  rw [← same, Value.nodes, listed]
  rfl

theorem guarded_enrichMany (v : Value) (viewer : UserId) :
    (enrichMany Mutual.count v viewer).Guarded (fun _ _ => True) (Picked v) fun _ => True :=
  guarded_items (fun node => guarded_enrich node viewer) v

theorem guarded_enrichManyUnfollowed (v : Value) (viewer : UserId) :
    (enrichManyUnfollowed Mutual.count v viewer).Guarded (fun _ _ => True) (Picked v)
      fun _ => True :=
  guarded_items (fun node => guarded_enrichUnfollowed node viewer) v

end Enrichment

namespace SeenWindow

theorem mapM_node_of_candidate {items : List Value} {nodes : List UserNode}
    (h : items.mapM candidate = .ok nodes) : items.mapM (Value.node "user_id") = .ok nodes := by
  induction items generalizing nodes with
  | nil => exact h
  | cons item rest ih =>
    rw [List.mapM_cons] at h ⊢
    obtain ⟨node, usable, h⟩ := of_bind_eq_ok h
    obtain ⟨others, later, h⟩ := of_bind_eq_ok h
    obtain ⟨_, read, hashable⟩ := of_bind_eq_ok usable
    obtain ⟨_, -, same⟩ := of_bind_eq_ok hashable
    cases same
    rw [read, ih later]
    exact h

/-- Users who have not been shown are some of those listed, and the graph is not asked for them. -/
theorem guarded_filterUnseen (window : SeenWindow) (viewer : UserId) (v : Value) :
    (window.filterUnseen viewer v).Guarded (fun _ _ => True)
      (fun s unseen => ¬ Struck s ∧ ∃ nodes, v.nodes = .ok nodes ∧ unseen.Sublist nodes)
      fun _ => True := by
  let Other (c : Call) : Prop := ∀ call, c ≠ .graph call
  have read := (obeys_seenIds (P := Other) window viewer nofun).uses.guarded
  refine (guarded_always read).bind fun s seen others => ?_
  have steady : ¬ Struck s := not_struck_of_others others
  refine guarded_given (fun items listed => ?_) trivial
  refine guarded_given (fun nodes usable => ?_) trivial
  have listed : v.nodes = .ok nodes := by
    rw [Value.nodes, listed]
    exact mapM_node_of_candidate usable
  refine guarded_ite (fun _ => ?_) fun _ => ?_
  · refine guarded_pure ?_
    rw [List.append_nil]
    exact ⟨steady, nodes, listed, List.filter_sublist⟩
  · let ids := (nodes.filter fun u => !seen.contains u.userId).map UserNode.userId
    have wrote : (window.remember viewer seen ids).Obeys Other (fun _ => True) True :=
      obeys_remember window viewer seen ids (fun _ => nofun) fun _ _ => trivial
    refine Guarded.bind wrote.uses.guarded fun t _ others => guarded_pure ?_
    rw [List.append_nil]
    refine ⟨fun struck => ?_, nodes, listed, List.filter_sublist⟩
    exact (struck_append.1 struck).elim steady (not_struck_of_others others)

end SeenWindow

/-! ## Operations that list users -/

section Listings

variable {call : GraphCall} {message : String} {v : Value} {s : History}

/-- What is known when the users of a list have been asked for. -/
structure Drawn (call : GraphCall) (v : Value) (s : History) : Prop where
  there : (⟨.graph call, .ok v⟩ : Asked) ∈ s
  steady : ¬ Struck s

theorem guarded_drawn (call : GraphCall) :
    (Attempt.call (.graph call)).Guarded (fun _ _ => True) (fun s v => Drawn call v s)
      fun _ => True :=
  guarded_call trivial (fun _ => ⟨List.mem_singleton.2 rfl, not_struck_ok⟩) fun _ => trivial

theorem Drawn.append {t : History} (h : Drawn call v s) (steady : ¬ Struck t) :
    Drawn call v (s ++ t) where
  there := List.mem_append_left _ h.there
  steady struck := (struck_append.1 struck).elim h.steady steady

theorem Drawn.shortened {t : History} {shown : List EnrichedUser} {r : Response}
    (h : Drawn call v s) (picked : Picked v t shown) (struck : Struck (s ++ t))
    (users : r.users = shown.map Entity.enriched)
    (success : r.success = true ∧ r.statusCode = 200 ∧ r.message = .str message) :
    Shortened call message (s ++ t) r where
  success := success.1
  code := success.2.1
  message := success.2.2
  users := by
    obtain ⟨nodes, listed, some_of, fewer⟩ := picked
    have later : Struck t := (struck_append.1 struck).resolve_left h.steady
    exact ⟨v, nodes, shown, List.mem_append_left _ h.there, listed, users, some_of, fewer later⟩

variable {Q : History → Response → Prop}

/-- The rest of a listing: a page with the users that could be annotated. -/
theorem Drawn.guarded (h : Drawn call v s) (short : ∀ h r, Shortened call message h r → Q h r)
    {list : Attempt (List EnrichedUser)}
    (picked : list.Guarded (fun _ _ => True) (Picked v) fun _ => True)
    (value : Except Failure PageMeta) :
    (do let users ← list
        let pageMeta ← Attempt.ofExcept value
        pure (Response.paginated message users pageMeta)).Guarded (fun _ _ => True)
      (fun t r => Struck (s ++ t) → Q (s ++ t) r) fun _ => True := by
  refine picked.bind ?_
  intro t shown picked
  refine guarded_given (fun pageMeta _ => guarded_pure ?_) trivial
  rw [List.append_nil]
  exact fun struck => short _ _ (h.shortened picked struck rfl ⟨rfl, rfl, rfl⟩)

/-- Whatever fails in it is answered. -/
theorem answers_caught {x : Attempt Response} {r : Response}
    (h : x.Guarded (fun _ _ => True) (fun s r => Struck s → Q s r) fun _ => True)
    (hr : ∀ s, Q s r) (entry : Failure → LogEntry) :
    (always (x.catching fun failure => .note (entry failure) (.done r))).Answers Q :=
  guarded_always (Guarded.answering (h.mono (fun _ _ => id) fun s _ _ => hr s) entry)

theorem answers_pure (r : Response) : (pure r : Attempt Response).Answers Q :=
  guarded_pure fun struck => absurd struck not_struck_nil

theorem answers_paged (page limit : Int) {body : Attempt Response} (h : body.Answers Q) :
    (do match ← Attempt.ofExcept (checkPagination (.int page) (.int limit)) with
        | some refusal => pure refusal
        | none => body).Answers Q := by
  refine guarded_given (fun refusal _ => ?_) not_struck_nil
  cases refusal with
  | some refusal => exact answers_pure refusal
  | none => exact h

theorem Follow.answers_listNeighbors (userId : UserId) (direction : Direction) (page limit : Int)
    (label small : String) (failed : ∀ h, Q h (internalError ("Failed to get " ++ small)))
    (short : ∀ h r, Shortened (.pagedNeighbors userId .following direction (.int page) (.int limit))
      (label ++ " fetched successfully") h r → Q h r) :
    (listNeighbors userId direction (.int page) (.int limit) label small).Answers Q := by
  refine answers_paged page limit (answers_caught ?_ failed _)
  refine (guarded_drawn _).bind fun s raw drawn => ?_
  exact drawn.guarded short (Enrichment.guarded_enrichMany raw userId) _

theorem Block.answers_getBlocked (userId : UserId) (page limit : Int)
    (failed : ∀ h, Q h (internalError "Failed to get blocked users"))
    (short : ∀ h r, Shortened (.pagedNeighbors userId .blocked .outgoing (.int page) (.int limit))
      "Blocked users fetched successfully" h r → Q h r) :
    (getBlocked userId (.int page) (.int limit)).Answers Q := by
  refine answers_paged page limit (answers_caught ?_ failed _)
  refine (guarded_drawn _).bind fun s raw drawn => ?_
  exact drawn.guarded short (Enrichment.guarded_enrichMany raw userId) _

/-- After an entry in the log the graph has not failed either. -/
theorem Drawn.guarded_noted (h : Drawn call v s) (level : LogLevel) (source : LogSource)
    (text : String) (r : Response) :
    (do Attempt.log level source text
        pure r).Guarded (fun _ _ => True) (fun t r => Struck (s ++ t) → Q (s ++ t) r)
      fun _ => True := by
  refine (guarded_log (Q := fun t _ => t = []) rfl).bind ?_
  rintro _ _ rfl
  refine guarded_pure fun struck => absurd struck ?_
  rw [List.append_nil, List.append_nil]
  exact h.steady

theorem Search.answers_searchNeighbors (userId : UserId) (direction : Direction) (query : String)
    (page limit : Int) (label capital : String)
    (failed : ∀ h, Q h (internalError ("Failed to search " ++ label)))
    (short : ∀ h r, Shortened
      (.substringSearch userId direction (.str (Text.strip query)) (.int page) (.int limit))
      (capital ++ " fetched successfully") h r → Q h r) :
    (searchNeighbors userId direction (.str query) (.int page) (.int limit) label capital).Answers
      Q := by
  refine answers_paged page limit ?_
  rw [needleOf_str]
  generalize Text.strip query = needle at short ⊢
  refine guarded_given (fun _ same => ?_) not_struck_nil
  cases same
  refine guarded_ite (fun _ => answers_pure _) fun _ => answers_caught ?_ failed _
  refine (guarded_drawn _).bind fun s raw drawn => guarded_ite (fun _ => ?_) fun _ => ?_
  · exact drawn.guarded_noted _ _ _ _
  · exact drawn.guarded short (Enrichment.guarded_enrichMany raw userId) _

/-- Mutual followers that could not be found out are null. -/
theorem Mutual.guarded_find (a b : UserId) :
    (find a b).Guarded (fun _ _ => True) fun s v =>
      v = .null ∨ Drawn (.commonConnection a b) v s :=
  Guarded.answering ((guarded_drawn _).mono (fun _ _ => .inr) fun _ _ => .inl rfl) _

theorem Search.answers_mutualFollowers (a b : UserId)
    (failed : ∀ h, Q h (internalError "Failed to get mutual followers"))
    (short : ∀ h r, Shortened (.commonConnection a b) "Mutual followers fetched successfully" h r →
      Q h r) :
    (always (mutualFollowers a b)).Answers Q := by
  refine answers_caught ?_ failed _
  refine (guarded_always (Mutual.guarded_find a b)).bind fun s found drawn => ?_
  refine guarded_ite (fun _ => guarded_pure fun _ => failed _) fun known => ?_
  have drawn := drawn.resolve_left fun null => known (null ▸ rfl)
  refine guarded_ite (fun _ => drawn.guarded_noted _ _ _ _) fun _ => ?_
  refine (Enrichment.guarded_enrichMany found a).bind fun t shown picked => guarded_pure ?_
  rw [List.append_nil]
  exact fun struck => short _ _
    (drawn.shortened picked struck (Value.enrichedItems_enriched shown) ⟨rfl, rfl, rfl⟩)

/-! ## Suggestions and interests -/

theorem Value.nodes_users (nodes : List UserNode) : (Value.users nodes).nodes = .ok nodes := by
  show (nodes.map Value.user).mapM (Value.node "user_id") = _
  induction nodes with
  | nil => rfl
  | cons node rest ih =>
    rw [List.map_cons, List.mapM_cons, ih]
    rfl

/-- Those who have been shown are left out before the rest are annotated. -/
theorem Picked.of_unseen {nodes unseen : List UserNode} {shown : List EnrichedUser}
    (listed : v.nodes = .ok nodes) (some_of : unseen.Sublist nodes)
    (picked : Picked (.users unseen) s shown) : Picked v s shown := by
  obtain ⟨_, same, within, fewer⟩ := picked
  rw [Value.nodes_users] at same
  cases same
  exact ⟨nodes, listed, within.trans some_of,
    fun struck => (fewer struck).trans_le some_of.length_le⟩

/-- Nothing failed before the users were asked for. -/
theorem Drawn.after {t : History} (h : Drawn call v t) (steady : ¬ Struck s) :
    Drawn call v (s ++ t) where
  there := List.mem_append_right _ h.there
  steady struck := (struck_append.1 struck).elim steady h.steady

namespace Suggestions

/-- The calls that the candidates of a page come from, one for each tier. -/
inductive Asks (viewer page limit : Json) : GraphCall → Prop
  | second : Asks viewer page limit (.secondDegree viewer page limit)
  | third (start : Int) : Asks viewer page limit (.thirdDegree viewer (.int start) limit)

theorem guarded_fetchCandidates (viewer page limit : Json) :
    (fetchCandidates viewer page limit).Guarded (fun _ _ => True)
      (fun s candidates => ∃ call, Asks viewer page limit call ∧ Drawn call candidates.users s)
      fun _ => True := by
  refine (guarded_drawn (.secondDegreeCount viewer)).bind fun s count counted => ?_
  refine guarded_given (fun start _ => guarded_given (fun isSecond _ => ?_) trivial) trivial
  have asked (call : GraphCall) (tier : Tier) (asks : Asks viewer page limit call) :
      (do let users ← Attempt.call (.graph call)
          let total ← Attempt.ofExcept users.length
          let isLastPage ← Attempt.ofExcept ((Json.int total).lessThan limit)
          pure ({ users, total, tier, thirdDegreeStartPage := start, isLastPage } :
            CandidatePage)).Guarded (fun _ _ => True)
        (fun t candidates => ∃ call, Asks viewer page limit call ∧
          Drawn call candidates.users (s ++ t)) fun _ => True := by
    refine (guarded_drawn call).bind fun t users drawn => ?_
    refine guarded_given (fun total _ => guarded_given (fun isLastPage _ => ?_) trivial) trivial
    refine guarded_pure ⟨call, asks, ?_⟩
    rw [List.append_nil]
    exact drawn.after counted.steady
  cases isSecond with
  | true => exact asked _ .second .second
  | false => exact asked _ .third (.third start)

theorem answers_getSuggestions (viewer : UserId) (page limit : Int)
    (failed : ∀ h, Q h (internalError "Failed to get suggestions"))
    (short : ∀ call, Asks viewer (.int page) (.int limit) call → ∀ h r,
      Shortened call "Suggestions fetched successfully" h r → Q h r) :
    (getSuggestions viewer (.int page) (.int limit)).Answers Q := by
  refine answers_paged page limit (answers_caught ?_ failed _)
  refine (guarded_fetchCandidates viewer _ _).bind ?_
  rintro s candidates ⟨call, asks, drawn⟩
  refine (guarded_log (Q := fun t _ => t = []) rfl).bind ?_
  rintro _ _ rfl
  refine (SeenWindow.guarded_filterUnseen _ viewer candidates.users).bind ?_
  rintro t unseen ⟨steady, nodes, listed, some_of⟩
  have picked := (Enrichment.guarded_enrichMany (.users unseen) viewer).mono
    (fun _ _ => Picked.of_unseen listed some_of) fun _ => id
  have rest := (drawn.append steady).guarded (short call asks) picked
    (.ok { total := .int candidates.total, page := .int page, limit := .int limit,
           isLastPage := .bool candidates.isLastPage })
  simp only [List.append_assoc] at rest
  exact rest

end Suggestions

theorem Interests.answers_getSuggestions (viewer : UserId) (page limit : Int)
    (failed : ∀ h, Q h (internalError "Failed to get interest-based suggestions"))
    (short : ∀ h r, Shortened (.sharedInterestUsers viewer (.int page) (.int limit))
      "Interest-based suggestions fetched successfully" h r → Q h r) :
    (getSuggestions viewer (.int page) (.int limit)).Answers Q := by
  refine answers_paged page limit (answers_caught ?_ failed _)
  refine (guarded_drawn _).bind fun s raw drawn => ?_
  refine (SeenWindow.guarded_filterUnseen _ viewer raw).bind ?_
  rintro t unseen ⟨steady, nodes, listed, some_of⟩
  have picked := (Enrichment.guarded_enrichManyUnfollowed (.users unseen) viewer).mono
    (fun _ _ => Picked.of_unseen listed some_of) fun _ => id
  have rest := (drawn.append steady).guarded short picked (pageMetaOf raw (.int page) (.int limit))
  simpa only [List.append_assoc] using rest

end Listings

/-! ## Tags -/

namespace Interests

variable {Q : History → Response → Prop}

theorem answers_set (userId : UserId) (tags : List Json)
    (failed : ∀ h, Q h (internalError "Failed to create user interests")) :
    (set userId (.arr tags)).Answers Q := by
  unfold set
  rw [readTags_arr]
  refine guarded_given (fun tags _ => ?_) not_struck_nil
  cases tags with
  | none => exact answers_pure _
  | some tags =>
    refine Program.Tolerates.answers (P := (· = internalError "Failed to create user interests"))
      (Yields.answering ?_ _ rfl) ?_
    · refine (yields_graph _).holds.bind fun _ => tolerates_ite ?_ (tolerates_pure _)
      exact (yields_log _ _ _).bind fun _ => tolerates_pure _
    · rintro s _ rfl
      exact failed s

/-- Sorting can fail, but only tags that the graph did come back with are sorted. -/
theorem answers_get (userId : UserId)
    (failed : ∀ h, Q h (internalError "Failed to get user interests")) :
    (get userId).Answers Q := by
  have asked : (stored userId).Tolerates
      (· = .error (internalError "Failed to get user interests")) :=
    Yields.answering ((yields_graph _).map _) _ rfl
  refine (guarded_always asked).bind fun s outcome struck_only => ?_
  cases outcome with
  | error response =>
    refine guarded_pure fun struck => ?_
    rw [List.append_nil] at struck ⊢
    cases struck_only struck
    exact failed s
  | ok tags =>
    have steady : ¬ Struck (s ++ []) := by
      rw [List.append_nil]
      exact fun struck => nomatch struck_only struck
    refine guarded_ite (fun _ => guarded_pure fun struck => absurd struck steady) fun _ => ?_
    exact guarded_given (fun _ _ => guarded_pure fun struck => absurd struck steady) steady

end Interests

/-! ## All operations -/

namespace Operation

/-- **After a failed graph call there are few answers left**, and one of them is given. -/
theorem answers (op : Operation) : op.program.Answers op.Excuses := by
  -- An error of its own, for the operations that have no other answer.
  have only {p : Program Response} (h : p.Tolerates (· = internalError op.failureText)) :
      (always p).Answers op.Excuses :=
    Program.Tolerates.answers h fun s _ same => same ▸ .failed op s
  cases op with
  | createUser user => exact only (Users.tolerates_create user)
  | updateUser user => exact only (Users.tolerates_update user)
  | getUser userId => exact only (Users.tolerates_get _)
  | follow source target =>
    refine (Follow.tolerates_follow _ _).answers fun s r settled => ?_
    rcases settled with rfl | rfl
    · exact .failed (.follow source target) s
    · exact .followed source target s
  | unfollow source target => exact only (Follow.tolerates_unfollow _ _)
  | removeFollower user follower => exact only (Follow.tolerates_removeFollower _ _)
  | getFollowing userId page limit =>
    exact Follow.answers_listNeighbors _ _ _ _ _ _ (.failed (.getFollowing userId page limit))
      fun _ _ => .shortened (.following userId page limit)
  | getFollowers userId page limit =>
    exact Follow.answers_listNeighbors _ _ _ _ _ _ (.failed (.getFollowers userId page limit))
      fun _ _ => .shortened (.followers userId page limit)
  | block source target =>
    refine (Block.tolerates_block _ _).answers fun s r settled => ?_
    rcases settled with rfl | rfl
    · exact .failed (.block source target) s
    · exact .blocked source target s
  | unblock source target => exact only (Block.tolerates_unblock _ _)
  | getBlocked userId page limit =>
    exact Block.answers_getBlocked _ _ _ (.failed (.getBlocked userId page limit))
      fun _ _ => .shortened (.blocked userId page limit)
  | mutualFollowers source target =>
    exact Search.answers_mutualFollowers _ _ (.failed (.mutualFollowers source target))
      fun _ _ => .shortened (.mutual source target)
  | searchFollowers userId query page limit =>
    exact Search.answers_searchNeighbors _ _ _ _ _ _ _
      (.failed (.searchFollowers userId query page limit))
      fun _ _ => .shortened (.searchFollowers userId query page limit)
  | searchFollowing userId query page limit =>
    exact Search.answers_searchNeighbors _ _ _ _ _ _ _
      (.failed (.searchFollowing userId query page limit))
      fun _ _ => .shortened (.searchFollowing userId query page limit)
  | getSuggestions viewer page limit =>
    refine Suggestions.answers_getSuggestions _ _ _ (.failed (.getSuggestions viewer page limit)) ?_
    rintro _ (_ | start) _ _
    · exact .shortened (.friends viewer page limit)
    · exact .shortened (.friendsOfFriends viewer page limit start)
  | setInterests userId tags =>
    exact Interests.answers_set _ _ (.failed (.setInterests userId tags))
  | getInterests userId => exact Interests.answers_get _ (.failed (.getInterests userId))
  | getInterestSuggestions viewer page limit =>
    exact Interests.answers_getSuggestions _ _ _
      (.failed (.getInterestSuggestions viewer page limit))
      fun _ _ => .shortened (.sharingInterests viewer page limit)

end Operation
end FollowGraph
