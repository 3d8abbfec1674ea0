import FollowGraph.Proofs.Service.Untouched

/-!
# What does not succeed leaves no trace

Operations that succeed or change nothing are put together here with those that are refused from
their arguments alone: a user who is to follow, block or remove itself, a page that no list has, a
query of blanks, a tag that there is not. `Operation.refusal?` says when, and with what answer, in
terms of the arguments; the program of such an operation makes no call at all.
-/

set_option autoImplicit false

namespace FollowGraph

open Attempt Response

/-! ## Refusals -/

/-- The refusal that the arguments of an operation are enough for. -/
def Operation.refusal? : Operation → Option Response
  | .follow a b => if a = b then some (forbidden "You cannot follow yourself") else none
  | .unfollow a b => if a = b then some (forbidden "You cannot unfollow yourself") else none
  | .removeFollower a b => if a = b then some (forbidden "You cannot remove yourself") else none
  | .block a b => if a = b then some (forbidden "You cannot block yourself") else none
  | .unblock a b => if a = b then some (forbidden "You cannot unblock yourself") else none
  | .getFollowing _ page limit | .getFollowers _ page limit | .getBlocked _ page limit
  | .getSuggestions _ page limit | .getInterestSuggestions _ page limit => ofPage? page limit
  | .searchFollowers _ query page limit | .searchFollowing _ query page limit =>
    (ofPage? page limit).or
      (if Text.isBlank query then some (badRequest "Search query is required") else none)
  | .setInterests _ tags =>
    if tags.any fun tag => (Interest.ofText? tag.display).isNone then
      some (badRequest "Unknown interest")
    else none
  | _ => none

theorem Interests.parseTags_eq_none {texts : List String}
    (unknown : ∃ text ∈ texts, Interest.ofText? text = none) : parseTags texts = none := by
  have stops : texts.mapM Interest.ofText? = none := by
    induction texts with
    | nil =>
      obtain ⟨_, there, -⟩ := unknown
      cases there
    | cons text rest ih =>
      obtain ⟨other, there, none_named⟩ := unknown
      rw [List.mapM_cons]
      rcases List.mem_cons.1 there with rfl | later
      · rw [none_named]
        rfl
      · rw [ih ⟨other, later, none_named⟩]
        cases Interest.ofText? text <;> rfl
  rw [parseTags, stops]
  rfl

section Refusals

variable {r : Response}

theorem of_refusal {c : Prop} [Decidable c] {refusal : Response}
    (h : (if c then some refusal else none) = some r) : c ∧ refusal = r := by
  obtain ⟨now, same⟩ := Option.ite_none_right_eq_some.1 h
  exact ⟨now, Option.some.inj same⟩

theorem paged_of_refusal {page limit : Int} (h : ofPage? page limit = some r)
    (body : Attempt Response) :
    (do match ← Attempt.ofExcept (checkPagination (.int page) (.int limit)) with
        | some refusal => pure refusal
        | none => body) = pure r := by
  have checked : checkPagination (.int page) (.int limit) = .ok (some r) := by
    rw [checkPagination_int, h]
  rw [checked]
  rfl

theorem Search.searchNeighbors_of_blank (userId : UserId) (direction : Direction) {query : String}
    (page limit : Int) (label capital : String) (paged : ofPage? page limit = none)
    (blank : Text.isBlank query = true) :
    searchNeighbors userId direction (.str query) (.int page) (.int limit) label capital =
      pure (badRequest "Search query is required") := by
  have checked : checkPagination (.int page) (.int limit) = .ok none := by
    rw [checkPagination_int, paged]
  unfold searchNeighbors
  rw [checked, needleOf_str, (Text.isBlank_iff query).1 blank]
  rfl

/-- An operation that can be refused from its arguments is nothing but its refusal. -/
theorem Operation.program_of_refusal {op : Operation} (h : op.refusal? = some r) :
    op.program = pure r ∧ r.success = false := by
  have of_page {page limit : Int} (h : ofPage? page limit = some r) : r.success = false := by
    obtain ⟨-, rfl⟩ := of_refusal h
    rfl
  have search {userId : UserId} {direction : Direction} {query : String} {page limit : Int}
      (label capital : String)
      (h : (ofPage? page limit).or
        (if Text.isBlank query then some (badRequest "Search query is required") else none) =
          some r) :
      Search.searchNeighbors userId direction (.str query) (.int page) (.int limit) label capital =
        pure r ∧ r.success = false := by
    cases paged : ofPage? page limit with
    | some refusal =>
      rw [paged] at h
      cases h
      exact ⟨paged_of_refusal paged _, of_page paged⟩
    | none =>
      rw [paged, Option.none_or] at h
      obtain ⟨blank, rfl⟩ := of_refusal h
      exact ⟨Search.searchNeighbors_of_blank userId direction page limit label capital paged blank,
        rfl⟩
  cases op with
  | follow a b | unfollow a b | removeFollower a b | block a b | unblock a b =>
    obtain ⟨rfl, rfl⟩ := of_refusal h
    refine ⟨?_, rfl⟩
    simp only [program, Follow.follow, Follow.unfollow, Follow.removeFollower, Block.block,
      Block.unblock, if_true]
    rfl
  | getFollowing userId page limit | getFollowers userId page limit
  | getBlocked userId page limit | getSuggestions viewer page limit
  | getInterestSuggestions viewer page limit => exact ⟨paged_of_refusal h _, of_page h⟩
  | searchFollowers userId query page limit => exact search _ _ h
  | searchFollowing userId query page limit => exact search _ _ h
  | setInterests userId tags =>
    obtain ⟨unknown, rfl⟩ := of_refusal h
    refine ⟨?_, rfl⟩
    obtain ⟨tag, there, unnamed⟩ := List.any_eq_true.1 unknown
    have none_parsed : Interests.parseTags (tags.map Json.display) = none :=
      Interests.parseTags_eq_none
        ⟨tag.display, List.mem_map_of_mem there, Option.isNone_iff_eq_none.1 unnamed⟩
    show Interests.set (.str userId) (.arr tags) = _
    unfold Interests.set
    rw [Interests.readTags_arr, none_parsed]
    rfl
  | _ => cases h

end Refusals

/-! ## Everything without success -/

/-- What an operation without success can leave behind. -/
def Operation.Leaves : Operation → World → World → Prop
  -- An update that was stored may not be read back.
  | .updateUser _, _, _ => True
  | .block a b, w, v => World.Detached (.str a) (.str b) w v
  | _, w, v => World.Untouched w v

/-- **What does not succeed leaves no trace**, on any stores and with any calls made to fail. An
operation that answers without success, and is no update, has left the stores as they were, all but
the log; a block may have taken following edges of its pair away, and nothing else. What can be
refused from the arguments alone is refused without any call. -/
theorem Flaky.unsuccessful (schedule : Schedule) (s : Flaky) (op : Operation) :
    (∀ r, (s.perform schedule op).1 = .ok r → r.success = false →
      op.Leaves s.world (s.perform schedule op).2.world) ∧
    ∀ r, op.refusal? = some r →
      r.success = false ∧ s.perform schedule op = (.ok r, { s with calls := [] }) := by
  refine ⟨fun r answered failed => ?_, fun r refused => ?_⟩
  · have spared {S : World → World → Prop}
        (h : op.program.Commits (backend schedule) (fun s t => S s.world t.world) Succeeds) :
        S s.world (s.perform schedule op).2.world := by
      refine (h { s with calls := [] }).resolve_left ?_
      rintro ⟨r', answered', succeeds⟩
      cases answered.symm.trans answered'
      exact Bool.noConfusion (failed.symm.trans succeeds)
    have untouched (no_update : ∀ user, op ≠ .updateUser user)
        (no_block : ∀ a b, op ≠ .block a b) :
        World.Untouched s.world (s.perform schedule op).2.world :=
      spared (spares_program schedule op no_update no_block)
    cases op with
    | updateUser user => trivial
    | block a b => exact spared (commits_block schedule (.str a) (.str b))
    | _ => exact untouched (fun _ differ => by cases differ) fun _ _ differ => by cases differ
  · obtain ⟨program, failed⟩ := Operation.program_of_refusal refused
    refine ⟨failed, ?_⟩
    unfold perform
    rw [program]
    rfl

/-- Ann follows Bob, and no edge can be added. -/
def acquainted : World :=
  { World.empty with graph := .ofFollows ["ann", "bob"] [("ann", "bob")] }

def Schedule.fixedEdges : Schedule := fun _ c =>
  match c with
  | .graph (.createEdge ..) => some (.external "ConnectionError" "graph down")
  | _ => none

/-- A follow that fails changes nothing, a block that fails may have ended a following, and a page
before the first is not even asked for. -/
theorem Flaky.unsuccessful_acquainted :
    World.Untouched acquainted
      ((ofWorld acquainted).perform .fixedEdges (.follow "bob" "ann")).2.world ∧
    World.Detached (.str "ann") (.str "bob") acquainted
      ((ofWorld acquainted).perform .fixedEdges (.block "ann" "bob")).2.world ∧
    ((ofWorld acquainted).perform .fixedEdges (.getFollowing "ann" (-1) 10)).2.calls = [] := by
  have follow := unsuccessful .fixedEdges (ofWorld acquainted) (.follow "bob" "ann")
  have block := unsuccessful .fixedEdges (ofWorld acquainted) (.block "ann" "bob")
  have page := unsuccessful .fixedEdges (ofWorld acquainted) (.getFollowing "ann" (-1) 10)
  refine ⟨follow.1 (.internalError "Failed to follow user") rfl rfl,
    block.1 (.internalError "Failed to block user") rfl rfl, ?_⟩
  rw [(page.2 _ rfl).2]

end FollowGraph
