import FollowGraph.Proofs.Graph.WellFormed

/-!
# The order in which users and edges were created

Users stay for good, so they stand in the order in which they were first inserted
(`Graph.ids_after`).

The edges of a graph stand in the order in which they were created. An edge that was deleted and
created again has the place of its last creation, so what the edges are after some calls can be read
off the creations alone: each of them at its last place, and of these the ones that are still there
(`Graph.edges_after`). Neighbours are listed in the order of their edges.
-/

set_option autoImplicit false

namespace FollowGraph

section LastOnes

variable {α : Type} [DecidableEq α]

/-- The items of a list, each at its last place only. -/
def lastOnes (items : List α) : List α := (distinct items.reverse).reverse

theorem lastOnes_append_singleton (items : List α) (a : α) :
    lastOnes (items ++ [a]) = (lastOnes items).filter (· ≠ a) ++ [a] := by
  simp only [lastOnes, List.reverse_append, List.reverse_cons, List.reverse_nil, List.nil_append,
    List.singleton_append, distinct, List.filter_reverse]

end LastOnes

namespace Edge

/-- The end at which a listing in some direction starts. -/
def near (direction : Direction) (e : Edge) : UserId :=
  match direction with
  | .outgoing => e.source
  | .incoming => e.target

/-- The end that a listing in some direction lists. -/
def far (direction : Direction) (e : Edge) : UserId :=
  match direction with
  | .outgoing => e.target
  | .incoming => e.source

theorem ext_ends {e f : Edge} (direction : Direction) (near : e.near direction = f.near direction)
    (far : e.far direction = f.far direction) (kind : e.kind = f.kind) : e = f := by
  cases e
  cases f
  cases direction <;> cases near <;> cases far <;> cases kind <;> rfl

end Edge

namespace Graph

variable {g : Graph}

theorem neighbors_eq (g : Graph) (kind : Relationship) (direction : Direction) (userId : UserId) :
    g.neighbors kind direction userId =
      (g.edges.filter fun e => e.near direction == userId && e.kind == kind).map
        (Edge.far direction) := by
  cases direction <;> rfl

/-- No neighbour is listed twice where no edge is. -/
theorem neighbors_nodup (nodup : g.edges.Nodup) (kind : Relationship) (direction : Direction)
    (userId : UserId) : (g.neighbors kind direction userId).Nodup := by
  rw [neighbors_eq]
  refine List.pairwise_map.2 ((nodup.filter _).imp_of_mem ?_)
  intro e f he hf differ same
  obtain ⟨-, from_user⟩ := List.mem_filter.1 he
  obtain ⟨-, from_user'⟩ := List.mem_filter.1 hf
  simp only [Bool.and_eq_true, beq_iff_eq] at from_user from_user'
  have alike : e.near direction = f.near direction ∧ e.kind = f.kind :=
    ⟨from_user.1.trans from_user'.1.symm, from_user.2.trans from_user'.2.symm⟩
  exact differ (Edge.ext_ends direction alike.1 same alike.2)

theorem WellFormed.neighbors_nodup (wf : g.WellFormed) (kind : Relationship)
    (direction : Direction) (userId : UserId) : (g.neighbors kind direction userId).Nodup :=
  Graph.neighbors_nodup wf.edges_nodup kind direction userId

/-! ## Creations -/

/-- The edge that a call creates, if the answer says so. -/
def created? (g : Graph) : GraphCall → Option Edge
  | .createEdge source target kind =>
    match (g.answer (.createEdge source target kind)).1 with
    | .ok answer => if answer.isFalsy then none else some ⟨source, target, kind⟩
    | .error _ => none
  | _ => none

/-- The edges that some calls create, one after the other. An edge is listed as often as it is
created. -/
def created (g : Graph) : List GraphCall → List Edge
  | [] => []
  | call :: rest => (g.created? call).toList ++ (g.answer call).2.created rest

/-- Only the calls about an edge change the edges. -/
theorem Change.edges_eq {g' : Graph} {call : GraphCall} (h : Change g call g')
    (creates : ∀ a b kind, call ≠ .createEdge a b kind)
    (deletes : ∀ a b kind, call ≠ .deleteEdge a b kind) : g'.edges = g.edges := by
  cases h with
  | nothing => rfl
  | upsert _ => exact edges_upsert ..
  | addEdge _ => exact absurd rfl (creates _ _ _)
  | removeEdge _ => exact absurd rfl (deletes _ _ _)
  | setInterests _ _ => exact edges_setInterests ..

/-- What one call does to the edges: it creates one that was not there, which goes last, or it
creates none and takes away one at most. -/
theorem edges_answer (g : Graph) (call : GraphCall) :
    (∃ e, g.created? call = some e ∧ e ∉ g.edges ∧ (g.answer call).2.edges = g.edges ++ [e]) ∨
      g.created? call = none ∧
        ((g.answer call).2.edges = g.edges ∨ ∃ e, (g.answer call).2.edges = g.edges.erase e) := by
  cases call with
  | createEdge source target kind =>
    simp only [created?, answer]
    cases created : g.createEdge ⟨source, target, kind⟩ with
    | error _ => exact .inr ⟨rfl, .inl rfl⟩
    | ok written =>
      cases written with
      | none => exact .inr ⟨rfl, .inl rfl⟩
      | some changed =>
        obtain ⟨⟨-, -, absent⟩, rfl⟩ := addEdge?_eq_some_iff.1 (createEdge_eq_some created)
        exact .inl ⟨_, rfl, absent, edges_count ..⟩
  | deleteEdge source target kind =>
    refine .inr ⟨rfl, ?_⟩
    simp only [answer]
    cases removed : g.removeEdge? ⟨source, target, kind⟩ with
    | none => exact .inl rfl
    | some changed =>
      obtain ⟨-, rfl⟩ := removeEdge?_eq_some_iff.1 removed
      exact .inr ⟨_, edges_count ..⟩
  | upsertUserNode _ | updateUserNode _ | setUserInterests _ _ =>
    refine .inr ⟨rfl, .inl ((change_answer g _).edges_eq ?_ ?_)⟩ <;>
      exact fun _ _ _ same => by cases same
  | _ => exact .inr ⟨rfl, .inl rfl⟩

/-- The edges are those of some creations that are still there, in the order of their last
creation. -/
def OrderedBy (g : Graph) (made : List Edge) : Prop :=
  g.edges = (lastOnes made).filter (· ∈ g.edges)

/-- One call more, and what it creates after what was created before. -/
theorem OrderedBy.answer {made : List Edge} (h : g.OrderedBy made) (nodup : g.edges.Nodup)
    (call : GraphCall) :
    (g.answer call).2.OrderedBy (made ++ (g.created? call).toList) := by
  unfold OrderedBy at h ⊢
  rcases g.edges_answer call with ⟨e, made_now, absent, edges⟩ | ⟨none_made, same | ⟨e, edges⟩⟩
  · -- An earlier creation of the same edge does not count any more, nor did it: the edge was gone.
    have others (x : Edge) : (decide (x ∈ g.edges ++ [e]) && decide (x ≠ e)) =
        decide (x ∈ g.edges) := by
      by_cases here : x = e <;> simp [here, absent]
    rw [made_now, Option.toList_some, edges, lastOnes_append_singleton, List.filter_append,
      List.filter_filter]
    simp only [others, ← h]
    simp
  · rw [none_made, Option.toList_none, List.append_nil, same]
    exact h
  · have left (x : Edge) : decide (x ∈ g.edges.erase e) =
        (decide (x ≠ e) && decide (x ∈ g.edges)) := by
      rw [← Bool.decide_and]
      exact decide_eq_decide.2 nodup.mem_erase_iff
    rw [none_made, Option.toList_none, List.append_nil, edges]
    simp only [left, ← List.filter_filter, ← h]
    rw [nodup.erase_eq_filter]
    exact List.filter_congr fun x _ => by by_cases here : x = e <;> simp [here]

theorem OrderedBy.after {made : List Edge} (h : g.OrderedBy made) (wf : g.WellFormed)
    (calls : List GraphCall) : (g.after calls).OrderedBy (made ++ g.created calls) := by
  induction calls generalizing g made with
  | nil => exact (List.append_nil made).symm ▸ h
  | cons call rest ih =>
    have next := ih (h.answer wf.edges_nodup call) (wf.change (change_answer g call))
    rwa [List.append_assoc] at next

/-- **The edges of a graph are in the order of their last creation.** -/
theorem edges_after (calls : List GraphCall) :
    (empty.after calls).edges =
      (lastOnes (empty.created calls)).filter (· ∈ (empty.after calls).edges) :=
  have none_yet : empty.OrderedBy [] := rfl
  none_yet.after wellFormed_empty calls

/-! ## Insertions -/

/-- The id of the user that a call inserts or writes again. An id that cannot be looked up is
refused. -/
def insertedId? : GraphCall → Option UserId
  | .upsertUserNode user =>
    match user.userId.requireHashable with
    | .ok () => some user.userId
    | .error _ => none
  | _ => none

/-- The ids of the users that some calls insert, each at its first insertion. -/
def insertedIds (calls : List GraphCall) : List UserId := distinct (calls.filterMap insertedId?)

/-- Only the calls that write users change the ids. -/
theorem Change.ids_eq {g' : Graph} {call : GraphCall} (h : Change g call g')
    (inserts : ∀ user, call ≠ .upsertUserNode user)
    (updates : ∀ user, call ≠ .updateUserNode user) :
    g'.users.map StoredUser.userId = g.users.map StoredUser.userId := by
  cases h with
  | nothing => rfl
  | upsert given =>
    rcases given with same | same
    · exact absurd same (inserts _)
    · exact absurd same (updates _)
  | addEdge added =>
    obtain ⟨-, rfl⟩ := addEdge?_eq_some_iff.1 added
    exact ids_count ..
  | removeEdge removed =>
    obtain ⟨-, rfl⟩ := removeEdge?_eq_some_iff.1 removed
    exact ids_count ..
  | setInterests _ _ => exact congrArg (List.map _) (users_setInterests ..)

/-- An update writes a user who is there. -/
theorem ids_updateUser {g' : Graph} {user : UserNode} (h : g.updateUser user = .ok (some g')) :
    g'.users.map StoredUser.userId = g.users.map StoredUser.userId := by
  obtain ⟨found, looked, written⟩ := of_bind_eq_ok h
  cases found with
  | false => cases written
  | true =>
    cases written
    rw [ids_upsert, lookUp_eq_ok looked, if_pos rfl]

/-- Only an insertion brings an id that was not there, and it goes last. -/
theorem ids_answer (g : Graph) (call : GraphCall) :
    (g.answer call).2.users.map StoredUser.userId =
      g.users.map StoredUser.userId ++ (insertedId? call).toList.filter (!g.hasUser ·) := by
  cases call with
  | upsertUserNode user =>
    simp only [answer, insertedId?]
    cases user.userId.requireHashable with
    | error failure => exact (List.append_nil _).symm
    | ok _ =>
      dsimp only
      rw [ids_upsert]
      cases known : g.hasUser user.userId <;> simp [known]
  | updateUserNode user =>
    refine Eq.trans ?_ (List.append_nil _).symm
    simp only [answer]
    cases updated : g.updateUser user with
    | error failure => rfl
    | ok written =>
      cases written with
      | none => rfl
      | some changed => exact ids_updateUser updated
  | _ =>
    refine Eq.trans ((change_answer g _).ids_eq ?_ ?_) (List.append_nil _).symm <;>
      exact fun _ same => by cases same

theorem hasUser_answer (g : Graph) (call : GraphCall) (userId : UserId) :
    (g.answer call).2.hasUser userId =
      (g.hasUser userId || decide (insertedId? call = some userId)) := by
  have by_ids (g : Graph) : g.hasUser userId = true ↔ userId ∈ g.users.map StoredUser.userId :=
    hasUser_iff.trans List.mem_map.symm
  rw [Bool.eq_iff_iff, by_ids, ids_answer, List.mem_append, ← by_ids]
  cases known : g.hasUser userId with
  | true => simp
  | false =>
    cases insertedId? call with
    | none => simp
    | some x =>
      by_cases same : x = userId
      · simp [same, known]
      · simp [same, Ne.symm same]

theorem ids_after_of (g : Graph) (calls : List GraphCall) :
    (g.after calls).users.map StoredUser.userId =
      g.users.map StoredUser.userId ++ (insertedIds calls).filter (!g.hasUser ·) := by
  induction calls generalizing g with
  | nil => exact (List.append_nil _).symm
  | cons call rest ih =>
    rw [after, ih, ids_answer, List.append_assoc]
    congr 1
    simp only [hasUser_answer]
    cases found : insertedId? call with
    | none => simp [insertedIds, found]
    | some x =>
      have inserted : insertedIds (call :: rest) = x :: (insertedIds rest).filter (· ≠ x) := by
        rw [insertedIds, List.filterMap_cons_some found]
        rfl
      -- An id that is there once the first call was made is there before it, or is the call's own.
      have others (y : UserId) : (!(g.hasUser y || decide (some x = some y))) =
          (!g.hasUser y && decide (y ≠ x)) := by
        by_cases same : x = y
        · simp [same]
        · simp [same, Ne.symm same]
      rw [inserted, ← List.singleton_append, List.filter_append, List.filter_filter]
      simp only [others, Option.toList_some]

/-- **Users are in the order of their first insertion.** -/
theorem ids_after (calls : List GraphCall) :
    (empty.after calls).users.map StoredUser.userId = insertedIds calls := by
  rw [ids_after_of]
  exact List.filter_eq_self.2 fun _ _ => rfl

end Graph
end FollowGraph
