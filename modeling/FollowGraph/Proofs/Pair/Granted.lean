import FollowGraph.Proofs.Pair.Conduct

/-!
# No write that was made sure of is refused

A write to the edges is answered with no when there is nothing to do: an edge cannot be added twice
or to a user who is not there, and none can be taken away that is not there. An operation on a pair
finds out all this before it writes (`PairOperation.Permits`), and with a graph that tells the truth
nothing has changed in between but by its own calls. So the answer is never no
(`Permitted.not_refused`), whatever else fails; of the graph nothing is assumed.
-/

set_option autoImplicit false

namespace FollowGraph

open History

namespace Graph

variable {g m g' : Graph} {asked : Asked} {e : Edge} {h : History} {x : UserId} {v : Value}

/-! ## Refused writes -/

theorem createEdge_eq_none (h : g.createEdge e = .ok none) (source : g.hasUser e.source = true)
    (target : g.hasUser e.target = true) : e ∈ g.edges := by
  obtain ⟨found, looked, h⟩ := of_bind_eq_ok h
  rw [← lookUp_eq_ok looked, source] at h
  obtain ⟨found, looked, h⟩ := of_bind_eq_ok h
  rw [← lookUp_eq_ok looked, target] at h
  have kept : g.addEdge? e = none := Except.ok.inj h
  by_contra absent
  rw [addEdge?_eq_some_iff.2 ⟨⟨source, target, absent⟩, rfl⟩] at kept
  cases kept

theorem Answers.of_creation_denied (answers : Answers g ⟨e.creation, .ok v⟩ g')
    (falsy : v.isFalsy = true) (source : g.hasUser e.source = true)
    (target : g.hasUser e.target = true) : e ∈ g.edges := by
  cases answers with
  | failed broke _ => cases broke
  | elsewhere out _ => exact absurd rfl (out _)
  | here made answered =>
    cases made
    change g.written (g.createEdge e) = _ at answered
    match created : g.createEdge e with
    | .ok (some _) =>
      rw [created] at answered
      cases answered
      cases falsy
    | .ok none => exact createEdge_eq_none created source target
    | .error _ =>
      rw [created] at answered
      cases answered

theorem Answers.of_deletion_denied (answers : Answers g ⟨e.deletion, .ok v⟩ g')
    (falsy : v.isFalsy = true) : e ∉ g.edges := by
  cases answers with
  | failed broke _ => cases broke
  | elsewhere out _ => exact absurd rfl (out _)
  | here made answered =>
    cases made
    change g.written (.ok (g.removeEdge? e)) = _ at answered
    intro there
    rw [removeEdge?_eq_some_iff.2 ⟨there, rfl⟩] at answered
    cases answered
    cases falsy

/-! ## What stays true -/

theorem Answers.of_find (answers : Answers g ⟨.graph (.findNode x), .ok v⟩ g')
    (there : v.isNull = false) : g.hasUser x = true := by
  cases answers with
  | failed broke _ => cases broke
  | elsewhere out _ => exact absurd rfl (out _)
  | here made answered =>
    cases made
    obtain ⟨_, -, found⟩ := of_bind_eq_ok (congrArg Prod.fst answered)
    cases found
    rw [← isSome_findNode]
    cases node : g.findNode x with
    | none =>
      rw [node] at there
      cases there
    | some _ => rfl

/-- No call takes a user away. -/
theorem Answers.hasUser (answers : Answers g asked g') (there : g.hasUser x = true) :
    g'.hasUser x = true := by
  cases answers with
  | failed _ same | elsewhere _ same => exact same ▸ there
  | @here call made answered =>
    have change := change_answer g call
    rw [answered] at change
    change Change g call g' at change
    cases change with
    | nothing => exact there
    | upsert _ => exact hasUser_upsert_of_hasUser _ there
    | setInterests _ _ => rwa [Graph.hasUser, users_setInterests]
    | addEdge added =>
      obtain ⟨-, rfl⟩ := addEdge?_eq_some_iff.1 added
      rw [hasUser_count]
      exact there
    | removeEdge removed =>
      obtain ⟨-, rfl⟩ := removeEdge?_eq_some_iff.1 removed
      rw [hasUser_count]
      exact there

theorem Lived.hasUser (lived : Lived g h g') (there : g.hasUser x = true) :
    g'.hasUser x = true := by
  induction lived with
  | nil => exact there
  | cons first _ ih => exact ih (first.hasUser there)

/-- A user who was found is there. -/
theorem Lived.stored (lived : Lived g h g') (found : Found h x) : g'.hasUser x = true := by
  obtain ⟨v, told, present⟩ := found
  obtain ⟨before, after, m, m', rfl, -, answers, rest⟩ := lived.around told
  exact rest.hasUser (answers.hasUser (answers.of_find present))

/-- An edge that was said to be missing is missing, unless it was created. -/
theorem Lived.absent (lived : Lived g h g') (denied : Denied h e.query)
    (never : Never h e.creation) : e ∉ g'.edges := by
  obtain ⟨v, told, falsy⟩ := denied
  obtain ⟨before, after, m, m', rfl, -, answers, rest⟩ := lived.around told
  have missing : e ∉ m.edges := by
    intro there
    rw [answers.of_query, hasEdge_iff.2 there] at falsy
    cases falsy
  intro there
  have created := (lived_cons.2 ⟨m', answers, rest⟩).created missing there
  exact never _ (List.mem_append_right _ created) rfl

/-- An edge that was found is there, unless it was deleted. -/
theorem Lived.present (lived : Lived g h g') (affirmed : Affirmed h e.query)
    (never : Never h e.deletion) : e ∈ g'.edges := by
  obtain ⟨v, told, truthy⟩ := affirmed
  obtain ⟨before, after, m, m', rfl, -, answers, rest⟩ := lived.around told
  by_contra missing
  have deleted := (lived_cons.2 ⟨m', answers, rest⟩).deleted (answers.found (.present truthy))
    missing
  exact never _ (List.mem_append_right _ deleted) rfl

end Graph

namespace PairOperation

variable {op : PairOperation} {h : History} {e : Edge} {c : Call}

/-! ## What an operation knows -/

/-- Before an edge is added both users were found, and the edge was not. -/
structure Missing (h : History) (e : Edge) : Prop where
  source : Found h e.source
  target : Found h e.target
  denied : Denied h e.query
  never : Never h e.creation

theorem Permits.missing (permits : op.Permits h c) (made : c = e.creation) : Missing h e := by
  cases permits with
  | read reads => rw [made] at reads; cases reads
  | announce _ _ => cases made
  | unfollow | removeFollower | detach | unblock | unblockBack => exact absurd made (by simp)
  | follow differ once target source absent free =>
    obtain rfl := Edge.creation_inj.1 made
    exact ⟨source, target, absent, once⟩
  | block differ once target source free out back =>
    obtain rfl := Edge.creation_inj.1 made
    exact ⟨source, target, free.1, once⟩

/-- Before an edge is taken away it was found. -/
theorem Permits.affirmed (permits : op.Permits h c) (made : c = e.deletion) :
    Affirmed h e.query ∧ Never h e.deletion := by
  cases permits with
  | read reads => rw [made] at reads; cases reads
  | announce _ _ => cases made
  | follow | block => exact absurd made (by simp)
  | unfollow differ once there free =>
    obtain rfl := Edge.deletion_inj.1 made
    exact ⟨there, once⟩
  | removeFollower differ once there free =>
    obtain rfl := Edge.deletion_inj.1 made
    exact ⟨there, once⟩
  | detach differ between once before there undenied free =>
    obtain rfl := Edge.deletion_inj.1 made
    exact ⟨there, once⟩
  | unblock differ once there =>
    obtain rfl := Edge.deletion_inj.1 made
    exact ⟨there, once _⟩
  | unblockBack differ once notOwn there =>
    obtain rfl := Edge.deletion_inj.1 made
    exact ⟨there, once _⟩

/-- **A permitted write is never refused** by a graph that lives through the calls. -/
theorem Permitted.not_refused {g g' : Graph} (permitted : op.Permitted h) (lived : g.Lived h g')
    (e : Edge) : ¬ Denied h e.creation ∧ ¬ Denied h e.deletion := by
  constructor
  · rintro ⟨v, told, falsy⟩
    obtain ⟨before, after, m, m', rfl, first, answers, -⟩ := lived.around told
    have missing := (permitted before _ after rfl).missing rfl
    exact first.absent missing.denied missing.never
      (answers.of_creation_denied falsy (first.stored missing.source) (first.stored missing.target))
  · rintro ⟨v, told, falsy⟩
    obtain ⟨before, after, m, m', rfl, first, answers, -⟩ := lived.around told
    obtain ⟨there, never⟩ := (permitted before _ after rfl).affirmed rfl
    exact answers.of_deletion_denied falsy (first.present there never)

end PairOperation
end FollowGraph
