import FollowGraph.Proofs.Graph.WellFormed

/-!
# Listings of a well-formed graph

A listing looks its users up one by one and fails at the first who is not stored. On a well-formed
graph every id that a listing can come to is stored: ids come from the ends of edges or from the
users themselves, and a page or a search only leaves some out. So no listing fails for a missing
user, and a listing whose names are all texts does not fail at all.

The names are a second invariant, `Graph.TextNames`, and not a part of being well formed: only a
search reads them as texts, and a caller can give a profile with anything in it.
-/

set_option autoImplicit false

namespace FollowGraph

theorem mem_of_mem_slice {α : Type} {items : List α} {start stop : Int} {a : α}
    (h : a ∈ slice items start stop) : a ∈ items :=
  List.mem_of_mem_take (List.mem_of_mem_drop h)

namespace Graph

/-! ## Stored users -/

theorem stored?_of_hasUser {g : Graph} {userId : UserId} (h : g.hasUser userId = true) :
    ∃ u ∈ g.users, g.stored? userId = some u ∧ u.userId = userId := by
  obtain ⟨u, hu, hid⟩ := hasUser_iff.1 h
  have found : (g.stored? userId).isSome = true := by
    unfold stored?
    rw [List.find?_isSome]
    exact ⟨u, hu, by simpa using hid⟩
  obtain ⟨v, hv⟩ := Option.isSome_iff_exists.1 found
  exact ⟨v, List.mem_of_find?_eq_some hv, hv, by simpa using List.find?_some hv⟩

theorem findNode_of_hasUser {g : Graph} {userId : UserId} (h : g.hasUser userId = true) :
    ∃ node, g.findNode userId = some node := by
  obtain ⟨u, -, hu, -⟩ := stored?_of_hasUser h
  exact ⟨u.node, by rw [findNode, hu, Option.map_some]⟩

def Stores (g : Graph) (ids : List UserId) : Prop := ∀ userId ∈ ids, g.hasUser userId = true

theorem Stores.subset {g : Graph} {ids ids' : List UserId} (h : g.Stores ids)
    (sub : ∀ userId ∈ ids', userId ∈ ids) : g.Stores ids' :=
  fun userId hi => h userId (sub userId hi)

/-- A listing of stored users gives each of them, in order. -/
theorem Stores.nodes {g : Graph} {ids : List UserId} (h : g.Stores ids) :
    g.nodes ids = .ok (ids.filterMap g.findNode) := by
  induction ids with
  | nil => rfl
  | cons userId rest ih =>
    obtain ⟨node, found⟩ := findNode_of_hasUser (h userId List.mem_cons_self)
    have rest_nodes := ih fun x hx => h x (List.mem_cons_of_mem _ hx)
    rw [Graph.nodes, found, rest_nodes, List.filterMap_cons, found]

/-- Nobody who is stored is left out. -/
theorem Stores.map_findNode {g : Graph} {ids : List UserId} (h : g.Stores ids) :
    (ids.filterMap g.findNode).map some = ids.map g.findNode := by
  induction ids with
  | nil => rfl
  | cons userId rest ih =>
    obtain ⟨node, found⟩ := findNode_of_hasUser (h userId List.mem_cons_self)
    rw [List.filterMap_cons, found, List.map_cons, List.map_cons, found,
      ih fun x hx => h x (List.mem_cons_of_mem _ hx)]

theorem Stores.length_nodes {g : Graph} {ids : List UserId} (h : g.Stores ids) :
    (ids.filterMap g.findNode).length = ids.length := by
  simpa only [List.length_map] using congrArg List.length h.map_findNode

theorem Stores.nodePage {g : Graph} {ids : List UserId} (h : g.Stores ids) (page limit : Int) :
    g.nodePage ids (.int page) (.int limit) =
      .ok ((pageOf ids page limit).filterMap g.findNode) := by
  rw [nodePage_int]
  exact Stores.nodes fun x hx => h x (mem_of_mem_slice hx)

/-! ## The ids of each listing -/

variable {g : Graph}

section Targets

variable (stored : ∀ e ∈ g.edges, g.hasUser e.target = true)

include stored

theorem stores_targets (kind : Relationship) (userId : UserId) :
    g.Stores (g.targets kind userId) := by
  intro x hx
  obtain ⟨e, he, rfl⟩ := List.mem_map.1 hx
  exact stored e (List.mem_filter.1 he).1

theorem stores_secondDegreeIds (viewer : UserId) : g.Stores (g.secondDegreeIds viewer) := by
  intro x hx
  obtain ⟨a, -, hx⟩ := List.mem_flatMap.1 (mem_distinct.1 hx)
  exact stores_targets stored .following a x (List.mem_filter.1 hx).1

theorem stores_thirdDegreeIds (viewer : UserId) : g.Stores (g.thirdDegreeIds viewer) := by
  intro x hx
  obtain ⟨a, -, hx⟩ := List.mem_flatMap.1 (mem_distinct.1 hx)
  obtain ⟨b, -, hx⟩ := List.mem_flatMap.1 hx
  exact stores_targets stored .following b x (List.mem_filter.1 hx).1

theorem stores_commonIds (source target : UserId) : g.Stores (g.commonIds source target) :=
  (stores_targets stored .following source).subset fun _ hx => (List.mem_filter.1 hx).1

end Targets

theorem WellFormed.stores_targets (h : g.WellFormed) (kind : Relationship) (userId : UserId) :
    g.Stores (g.targets kind userId) :=
  Graph.stores_targets h.target_stored kind userId

theorem WellFormed.stores_sources (h : g.WellFormed) (kind : Relationship) (userId : UserId) :
    g.Stores (g.sources kind userId) := by
  intro x hx
  obtain ⟨e, he, rfl⟩ := List.mem_map.1 hx
  exact h.source_stored e (List.mem_filter.1 he).1

theorem WellFormed.stores_neighbors (h : g.WellFormed) (kind : Relationship)
    (direction : Direction) (userId : UserId) : g.Stores (g.neighbors kind direction userId) := by
  cases direction with
  | outgoing => exact h.stores_targets kind userId
  | incoming => exact h.stores_sources kind userId

theorem WellFormed.stores_secondDegreeIds (h : g.WellFormed) (viewer : UserId) :
    g.Stores (g.secondDegreeIds viewer) :=
  Graph.stores_secondDegreeIds h.target_stored viewer

theorem WellFormed.stores_thirdDegreeIds (h : g.WellFormed) (viewer : UserId) :
    g.Stores (g.thirdDegreeIds viewer) :=
  Graph.stores_thirdDegreeIds h.target_stored viewer

theorem WellFormed.stores_commonIds (h : g.WellFormed) (source target : UserId) :
    g.Stores (g.commonIds source target) :=
  Graph.stores_commonIds h.target_stored source target

/-- Holds of any graph: the ids are those of its users. -/
theorem stores_sharingIds (g : Graph) (viewer : UserId) : g.Stores (g.sharingIds viewer) := by
  intro x hx
  exact hasUser_iff.2 (List.mem_map.1 (List.mem_filter.1 hx).1)

/-! ## Names -/

/-- Both names of a profile are texts, as they are meant to be. -/
def HasTextNames (p : Profile) : Prop := p.username.isText = true ∧ p.displayName.isText = true

def TextNames (g : Graph) : Prop := ∀ u ∈ g.users, HasTextNames u.profile

theorem textNames_iff : g.TextNames ↔ g.Everyone fun _ profile => HasTextNames profile := Iff.rfl

/-- A call brings no user into the graph whose names are no texts. -/
def GivesTextNames : GraphCall → Prop
  | .upsertUserNode user | .updateUserNode user => HasTextNames user.profile
  | _ => True

theorem givesUsers_of_givesTextNames {call : GraphCall} (h : GivesTextNames call) :
    GivesUsers (fun _ profile => HasTextNames profile) call := by
  cases call <;> exact h

theorem TextNames.change {g' : Graph} {call : GraphCall} (h : g.TextNames)
    (given : GivesTextNames call) (hc : Change g call g') : g'.TextNames :=
  textNames_iff.2 ((textNames_iff.1 h).change (givesUsers_of_givesTextNames given) hc)

theorem TextNames.after (h : g.TextNames) {calls : List GraphCall}
    (given : ∀ call ∈ calls, GivesTextNames call) : (g.after calls).TextNames :=
  textNames_iff.2 ((textNames_iff.1 h).after fun call there =>
    givesUsers_of_givesTextNames (given call there))

/-! ## Search -/

/-- What a search can fail with: a name that is no text. -/
def IsTextFailure (failure : Failure) : Prop := ∃ kind, failure = .noProperty kind "lower"

theorem isText_orElse {value other : Json} (text : value.isText = true)
    (other_text : other.isText = true) : (value.orElse other).isText = true := by
  unfold Json.orElse
  split
  · exact other_text
  · exact text

theorem matchesText_failure {query : List Nat} {value : Json} {failure : Failure}
    (h : matchesText query value = .error failure) :
    IsTextFailure failure ∧ ¬ value.isText = true := by
  unfold matchesText lowerText at h
  split at h
  · cases h
  · rename_i no_text
    cases h
    exact ⟨⟨_, rfl⟩, fun text => no_text (isText_orElse text rfl)⟩

theorem matchesProfile_failure {query : List Nat} {p : Profile} {failure : Failure}
    (h : matchesProfile query p = .error failure) :
    IsTextFailure failure ∧ ¬ HasTextNames p := by
  unfold matchesProfile at h
  cases hu : matchesText query p.username with
  | error other =>
    rw [hu] at h
    cases h
    exact ⟨(matchesText_failure hu).1, fun names => (matchesText_failure hu).2 names.1⟩
  | ok found =>
    cases found with
    | true => rw [hu] at h; cases h
    | false =>
      rw [hu] at h
      exact ⟨(matchesText_failure h).1, fun names => (matchesText_failure h).2 names.2⟩

/-- Searching stored users finds some of them, or meets a name that is no text. -/
theorem Stores.matching {ids : List UserId} (h : g.Stores ids) (query : List Nat) :
    (∃ found, g.matching query ids = .ok found ∧ ∀ x ∈ found, x ∈ ids) ∨
      ∃ failure, g.matching query ids = .error failure ∧ IsTextFailure failure ∧
        ¬ g.TextNames := by
  induction ids with
  | nil => exact .inl ⟨[], rfl, fun _ hx => hx⟩
  | cons userId rest ih =>
    obtain ⟨u, hm, hu, -⟩ := stored?_of_hasUser (h userId List.mem_cons_self)
    unfold Graph.matching
    rw [hu]
    dsimp only
    cases hp : matchesProfile query u.profile with
    | error failure =>
      have := matchesProfile_failure hp
      exact .inr ⟨failure, rfl, this.1, fun names => this.2 (names u hm)⟩
    | ok hit =>
      rcases ih fun x hx => h x (List.mem_cons_of_mem _ hx) with
        ⟨found, hf, sub⟩ | ⟨failure, hf, text⟩
      · rw [hf]
        refine .inl ⟨_, rfl, ?_⟩
        intro x hx
        split at hx
        · rcases List.mem_cons.1 hx with rfl | hx
          · exact List.mem_cons_self
          · exact List.mem_cons_of_mem _ (sub x hx)
        · exact List.mem_cons_of_mem _ (sub x hx)
      · rw [hf]
        exact .inr ⟨failure, rfl, text⟩

/-- A search for a text is a page of the neighbours that match it in lower case. -/
theorem search_str (g : Graph) (userId : UserId) (direction : Direction) (query : String)
    (page limit : Json) :
    g.search userId direction (.str query) page limit =
      (g.matching (lowerPoints (query.toList.map Char.toNat))
        (g.neighbors .following direction userId)).bind fun ids => g.nodePage ids page limit := rfl

/-! ## Listings -/

/-- A listing asked for in the way that is meant: a page and a limit that are integers, a query
that is a text, and a viewer who can be looked up. -/
inductive IsListing : GraphCall → Prop where
  | pagedNeighbors (userId : UserId) (kind : Relationship) (direction : Direction)
      (page limit : Int) : IsListing (.pagedNeighbors userId kind direction (.int page) (.int limit))
  | secondDegree (userId : UserId) (page limit : Int) :
      IsListing (.secondDegree userId (.int page) (.int limit))
  | thirdDegree (userId : UserId) (page limit : Int) :
      IsListing (.thirdDegree userId (.int page) (.int limit))
  | commonConnection (source target : UserId) : IsListing (.commonConnection source target)
  | substringSearch (userId : UserId) (direction : Direction) (query : String)
      (page limit : Int) :
      IsListing (.substringSearch userId direction (.str query) (.int page) (.int limit))
  | sharedInterestUsers (userId : String) (page limit : Int) :
      IsListing (.sharedInterestUsers (.str userId) (.int page) (.int limit))

theorem listing_of_ok {nodes : Except Failure (List UserNode)} {found : List UserNode}
    (h : nodes = .ok found) : (g.listing nodes).1 = .ok (.users found) := by
  rw [h]
  rfl

theorem listing_of_error {nodes : Except Failure (List UserNode)} {failure : Failure}
    (h : nodes = .error failure) : (g.listing nodes).1 = .error failure := by
  rw [h]
  rfl

/-- A listing of a well-formed graph gives users; only a search can fail, and only because of a
name that is no text. -/
theorem WellFormed.listing (h : g.WellFormed) {call : GraphCall} (hl : IsListing call) :
    (∃ nodes, (g.answer call).1 = .ok (.users nodes)) ∨
      ∃ failure, (g.answer call).1 = .error failure ∧ IsTextFailure failure ∧ ¬ g.TextNames := by
  cases hl with
  | pagedNeighbors userId kind direction page limit =>
    exact .inl ⟨_, listing_of_ok ((h.stores_neighbors kind direction userId).nodePage page limit)⟩
  | secondDegree userId page limit =>
    exact .inl ⟨_, listing_of_ok ((h.stores_secondDegreeIds userId).nodePage page limit)⟩
  | thirdDegree userId page limit =>
    exact .inl ⟨_, listing_of_ok ((h.stores_thirdDegreeIds userId).nodePage page limit)⟩
  | commonConnection source target =>
    exact .inl ⟨_, listing_of_ok (h.stores_commonIds source target).nodes⟩
  | substringSearch userId direction query page limit =>
    have stored := h.stores_neighbors .following direction userId
    have searched := search_str g userId direction query (.int page) (.int limit)
    rcases stored.matching (lowerPoints (query.toList.map Char.toNat)) with
      ⟨found, hf, sub⟩ | ⟨failure, hf, text⟩
    · rw [hf] at searched
      have paged := (stored.subset sub).nodePage page limit
      exact .inl ⟨_, listing_of_ok (searched.trans paged)⟩
    · rw [hf] at searched
      exact .inr ⟨failure, listing_of_error searched, text⟩
  | sharedInterestUsers userId page limit =>
    exact .inl ⟨_, listing_of_ok ((stores_sharingIds g (.str userId)).nodePage page limit)⟩

/-- A user who is found is stored under the id that was asked for, and its counters are read as
they are kept. -/
theorem of_findNode {userId : UserId} {node : UserNode} (h : g.findNode userId = some node) :
    ∃ u ∈ g.users, u.userId = userId ∧ node.userId = userId.asText ∧
      node.followingNumber = .int u.followingNumber ∧
      node.followersNumber = .int u.followersNumber := by
  obtain ⟨u, hu, rfl⟩ := Option.map_eq_some_iff.1 h
  have hid : u.userId = userId := by simpa using List.find?_some hu
  refine ⟨u, List.mem_of_find?_eq_some hu, hid, ?_, rfl, rfl⟩
  rw [← hid]
  rfl

/-- **Whatever calls were made to an empty graph, it is consistent.** It is well formed; a user
is found under its own id and with the numbers of its following edges for counters; a listing
never fails for a missing user, and gives users whenever all names that were given are texts. -/
theorem consistent_after_calls (calls : List GraphCall) :
    (empty.after calls).WellFormed ∧
    (∀ userId node, (empty.after calls).findNode userId = some node →
      node.userId = userId.asText ∧
      node.followingNumber = .int ((empty.after calls).targets .following userId).length ∧
      node.followersNumber = .int ((empty.after calls).sources .following userId).length) ∧
    (∀ call, IsListing call →
      ∀ userId, ((empty.after calls).answer call).1 ≠ .error (.missingKey userId)) ∧
    ((∀ call ∈ calls, GivesTextNames call) →
      ∀ call, IsListing call → ∃ nodes, ((empty.after calls).answer call).1 = .ok (.users nodes)) := by
  have wf : (empty.after calls).WellFormed := wellFormed_empty.after calls
  refine ⟨wf, ?_, ?_, ?_⟩
  · intro userId node found
    obtain ⟨u, hu, rfl, hid, hn, hm⟩ := of_findNode found
    rw [← wf.following_count u hu, ← wf.followers_count u hu]
    exact ⟨hid, hn, hm⟩
  · intro call hl userId
    rcases wf.listing hl with ⟨nodes, ha⟩ | ⟨failure, ha, ⟨kind, rfl⟩, -⟩ <;> rw [ha] <;> simp
  · intro given call hl
    have names : (empty.after calls).TextNames := by
      refine TextNames.after ?_ given
      exact fun u hu => by cases hu
    rcases wf.listing hl with found | ⟨failure, -, -, no_names⟩
    · exact found
    · exact absurd names no_names

end Graph
end FollowGraph
