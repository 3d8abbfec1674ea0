import FollowGraph.Proofs.Graph.Listing

/-!
# Ids and tags that are texts

The graph keeps whatever it is given. Where all ids and all tags that it is given are texts, as they
are meant to be, all that it keeps are texts. Two things rest on that: the tags of a user can be
sorted, and a user who is read has the id under which it is stored, so that two users who are
stored under different ids are never read under one.
-/

set_option autoImplicit false

namespace FollowGraph

/-- A list of users whose ids are texts. -/
def Value.IsUserList (v : Value) : Prop :=
  ∃ nodes, v = .users nodes ∧ ∀ u ∈ nodes, u.userId.isText = true

namespace Graph

def TextIds (g : Graph) : Prop := ∀ u ∈ g.users, u.userId.isText = true

def TextTags (g : Graph) : Prop := ∀ p ∈ g.interests, ∀ tag ∈ p.2, tag.isText = true

/-- A call brings no user into the graph whose id is no text. -/
def GivesTextIds : GraphCall → Prop
  | .upsertUserNode user | .updateUserNode user => user.userId.isText = true
  | _ => True

/-- A call gives a user no tags but texts. -/
def GivesTextTags : GraphCall → Prop
  | .setUserInterests _ given => ∀ tags, readTags given = .ok tags → ∀ tag ∈ tags, tag.isText = true
  | _ => True

variable {g g' : Graph}

/-! ## Ids -/

theorem textIds_iff : g.TextIds ↔ g.Everyone fun id _ => id.isText = true := Iff.rfl

theorem givesUsers_of_givesTextIds {call : GraphCall} (h : GivesTextIds call) :
    GivesUsers (fun id _ => id.isText = true) call := by
  cases call <;> exact h

theorem TextIds.change {call : GraphCall} (h : g.TextIds) (given : GivesTextIds call)
    (hc : Change g call g') : g'.TextIds :=
  textIds_iff.2 ((textIds_iff.1 h).change (givesUsers_of_givesTextIds given) hc)

theorem TextIds.after (h : g.TextIds) {calls : List GraphCall}
    (given : ∀ call ∈ calls, GivesTextIds call) : (g.after calls).TextIds :=
  textIds_iff.2 ((textIds_iff.1 h).after fun call there =>
    givesUsers_of_givesTextIds (given call there))

/-- Where ids are texts, a user who is found has the id that was asked for. -/
theorem TextIds.userId_of_findNode (h : g.TextIds) {userId : UserId} {node : UserNode}
    (found : g.findNode userId = some node) : node.userId = userId := by
  obtain ⟨u, hu, rfl, same, -, -⟩ := of_findNode found
  rw [same, Json.asText_of_isText (h u hu)]

/-- Listed users have the ids that were listed, in their order. -/
theorem Stores.userIds_nodes (h : g.TextIds) {ids : List UserId} (stored : g.Stores ids) :
    (ids.filterMap g.findNode).map UserNode.userId = ids := by
  induction ids with
  | nil => rfl
  | cons userId rest ih =>
    obtain ⟨node, found⟩ := findNode_of_hasUser (stored userId List.mem_cons_self)
    rw [List.filterMap_cons, found, List.map_cons, h.userId_of_findNode found,
      ih fun x hx => stored x (List.mem_cons_of_mem _ hx)]

/-! ## Users as they are read -/

/-- The users of a list are found one by one. -/
theorem found_of_mem_nodes {g : Graph} {ids : List UserId} {nodes : List UserNode}
    (h : g.nodes ids = .ok nodes) : ∀ u ∈ nodes, ∃ userId, g.findNode userId = some u := by
  induction ids generalizing nodes with
  | nil =>
    cases h
    exact fun _ there => by cases there
  | cons userId rest ih =>
    rw [Graph.nodes] at h
    cases found : g.findNode userId with
    | none =>
      rw [found] at h
      cases h
    | some node =>
      rw [found] at h
      cases more : g.nodes rest with
      | error failure =>
        rw [more] at h
        cases h
      | ok others =>
        rw [more] at h
        cases h
        intro v hv
        rcases List.mem_cons.1 hv with rfl | hv
        · exact ⟨userId, found⟩
        · exact ih more v hv

/-- Users are read with texts for their ids, whatever they are stored under. -/
theorem isText_of_findNode {g : Graph} {userId : UserId} {node : UserNode}
    (h : g.findNode userId = some node) : node.userId.isText = true := by
  obtain ⟨u, -, -, same, -, -⟩ := of_findNode h
  exact same ▸ Json.isText_asText userId

theorem isText_of_mem_nodes {g : Graph} {ids : List UserId} {nodes : List UserNode}
    (h : g.nodes ids = .ok nodes) : ∀ u ∈ nodes, u.userId.isText = true := by
  intro u hu
  obtain ⟨userId, found⟩ := found_of_mem_nodes h u hu
  exact isText_of_findNode found

theorem of_listing_eq_ok {g : Graph} {found : Except Failure (List UserNode)} {v : Value}
    (h : (g.listing found).1 = .ok v) : ∃ nodes, found = .ok nodes ∧ v = .users nodes := by
  cases found with
  | error failure => cases h
  | ok nodes =>
    cases h
    exact ⟨nodes, rfl, rfl⟩

theorem isUserList_of_nodePage {g : Graph} {ids : List UserId} {page limit : Json} {v : Value}
    (h : (g.listing (g.nodePage ids page limit)).1 = .ok v) : v.IsUserList := by
  obtain ⟨nodes, paged, rfl⟩ := of_listing_eq_ok h
  unfold nodePage at paged
  split at paged
  · cases paged
  · exact ⟨nodes, rfl, isText_of_mem_nodes paged⟩

/-! ## Tags -/

theorem TextTags.interestsOf (h : g.TextTags) (userId : UserId) :
    ∀ tag ∈ g.interestsOf userId, tag.isText = true := by
  intro tag there
  unfold Graph.interestsOf at there
  cases found : g.interests.lookup userId with
  | none =>
    rw [found] at there
    cases there
  | some tags =>
    rw [found] at there
    obtain ⟨before, after, split, -⟩ := List.lookup_eq_some_iff.1 found
    have listed : (userId, tags) ∈ g.interests := by simp [split]
    exact h (userId, tags) listed tag there

theorem TextTags.change {call : GraphCall} (h : g.TextTags) (given : GivesTextTags call)
    (hc : Change g call g') : g'.TextTags := by
  cases hc with
  | nothing => exact h
  | @upsert _ user _ => exact fun p hp => h p (interests_upsert g user ▸ hp)
  | addEdge added =>
    obtain ⟨-, rfl⟩ := addEdge?_eq_some_iff.1 added
    intro p hp
    rw [interests_count] at hp
    exact h p hp
  | removeEdge removed =>
    obtain ⟨-, rfl⟩ := removeEdge?_eq_some_iff.1 removed
    intro p hp
    rw [interests_count] at hp
    exact h p hp
  | @setInterests userId _ tags _ read =>
    have texts : ∀ tag ∈ distinct tags, tag.isText = true :=
      fun tag there => given tags read tag (mem_distinct.1 there)
    intro p hp
    unfold Graph.setInterests at hp
    dsimp only at hp
    split at hp
    · obtain ⟨q, hq, rfl⟩ := List.mem_map.1 hp
      split
      · exact texts
      · exact h q hq
    · rcases List.mem_append.1 hp with old | new
      · exact h p old
      · rw [List.mem_singleton.1 new]
        exact texts

/-! ## Small graphs -/

/-- The call that stores a user of whom nothing but the id is known, if it can be one. -/
def newUser? (userId : String) : Option GraphCall :=
  if h : UserId.identifies (.str userId) = true then
    some (.upsertUserNode ⟨.str userId, .unknown, .int 0, .int 0, h⟩)
  else none

theorem givesTextIds_newUsers (userIds : List String) :
    ∀ call ∈ userIds.filterMap newUser?, GivesTextIds call := by
  intro call hc
  obtain ⟨userId, -, made⟩ := List.mem_filterMap.1 hc
  unfold newUser? at made
  split at made
  · cases made
    rfl
  · cases made

/-- Users of whom nothing but the id is known, some of whom follow others. -/
def ofFollows (userIds : List String) (follows : List (String × String)) : Graph :=
  empty.after (userIds.filterMap newUser? ++
    follows.map fun pair => .createEdge (.str pair.1) (.str pair.2) .following)

theorem wellFormed_ofFollows (userIds : List String) (follows : List (String × String)) :
    (ofFollows userIds follows).WellFormed :=
  wellFormed_empty.after _

theorem textIds_ofFollows (userIds : List String) (follows : List (String × String)) :
    (ofFollows userIds follows).TextIds := by
  refine TextIds.after (fun u hu => by cases hu) fun call hc => ?_
  rcases List.mem_append.1 hc with hc | hc
  · exact givesTextIds_newUsers userIds call hc
  · obtain ⟨pair, -, rfl⟩ := List.mem_map.1 hc
    trivial

end Graph
end FollowGraph
