import FollowGraph.Graph.Answer
import FollowGraph.Proofs.Json.Order

/-!
# Every call keeps the graph well formed

`Graph.after` is the graph after a list of calls, in any order and with any arguments. What it can
rely on is `Graph.WellFormed`, and this module proves that no call breaks it.

The part about edges and counters stands by itself as `Graph.Counted`: it needs neither distinct
ids nor anything about interests, and the operations on pairs of users rely on it alone. Its two
interesting cases share one argument. Adding an edge and removing one both relate an edge list to
the same list with one edge in front, up to order, and a counter does not see the order.
-/

set_option autoImplicit false

namespace FollowGraph.Graph

/-- Edges without repetition between stored users, and counters that are the numbers of following
edges. -/
structure Counted (g : Graph) : Prop where
  edges_nodup : g.edges.Nodup
  source_stored : ∀ e ∈ g.edges, g.hasUser e.source = true
  target_stored : ∀ e ∈ g.edges, g.hasUser e.target = true
  following_count : ∀ u ∈ g.users, u.followingNumber = (g.targets .following u.userId).length
  followers_count : ∀ u ∈ g.users, u.followersNumber = (g.sources .following u.userId).length

theorem WellFormed.counted {g : Graph} (h : g.WellFormed) : g.Counted :=
  ⟨h.edges_nodup, h.source_stored, h.target_stored, h.following_count, h.followers_count⟩

theorem Counted.wellFormed {g : Graph} (h : g.Counted)
    (ids : (g.users.map StoredUser.userId).Nodup)
    (tags : ∀ p ∈ g.interests, g.hasUser p.1 = true) : g.WellFormed :=
  ⟨ids, h.edges_nodup, h.source_stored, h.target_stored, tags, h.following_count,
    h.followers_count⟩

/-! ## Users -/

theorem hasUser_iff {g : Graph} {userId : UserId} :
    g.hasUser userId = true ↔ ∃ u ∈ g.users, u.userId = userId := by
  simp [hasUser]

theorem isSome_findNode (g : Graph) (userId : UserId) :
    (g.findNode userId).isSome = g.hasUser userId := by
  rw [findNode, Option.isSome_map, stored?, hasUser, List.isSome_find?]

theorem hasUser_congr {g g' : Graph}
    (h : g'.users.map StoredUser.userId = g.users.map StoredUser.userId) (userId : UserId) :
    g'.hasUser userId = g.hasUser userId := by
  have any_ids : ∀ users : List StoredUser,
      users.any (·.userId == userId) = (users.map StoredUser.userId).any (· == userId) := by
    intro users
    simp [List.any_map, Function.comp_def]
  rw [hasUser, hasUser, any_ids, any_ids, h]

theorem mem_modifyUser {g : Graph} {userId : UserId} {f : StoredUser → StoredUser}
    {u : StoredUser} :
    u ∈ (g.modifyUser userId f).users ↔
      ∃ v ∈ g.users, (if v.userId == userId then f v else v) = u := by
  simp [modifyUser]

/-- What a change of one user keeps of it is kept of all users. -/
theorem map_modifyUser {γ : Type} (g : Graph) (userId : UserId) {f : StoredUser → StoredUser}
    {part : StoredUser → γ} (keeps : ∀ u, part (f u) = part u) :
    (g.modifyUser userId f).users.map part = g.users.map part := by
  simp only [modifyUser, List.map_map]
  refine List.map_congr_left ?_
  intro u _
  by_cases h : u.userId = userId <;> simp [h, keeps]

/-- A change that keeps ids changes no user's presence. -/
theorem ids_modifyUser (g : Graph) (userId : UserId) {f : StoredUser → StoredUser}
    (keeps : ∀ u, (f u).userId = u.userId) :
    (g.modifyUser userId f).users.map StoredUser.userId = g.users.map StoredUser.userId :=
  g.map_modifyUser userId keeps

/-! ## Counting -/

/-- How many edges of one kind leave a user. -/
theorem length_targets (g : Graph) (kind : Relationship) (userId : UserId) :
    (g.targets kind userId).length =
      g.edges.countP fun e => e.source == userId && e.kind == kind := by
  simp [targets, List.countP_eq_length_filter]

theorem length_sources (g : Graph) (kind : Relationship) (userId : UserId) :
    (g.sources kind userId).length =
      g.edges.countP fun e => e.target == userId && e.kind == kind := by
  simp [sources, List.countP_eq_length_filter]

@[simp] theorem edges_count (g : Graph) (e : Edge) (n : Int) : (g.count e n).edges = g.edges := by
  unfold count
  split <;> rfl

@[simp] theorem interests_count (g : Graph) (e : Edge) (n : Int) :
    (g.count e n).interests = g.interests := by
  unfold count
  split <;> rfl

@[simp] theorem ids_count (g : Graph) (e : Edge) (n : Int) :
    (g.count e n).users.map StoredUser.userId = g.users.map StoredUser.userId := by
  unfold count
  split
  · refine (ids_modifyUser _ _ ?_).trans (ids_modifyUser _ _ ?_) <;> exact fun _ => rfl
  · rfl

/-- Counting moves no more of a user than its counters. -/
theorem profiles_count (g : Graph) (e : Edge) (n : Int) :
    (g.count e n).users.map (fun u => (u.userId, u.profile)) =
      g.users.map fun u => (u.userId, u.profile) := by
  unfold count
  split
  · refine (map_modifyUser _ _ ?_).trans (map_modifyUser _ _ ?_) <;> exact fun _ => rfl
  · rfl

@[simp] theorem hasUser_count (g : Graph) (e : Edge) (n : Int) (userId : UserId) :
    (g.count e n).hasUser userId = g.hasUser userId :=
  hasUser_congr (g.ids_count e n) userId

/-- The amount that a counted edge adds at one of its ends. -/
def share (e : Edge) (stop userId : UserId) (n : Int) : Int :=
  if userId = stop ∧ e.kind = .following then n else 0

/-- A user after an edge was counted: only the counters at the edge's own ends moved. A self edge
moves both of them. -/
theorem of_mem_count {g : Graph} {e : Edge} {n : Int} {u : StoredUser}
    (h : u ∈ (g.count e n).users) :
    ∃ v ∈ g.users, u.userId = v.userId ∧ u.profile = v.profile ∧
      u.followingNumber = v.followingNumber + share e e.source v.userId n ∧
      u.followersNumber = v.followersNumber + share e e.target v.userId n := by
  unfold count at h
  by_cases hk : e.kind = .following
  · rw [if_pos hk] at h
    obtain ⟨v', hv', rfl⟩ := mem_modifyUser.1 h
    obtain ⟨v, hv, rfl⟩ := mem_modifyUser.1 hv'
    refine ⟨v, hv, ?_⟩
    clear h hv'
    -- Whether each end of the edge is this user: four cases, the self edge among them.
    grind [share]
  · rw [if_neg hk] at h
    exact ⟨u, h, rfl, rfl, by simp [share, hk], by simp [share, hk]⟩

theorem share_neg (e : Edge) (stop userId : UserId) (n : Int) :
    share e stop userId (-n) = -share e stop userId n := by
  unfold share
  split <;> simp

/-- The following edges that have a user at one end, as a number that counters can be compared
with. The end is a parameter: `Edge.source` or `Edge.target`. -/
def tally (edges : List Edge) (stop : Edge → UserId) (userId : UserId) : Int :=
  edges.countP fun e => stop e == userId && e.kind == .following

/-- One edge more in front is one more in the tally of its ends, wherever it really stands. -/
theorem tally_of_perm {edges edges' : List Edge} {e : Edge} (h : edges'.Perm (e :: edges))
    (stop : Edge → UserId) (userId : UserId) :
    tally edges' stop userId = tally edges stop userId + share e (stop e) userId 1 := by
  unfold tally
  rw [h.countP_eq, List.countP_cons]
  by_cases hs : stop e = userId <;> by_cases hk : e.kind = .following <;>
    simp [share, hs, hk, eq_comm (a := userId)]

theorem Counted.following_tally {g : Graph} (h : g.Counted) {u : StoredUser} (hu : u ∈ g.users) :
    u.followingNumber = tally g.edges Edge.source u.userId := by
  rw [h.following_count u hu, length_targets, tally]

theorem Counted.followers_tally {g : Graph} (h : g.Counted) {u : StoredUser} (hu : u ∈ g.users) :
    u.followersNumber = tally g.edges Edge.target u.userId := by
  rw [h.followers_count u hu, length_sources, tally]

/-! ## Writing edges -/

/-- Other edges keep the graph counted when the tallies move by the same shares as the counters. -/
theorem Counted.recount {g : Graph} (h : g.Counted) {edges : List Edge} {e : Edge} {n : Int}
    (nodup : edges.Nodup)
    (stored : ∀ x ∈ edges, g.hasUser x.source = true ∧ g.hasUser x.target = true)
    (moved : ∀ stop userId,
      tally edges stop userId = tally g.edges stop userId + share e (stop e) userId n) :
    ({ g with edges := edges }.count e n).Counted where
  edges_nodup := by rw [edges_count]; exact nodup
  source_stored x hx := by
    rw [edges_count] at hx
    rw [hasUser_count]
    exact (stored x hx).1
  target_stored x hx := by
    rw [edges_count] at hx
    rw [hasUser_count]
    exact (stored x hx).2
  following_count u hu := by
    obtain ⟨v, hv, hid, -, hn, -⟩ := of_mem_count hu
    rw [length_targets, edges_count, hn, h.following_tally hv, hid]
    exact (moved Edge.source v.userId).symm
  followers_count u hu := by
    obtain ⟨v, hv, hid, -, -, hn⟩ := of_mem_count hu
    rw [length_sources, edges_count, hn, h.followers_tally hv, hid]
    exact (moved Edge.target v.userId).symm

theorem hasEdge_iff {g : Graph} {e : Edge} : g.hasEdge e = true ↔ e ∈ g.edges := by
  simp [hasEdge]

theorem addEdge?_eq_some_iff {g g' : Graph} {e : Edge} :
    g.addEdge? e = some g' ↔
      (g.hasUser e.source = true ∧ g.hasUser e.target = true ∧ e ∉ g.edges) ∧
        g' = { g with edges := g.edges ++ [e] }.count e 1 := by
  unfold addEdge?
  rw [Option.ite_none_right_eq_some, Option.some.injEq, eq_comm (a := g')]
  simp [← hasEdge_iff, and_assoc]

theorem removeEdge?_eq_some_iff {g g' : Graph} {e : Edge} :
    g.removeEdge? e = some g' ↔
      e ∈ g.edges ∧ g' = { g with edges := g.edges.erase e }.count e (-1) := by
  unfold removeEdge?
  rw [Option.ite_none_right_eq_some, Option.some.injEq, eq_comm (a := g'), hasEdge_iff]

theorem Counted.addEdge {g g' : Graph} {e : Edge} (h : g.Counted) (ha : g.addEdge? e = some g') :
    g'.Counted := by
  obtain ⟨⟨hs, ht, hne⟩, rfl⟩ := addEdge?_eq_some_iff.1 ha
  have front : (g.edges ++ [e]).Perm (e :: g.edges) := List.perm_append_singleton e g.edges
  refine h.recount ?_ ?_ fun stop userId => tally_of_perm front stop userId
  · rw [front.nodup_iff]
    exact List.nodup_cons.2 ⟨hne, h.edges_nodup⟩
  · intro x hx
    rcases List.mem_cons.1 (front.mem_iff.1 hx) with rfl | hx
    · exact ⟨hs, ht⟩
    · exact ⟨h.source_stored x hx, h.target_stored x hx⟩

theorem Counted.removeEdge {g g' : Graph} {e : Edge} (h : g.Counted)
    (hr : g.removeEdge? e = some g') : g'.Counted := by
  obtain ⟨he, rfl⟩ := removeEdge?_eq_some_iff.1 hr
  have front : g.edges.Perm (e :: g.edges.erase e) := List.perm_cons_erase he
  refine h.recount (h.edges_nodup.erase e) ?_ ?_
  · intro x hx
    have hx := List.mem_of_mem_erase hx
    exact ⟨h.source_stored x hx, h.target_stored x hx⟩
  · intro stop userId
    have := tally_of_perm front stop userId
    rw [share_neg]
    omega

/-! ## Writing users -/

/-- New profiles leave ids, counters and edges alone. -/
theorem Counted.modifyProfile {g : Graph} (h : g.Counted) (userId : UserId) (profile : Profile) :
    (g.modifyUser userId fun u => { u with profile }).Counted := by
  have present (x : UserId) : (g.modifyUser userId fun u => { u with profile }).hasUser x =
      g.hasUser x := hasUser_congr (by refine ids_modifyUser g userId ?_; exact fun _ => rfl) x
  have kept {u : StoredUser} (hu : u ∈ (g.modifyUser userId fun u => { u with profile }).users) :
      ∃ v ∈ g.users, u.userId = v.userId ∧ u.followingNumber = v.followingNumber ∧
        u.followersNumber = v.followersNumber := by
    obtain ⟨v, hv, rfl⟩ := mem_modifyUser.1 hu
    refine ⟨v, hv, ?_⟩
    split <;> exact ⟨rfl, rfl, rfl⟩
  refine ⟨h.edges_nodup, ?_, ?_, ?_, ?_⟩
  · intro e he
    rw [present]; exact h.source_stored e he
  · intro e he
    rw [present]; exact h.target_stored e he
  · intro u hu
    obtain ⟨v, hv, hid, hn, -⟩ := kept hu
    rw [hn, hid]; exact h.following_count v hv
  · intro u hu
    obtain ⟨v, hv, hid, -, hn⟩ := kept hu
    rw [hn, hid]; exact h.followers_count v hv

/-- A user who is not stored has no edges, so counters of zero are right. -/
theorem tally_eq_zero {g : Graph} {userId : UserId}
    (absent : g.hasUser userId = false) (stop : Edge → UserId)
    (stored : ∀ e ∈ g.edges, g.hasUser (stop e) = true) : tally g.edges stop userId = 0 := by
  unfold tally
  rw [Int.natCast_eq_zero, List.countP_eq_zero]
  intro e he hit
  simp only [Bool.and_eq_true, beq_iff_eq] at hit
  have := stored e he
  rw [hit.1, absent] at this
  cases this

theorem Counted.addUser {g : Graph} (h : g.Counted) (user : UserNode)
    (absent : g.hasUser user.userId = false) :
    ({ g with users := g.users ++ [.ofNode user] } : Graph).Counted := by
  have present {x : UserId} (hx : g.hasUser x = true) :
      ({ g with users := g.users ++ [.ofNode user] } : Graph).hasUser x = true := by
    obtain ⟨u, hu, hid⟩ := hasUser_iff.1 hx
    exact hasUser_iff.2 ⟨u, List.mem_append_left _ hu, hid⟩
  refine ⟨h.edges_nodup, fun e he => present (h.source_stored e he),
    fun e he => present (h.target_stored e he), fun u hu => ?_, fun u hu => ?_⟩
  · rw [length_targets]
    rcases List.mem_append.1 hu with hu | hu
    · exact h.following_tally hu
    · rw [List.mem_singleton.1 hu]
      exact (tally_eq_zero absent Edge.source h.source_stored).symm
  · rw [length_sources]
    rcases List.mem_append.1 hu with hu | hu
    · exact h.followers_tally hu
    · rw [List.mem_singleton.1 hu]
      exact (tally_eq_zero absent Edge.target h.target_stored).symm

theorem Counted.upsert {g : Graph} (h : g.Counted) (user : UserNode) : (g.upsert user).Counted := by
  unfold Graph.upsert
  split
  · exact h.modifyProfile _ _
  · rename_i absent
    exact h.addUser user (by simpa using absent)

theorem ids_upsert (g : Graph) (user : UserNode) :
    (g.upsert user).users.map StoredUser.userId =
      if g.hasUser user.userId then g.users.map StoredUser.userId
      else g.users.map StoredUser.userId ++ [user.userId] := by
  unfold Graph.upsert
  split
  · refine ids_modifyUser g _ ?_
    exact fun _ => rfl
  · simp [StoredUser.ofNode]

theorem edges_upsert (g : Graph) (user : UserNode) : (g.upsert user).edges = g.edges := by
  unfold Graph.upsert
  split <;> rfl

theorem interests_upsert (g : Graph) (user : UserNode) :
    (g.upsert user).interests = g.interests := by
  unfold Graph.upsert
  split <;> rfl

theorem hasUser_upsert_of_hasUser {g : Graph} (user : UserNode) {userId : UserId}
    (h : g.hasUser userId = true) : (g.upsert user).hasUser userId = true := by
  rw [hasUser_iff, ← List.mem_map] at h ⊢
  rw [ids_upsert]
  split
  · exact h
  · exact List.mem_append_left _ h

/-! ## Calls -/

theorem WellFormed.upsert {g : Graph} (h : g.WellFormed) (user : UserNode) :
    (g.upsert user).WellFormed := by
  refine (h.counted.upsert user).wellFormed ?_ ?_
  · rw [ids_upsert]
    split
    · exact h.ids_nodup
    · rename_i absent
      refine List.nodup_append.2 ⟨h.ids_nodup, by simp, ?_⟩
      rintro _ hx y hy rfl
      rw [List.mem_singleton.1 hy] at hx
      exact absent (hasUser_iff.2 (List.mem_map.1 hx))
  · intro p hp
    exact hasUser_upsert_of_hasUser user (h.interests_stored p (interests_upsert g user ▸ hp))

/-- What counting an edge leaves alone is well formed as before. -/
theorem WellFormed.recount {g : Graph} (h : g.WellFormed) {edges : List Edge} {e : Edge} {n : Int}
    (counted : ({ g with edges := edges }.count e n).Counted) :
    ({ g with edges := edges }.count e n).WellFormed := by
  refine counted.wellFormed ?_ ?_
  · rw [ids_count]
    exact h.ids_nodup
  · intro p hp
    rw [interests_count] at hp
    rw [hasUser_count]
    exact h.interests_stored p hp

theorem WellFormed.addEdge {g g' : Graph} {e : Edge} (h : g.WellFormed)
    (ha : g.addEdge? e = some g') : g'.WellFormed := by
  have counted := h.counted.addEdge ha
  obtain ⟨-, rfl⟩ := addEdge?_eq_some_iff.1 ha
  exact h.recount counted

theorem WellFormed.removeEdge {g g' : Graph} {e : Edge} (h : g.WellFormed)
    (hr : g.removeEdge? e = some g') : g'.WellFormed := by
  have counted := h.counted.removeEdge hr
  obtain ⟨-, rfl⟩ := removeEdge?_eq_some_iff.1 hr
  exact h.recount counted

theorem WellFormed.setInterests {g : Graph} (h : g.WellFormed) {userId : UserId}
    (stored : g.hasUser userId = true) (tags : List Json) :
    (g.setInterests userId tags).WellFormed := by
  have keys : ∀ p ∈ (g.setInterests userId tags).interests, g.hasUser p.1 = true := by
    unfold Graph.setInterests
    split
    · intro p hp
      obtain ⟨q, hq, rfl⟩ := List.mem_map.1 hp
      split
      · exact stored
      · exact h.interests_stored q hq
    · intro p hp
      rcases List.mem_append.1 hp with hp | hp
      · exact h.interests_stored p hp
      · rw [List.mem_singleton.1 hp]
        exact stored
  have others : ∃ interests, g.setInterests userId tags = { g with interests } := by
    unfold Graph.setInterests
    split <;> exact ⟨_, rfl⟩
  obtain ⟨interests, heq⟩ := others
  rw [heq] at keys ⊢
  exact { h with interests_stored := keys }

theorem edges_setInterests (g : Graph) (userId : UserId) (tags : List Json) :
    (g.setInterests userId tags).edges = g.edges := by
  unfold Graph.setInterests
  split <;> rfl

theorem users_setInterests (g : Graph) (userId : UserId) (tags : List Json) :
    (g.setInterests userId tags).users = g.users := by
  unfold Graph.setInterests
  split <;> rfl

/-- What a call can do to the graph: nothing, or the one write of its kind. -/
inductive Change (g : Graph) : GraphCall → Graph → Prop where
  | nothing {call : GraphCall} : Change g call g
  | upsert {call : GraphCall} {user : UserNode}
      (given : call = .upsertUserNode user ∨ call = .updateUserNode user) :
      Change g call (g.upsert user)
  | addEdge {source target : UserId} {kind : Relationship} {g' : Graph}
      (added : g.addEdge? ⟨source, target, kind⟩ = some g') :
      Change g (.createEdge source target kind) g'
  | removeEdge {source target : UserId} {kind : Relationship} {g' : Graph}
      (removed : g.removeEdge? ⟨source, target, kind⟩ = some g') :
      Change g (.deleteEdge source target kind) g'
  | setInterests {userId : UserId} {given : Json} {tags : List Json}
      (stored : g.hasUser userId = true) (read : readTags given = .ok tags) :
      Change g (.setUserInterests userId given) (g.setInterests userId tags)

/-- A write changes the graph only when its outcome is another graph. -/
theorem Change.of_written {g : Graph} {call : GraphCall} {changed : Except Failure (Option Graph)}
    (h : ∀ g', changed = .ok (some g') → Change g call g') :
    Change g call (g.written changed).2 := by
  match changed with
  | .ok (some g') => exact h g' rfl
  | .ok none => exact .nothing
  | .error _ => exact .nothing

/-- A user who is looked up without a failure is there or not. -/
theorem lookUp_eq_ok {g : Graph} {userId : UserId} {found : Bool}
    (h : g.lookUp userId = .ok found) : g.hasUser userId = found := by
  obtain ⟨_, -, h⟩ := of_bind_eq_ok h
  exact Except.ok.inj h

theorem createEdge_eq_some {g g' : Graph} {e : Edge} (h : g.createEdge e = .ok (some g')) :
    g.addEdge? e = some g' := by
  obtain ⟨source, -, h⟩ := of_bind_eq_ok h
  cases source with
  | false => cases h
  | true =>
    obtain ⟨target, -, h⟩ := of_bind_eq_ok h
    cases target with
    | false => cases h
    | true => exact Except.ok.inj h

theorem updateUser_eq_some {g g' : Graph} {user : UserNode}
    (h : g.updateUser user = .ok (some g')) : g' = g.upsert user := by
  obtain ⟨found, -, h⟩ := of_bind_eq_ok h
  cases found with
  | false => cases h
  | true =>
    cases h
    rfl

theorem replaceInterests_eq_some {g g' : Graph} {userId : UserId} {given : Json}
    (h : g.replaceInterests userId given = .ok (some g')) :
    g.hasUser userId = true ∧
      ∃ tags, readTags given = .ok tags ∧ g' = g.setInterests userId tags := by
  obtain ⟨found, hf, h⟩ := of_bind_eq_ok h
  cases found with
  | false => cases h
  | true =>
    obtain ⟨tags, ht, h⟩ := of_bind_eq_ok h
    cases h
    exact ⟨lookUp_eq_ok hf, tags, ht, rfl⟩

theorem change_answer (g : Graph) (call : GraphCall) : Change g call (g.answer call).2 := by
  cases call with
  | createEdge source target kind =>
    exact .of_written fun g' h => .addEdge (createEdge_eq_some h)
  | deleteEdge source target kind =>
    exact .of_written fun g' h => .removeEdge (Except.ok.inj h)
  | upsertUserNode user =>
    simp only [answer]
    split
    · exact .nothing
    · exact .upsert (.inl rfl)
  | updateUserNode user =>
    exact .of_written fun g' h => updateUser_eq_some h ▸ .upsert (.inr rfl)
  | setUserInterests userId given =>
    refine .of_written ?_
    intro g' h
    obtain ⟨stored, tags, read, rfl⟩ := replaceInterests_eq_some h
    exact .setInterests stored read
  | _ => exact .nothing

theorem WellFormed.change {g g' : Graph} {call : GraphCall} (h : g.WellFormed)
    (hc : Change g call g') : g'.WellFormed := by
  cases hc with
  | nothing => exact h
  | upsert _ => exact h.upsert _
  | addEdge added => exact h.addEdge added
  | removeEdge removed => exact h.removeEdge removed
  | setInterests stored _ => exact h.setInterests stored _

theorem wellFormed_empty : empty.WellFormed where
  ids_nodup := List.nodup_nil
  edges_nodup := List.nodup_nil
  source_stored _ h := by cases h
  target_stored _ h := by cases h
  interests_stored _ h := by cases h
  following_count _ h := by cases h
  followers_count _ h := by cases h

/-- The graph after some calls, the first of them first. -/
def after (g : Graph) : List GraphCall → Graph
  | [] => g
  | call :: rest => (g.answer call).2.after rest

theorem WellFormed.after {g : Graph} (h : g.WellFormed) (calls : List GraphCall) :
    (g.after calls).WellFormed := by
  induction calls generalizing g with
  | nil => exact h
  | cons call rest ih => exact ih (h.change (change_answer g call))

/-! ## What all users have in common -/

/-- Every user is stored under an id and with a profile that have a property. -/
def Everyone (P : UserId → Profile → Prop) (g : Graph) : Prop :=
  ∀ u ∈ g.users, P u.userId u.profile

/-- A call brings no user into the graph who does not have a property. -/
def GivesUsers (P : UserId → Profile → Prop) : GraphCall → Prop
  | .upsertUserNode user | .updateUserNode user => P user.userId user.profile
  | _ => True

variable {g g' : Graph} {P : UserId → Profile → Prop}

theorem Everyone.upsert (h : g.Everyone P) {user : UserNode} (given : P user.userId user.profile) :
    (g.upsert user).Everyone P := by
  intro u hu
  unfold Graph.upsert at hu
  split at hu
  · obtain ⟨v, hv, rfl⟩ := mem_modifyUser.1 hu
    split
    · rename_i same
      show P v.userId user.profile
      rw [beq_iff_eq.1 same]
      exact given
    · exact h v hv
  · rcases List.mem_append.1 hu with old | new
    · exact h u old
    · rw [List.mem_singleton.1 new]
      exact given

theorem Everyone.recount (h : g.Everyone P) (edges : List Edge) (e : Edge) (n : Int) :
    ({ g with edges := edges }.count e n).Everyone P := by
  intro u hu
  obtain ⟨v, hv, hid, hp, -⟩ := of_mem_count hu
  rw [hid, hp]
  exact h v hv

theorem Everyone.change {call : GraphCall} (h : g.Everyone P) (given : GivesUsers P call)
    (hc : Change g call g') : g'.Everyone P := by
  cases hc with
  | nothing => exact h
  | upsert from_call => rcases from_call with rfl | rfl <;> exact h.upsert given
  | addEdge added =>
    obtain ⟨-, rfl⟩ := addEdge?_eq_some_iff.1 added
    exact h.recount _ _ _
  | removeEdge removed =>
    obtain ⟨-, rfl⟩ := removeEdge?_eq_some_iff.1 removed
    exact h.recount _ _ _
  | @setInterests userId _ tags _ _ => exact fun u hu => h u (users_setInterests g userId tags ▸ hu)

theorem Everyone.after (h : g.Everyone P) {calls : List GraphCall}
    (given : ∀ call ∈ calls, GivesUsers P call) : (g.after calls).Everyone P := by
  induction calls generalizing g with
  | nil => exact h
  | cons call rest ih =>
    obtain ⟨first, others⟩ := List.forall_mem_cons.1 given
    exact ih (h.change first (change_answer g call)) others

end FollowGraph.Graph
