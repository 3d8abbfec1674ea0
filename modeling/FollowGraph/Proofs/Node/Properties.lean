import FollowGraph.Proofs.Pair.Refinement

/-!
# Nodes and the properties that they are stored as

To read properties is to bring them into a normal form (`UserNode.Normal`): a text for the id, no
profile field without its default, integers for the counters. A node in normal form is stored as
properties that read back as the node itself, so whatever was read once does not change any more
(`UserNode.ofProperties_stable`), and no more of the properties counts than the seven fields, each
of them up to the ways of giving nothing.

A node that a caller builds need not be in normal form, even where all its fields are of the kinds
that they should be: an empty role is a text, and is read back as the default one. It is the only
difference (`UserNode.restored`), and it shows as soon as the node is stored and asked for.
-/

set_option autoImplicit false

namespace FollowGraph

namespace Json

/-- A text as it can be spelled. One that is kept by its code points has a lone surrogate among
them. -/
inductive Spelled : Json → Prop
  | characters (s : String) : Spelled (.str s)
  | points {points : List Nat} (lone : points.any isSurrogate = true) : Spelled (.unpaired points)

theorem Spelled.isText {value : Json} (h : value.Spelled) : value.isText = true := by
  cases h <;> rfl

/-- Of the texts only the empty one counts as no value. -/
theorem Spelled.isFalsy_iff {value : Json} (h : value.Spelled) :
    value.isFalsy = true ↔ value = .str "" := by
  cases h with
  | characters s => simp [isFalsy]
  | @points points lone => cases points <;> simp_all [isFalsy]

theorem orElse_of_isFalsy {value : Json} (h : value.isFalsy = true) (other : Json) :
    value.orElse other = other := if_pos h

theorem orElse_of_filled {value : Json} (h : value.isFalsy = false) (other : Json) :
    value.orElse other = value := by
  simp [orElse, h]

theorem Spelled.orElse_empty {value : Json} (h : value.Spelled) :
    value.orElse (.str "") = value := by
  cases empty : value.isFalsy with
  | true => exact (orElse_of_isFalsy empty _).trans (h.isFalsy_iff.1 empty).symm
  | false => exact orElse_of_filled empty _

@[simp] theorem orElse_orElse_self (value other : Json) :
    (value.orElse other).orElse other = value.orElse other := by
  unfold orElse
  split <;> simp_all

@[simp] theorem asText_asText (value : Json) : value.asText.asText = value.asText :=
  asText_of_isText (isText_asText value)

end Json

theorem Profile.normalized_normalized (p : Profile) : p.normalized.normalized = p.normalized := by
  simp [normalized]

theorem Profile.isFalsy_role_normalized (p : Profile) : p.normalized.role.isFalsy = false := by
  cases empty : p.role.isFalsy with
  | true => exact congrArg Json.isFalsy (Json.orElse_of_isFalsy empty _)
  | false => exact (congrArg Json.isFalsy (Json.orElse_of_filled empty _)).trans empty

namespace UserNode

/-! ## The normal form -/

/-- A text for the id, every profile field with its default if it has no other value, and integers
for the counters. -/
structure Normal (u : UserNode) : Prop where
  userId : u.userId.isText = true
  profile : u.profile.normalized = u.profile
  following : ∃ n : Int, u.followingNumber = .int n
  followers : ∃ n : Int, u.followersNumber = .int n

/-- A node in normal form is stored as properties that stand for it. -/
theorem Normal.ofProperties {u : UserNode} (h : u.Normal) :
    ofProperties u.toProperties = .ok u := by
  obtain ⟨m, following⟩ := h.following
  obtain ⟨n, followers⟩ := h.followers
  rw [ofProperties_toProperties, following, followers, readCounter_int, readCounter_int]
  show Except.ok (u.normalized m n) = .ok u
  obtain ⟨userId, profile, _, _, _⟩ := u
  simp_all [normalized, Json.asText_of_isText h.userId, h.profile]

/-- What properties are read as, when they are. -/
theorem of_ofProperties_eq_ok {p : Properties} {n : UserNode} (h : ofProperties p = .ok n) :
    ∃ (id : Json) (following followers : Int), p.lookup "user_id" = some id ∧
      n.userId = id.asText ∧
      n.profile = (Profile.ofProperties p ⟨.null, .null, .null, .null⟩).normalized ∧
      n.followingNumber = .int following ∧ n.followersNumber = .int followers := by
  unfold ofProperties at h
  cases found : p.lookup "user_id" with
  | none =>
    rw [found] at h
    cases h
  | some id =>
    rw [found] at h
    obtain ⟨following, -, h⟩ := of_bind_eq_ok h
    obtain ⟨followers, -, h⟩ := of_bind_eq_ok h
    unfold build at h
    split at h
    · cases h
      exact ⟨id, following, followers, rfl, rfl, rfl, rfl, rfl⟩
    · cases h

theorem normal_of_ofProperties {p : Properties} {n : UserNode} (h : ofProperties p = .ok n) :
    n.Normal := by
  obtain ⟨id, m, k, -, userId, profile, following, followers⟩ := of_ofProperties_eq_ok h
  refine ⟨userId ▸ Json.isText_asText id, ?_, ⟨m, following⟩, ⟨k, followers⟩⟩
  rw [profile, Profile.normalized_normalized]

/-! ## What counts of properties -/

/-- A profile field or counter is the same in both, or it counted as no value and was left out. -/
def SameField (p q : Properties) (key : String) : Prop :=
  q.lookup key = p.lookup key ∨
    q.lookup key = none ∧ ∃ value, p.lookup key = some value ∧ value.isFalsy = true

/-- Properties with the same id and the same other fields. What else is in them may differ. -/
structure SameFields (p q : Properties) : Prop where
  id : q.lookup "user_id" = p.lookup "user_id"
  others : ∀ key ∈ fieldNames, key ≠ "user_id" → SameField p q key

variable {p q : Properties}

theorem SameField.orElse_eq {key : String} (h : SameField p q key) (other : Json) :
    ((q.lookup key).getD .null).orElse other = ((p.lookup key).getD .null).orElse other := by
  rcases h with same | ⟨gone, value, was, empty⟩
  · rw [same]
  · rw [gone, was]
    exact (Json.orElse_of_isFalsy rfl other).trans (Json.orElse_of_isFalsy empty other).symm

theorem SameFields.ofProperties_eq (h : SameFields p q) : ofProperties q = ofProperties p := by
  have field (key : String) (there : key ∈ fieldNames) (other : key ≠ "user_id") (value : Json) :=
    (h.others key there other).orElse_eq value
  have profile : (Profile.ofProperties q ⟨.null, .null, .null, .null⟩).normalized =
      (Profile.ofProperties p ⟨.null, .null, .null, .null⟩).normalized := by
    simp only [Profile.ofProperties, Profile.normalized, field "username" (by decide) (by decide),
      field "display_name" (by decide) (by decide), field "role" (by decide) (by decide),
      field "avatar_reference" (by decide) (by decide)]
  have counters (key : String) (there : key ∈ fieldNames) (other : key ≠ "user_id") :
      readCounter ((q.lookup key).getD .null) = readCounter ((p.lookup key).getD .null) :=
    congrArg Json.toInteger (field key there other (.int 0))
  simp only [ofProperties, h.id, profile, counters "following_number" (by decide) (by decide),
    counters "followers_number" (by decide) (by decide)]

/-- **What was read from properties is stable.** Whatever values they hold: the node that they are
read as is stored as properties that are read as itself. It has a text for its id that is not
blank, a role that counts as a value, and integers for its counters. It does not depend on any
fields that users do not have, or on whether a profile field or counter that counts as no value is
there at all. -/
theorem ofProperties_stable {n : UserNode} (read : ofProperties p = .ok n) :
    ofProperties n.toProperties = .ok n ∧
    n.userId.isText = true ∧ Text.isBlank n.userId.display = false ∧
    n.profile.role.isFalsy = false ∧
    (∃ k : Int, n.followingNumber = .int k) ∧ (∃ k : Int, n.followersNumber = .int k) ∧
    ∀ q, SameFields p q → ofProperties q = .ok n := by
  have normal := normal_of_ofProperties read
  have filled : Text.isBlank n.userId.display = false := by
    have identifies := n.identifies
    simp only [UserId.identifies, Bool.and_eq_true, Bool.not_eq_true'] at identifies
    exact identifies.2
  refine ⟨normal.ofProperties, normal.userId, filled, ?_, normal.following, normal.followers, ?_⟩
  · rw [← normal.profile]
    exact n.profile.isFalsy_role_normalized
  · exact fun q same => same.ofProperties_eq.trans read

/-- Properties of all kinds, with one that no user has. -/
def untidy : Properties :=
  [("followers_number", .bool true), ("colour", .str "red"), ("role", .obj []), ("user_id", .int 5),
    ("username", .null), ("display_name", .arr [.str "five"]), ("following_number", .str " 1_2 ")]

def tidied : UserNode :=
  { userId := .str "5"
    profile := { Profile.unknown with displayName := .arr [.str "five"] }
    followingNumber := .int 12
    followersNumber := .int 1
    identifies := by decide }

theorem ofProperties_stable_untidy :
    ofProperties untidy = .ok tidied ∧ ofProperties tidied.toProperties = .ok tidied ∧
    ofProperties [("user_id", .int 5), ("display_name", .arr [.str "five"]), ("email", .null),
      ("following_number", .str " 1_2 "), ("followers_number", .bool true)] = .ok tidied := by
  have read : ofProperties untidy = .ok tidied := by rfl
  obtain ⟨again, -, -, -, -, -, same⟩ := ofProperties_stable read
  refine ⟨read, again, same _ ⟨rfl, fun key there other => ?_⟩⟩
  simp only [fieldNames, List.mem_cons, List.not_mem_nil, or_false] at there
  rcases there with rfl | rfl | rfl | rfl | rfl | rfl | rfl
  · exact absurd rfl other
  · exact .inr ⟨rfl, .null, rfl, rfl⟩
  · exact .inl rfl
  · exact .inr ⟨rfl, .obj [], rfl, rfl⟩
  · exact .inl rfl
  · exact .inl rfl
  · exact .inl rfl

/-! ## Nodes that callers build -/

/-- A node whose fields are of the kinds that they should be: texts, and integers for the
counters. -/
structure Typed (u : UserNode) : Prop where
  userId : u.userId.Spelled
  username : u.profile.username.Spelled
  displayName : u.profile.displayName.Spelled
  role : u.profile.role.Spelled
  avatarReference : u.profile.avatarReference.Spelled
  following : ∃ n : Int, u.followingNumber = .int n
  followers : ∃ n : Int, u.followersNumber = .int n

/-- The node with the default role in place of an empty one. -/
def withRole (u : UserNode) : UserNode :=
  { u with profile := { u.profile with role := u.profile.role.orElse Profile.defaultRole } }

variable {u : UserNode}

theorem Typed.normalized_profile (h : u.Typed) : u.profile.normalized = u.withRole.profile := by
  simp only [Profile.normalized, Profile.defaultText, h.username.orElse_empty,
    h.displayName.orElse_empty, h.avatarReference.orElse_empty, withRole]

theorem Typed.normalized (h : u.Typed) {m n : Int} (following : u.followingNumber = .int m)
    (followers : u.followersNumber = .int n) : u.normalized m n = u.withRole := by
  have profile := h.normalized_profile
  have id := Json.asText_of_isText h.userId.isText
  obtain ⟨userId, _, _, _, _⟩ := u
  simp_all [UserNode.normalized, withRole]

theorem Typed.ofProperties (h : u.Typed) :
    UserNode.ofProperties u.toProperties = .ok u.withRole := by
  obtain ⟨m, following⟩ := h.following
  obtain ⟨n, followers⟩ := h.followers
  rw [ofProperties_toProperties, following, followers, readCounter_int, readCounter_int]
  exact congrArg Except.ok (h.normalized following followers)

theorem Typed.withRole_eq_iff (h : u.Typed) : u.withRole = u ↔ u.profile.role ≠ .str "" := by
  rw [ne_eq, ← h.role.isFalsy_iff, Bool.not_eq_true]
  constructor
  · intro same
    have role := congrArg (fun v => v.profile.role.isFalsy) same
    exact role.symm.trans u.profile.isFalsy_role_normalized
  · intro filled
    obtain ⟨_, ⟨_, _, _, _⟩, _, _, _⟩ := u
    simp_all [withRole, Json.orElse_of_filled]

end UserNode

/-! ## Nodes that are stored -/

/-- A user who was not stored is found as the node in its normal form, with counters of zero. -/
theorem Graph.findNode_upsert_new {g : Graph} {u : UserNode} (new : g.hasUser u.userId = false) :
    (g.upsert u).findNode u.userId = some (u.normalized 0 0) := by
  have absent : g.users.find? (·.userId == u.userId) = none := by
    rw [List.find?_eq_none]
    exact List.any_eq_false.1 new
  simp [Graph.upsert, new, findNode, stored?, List.find?_append, absent, StoredUser.ofNode,
    StoredUser.node, StoredUser.raw, UserNode.normalized]

namespace World

variable {w : World} {u : UserNode}

/-- To create a user who was not stored adds it to the graph, and answers with it as it is read. -/
theorem run_create (hashable : u.userId.requireHashable = .ok ())
    (new : w.graph.hasUser u.userId = false) :
    ∃ v, (Users.create u).run backend w =
        (.ok "User node created successfully" (.user (u.normalized 0 0)), v) ∧
      v.graph = w.graph.upsert u := by
  have stored : (Ask.upsertUserNode u).on silent w =
      (.ok (.user (u.normalized 0 0)), { w with graph := w.graph.upsert u }) := by
    show w.answer (.graph (.upsertUserNode u)) = _
    simp only [answer, Graph.answer, hashable, Graph.readBack, Graph.findNode_upsert_new new,
      Option.getD_some]
  have silently : (Users.create u).run silent w =
      (.ok "User node created successfully" (.user (u.normalized 0 0)),
        { w with graph := w.graph.upsert u }) := by
    simp only [Users.create, Attempt.run_catching, Attempt.on_bind, stored, Attempt.on_ofExcept,
      Value.user, Value.node, Attempt.on_log, Attempt.on_pure, silent_record]
  obtain ⟨same, unlogged⟩ := run_silent (Users.create u) w
  rw [silently] at same unlogged
  exact ⟨((Users.create u).run backend w).2, Prod.ext same rfl, congrArg World.graph unlogged⟩

/-- A user who is stored is answered as it is read. -/
theorem run_get {userId : UserId} (hashable : userId.requireHashable = .ok ()) {node : UserNode}
    (found : w.graph.findNode userId = some node) :
    ((Users.get userId).run backend w).1 = .ok "User fetched successfully" (.user node) := by
  rw [(run_silent (Users.get userId) w).1]
  simp only [Users.get, Attempt.run_catching, Attempt.on_bind, on_findNode w hashable, found,
    Value.ofUser?, Value.user, Value.isNull, Attempt.on_pure, Bool.false_eq_true, if_false]

end World

namespace UserNode

/-- **A node with fields of the proper kinds is restored, but for an empty role.** It is stored as
properties that are read as the same node with the default role in place of an empty one, and so as
itself just if its role is not empty. If its counters are zero, and there is no user of its id yet,
creating it and asking for it answer with that node. -/
theorem restored {u : UserNode} (typed : u.Typed) :
    ofProperties u.toProperties = .ok u.withRole ∧
    (ofProperties u.toProperties = .ok u ↔ u.profile.role ≠ .str "") ∧
    ∀ w : World, w.graph.hasUser u.userId = false →
      u.followingNumber = .int 0 → u.followersNumber = .int 0 →
      ∃ v, (Users.create u).run World.backend w =
          (.ok "User node created successfully" (.user u.withRole), v) ∧
        ((Users.get u.userId).run World.backend v).1 =
          .ok "User fetched successfully" (.user u.withRole) := by
  refine ⟨typed.ofProperties, ?_, fun w new following followers => ?_⟩
  · rw [typed.ofProperties, Except.ok.injEq]
    exact typed.withRole_eq_iff
  · have hashable := Json.requireHashable_of_isText typed.userId.isText
    obtain ⟨v, created, graph⟩ := World.run_create (w := w) hashable new
    have found : v.graph.findNode u.userId = some (u.normalized 0 0) := by
      rw [graph]
      exact Graph.findNode_upsert_new new
    rw [typed.normalized following followers] at created found
    exact ⟨v, created, World.run_get hashable found⟩

/-- A moderator of whom no more is known than an id with blanks around it. -/
def moderator : UserNode :=
  { userId := .str " ann "
    profile := { Profile.unknown with role := .str "moderator" }
    followingNumber := .int 0
    followersNumber := .int 0
    identifies := by decide }

theorem restored_moderator :
    moderator.Typed ∧ ofProperties moderator.toProperties = .ok moderator ∧
    ∃ v, (Users.create moderator).run World.backend World.empty =
        (.ok "User node created successfully" (.user moderator), v) ∧
      ((Users.get (.str " ann ")).run World.backend v).1 =
        .ok "User fetched successfully" (.user moderator) := by
  have typed : moderator.Typed :=
    ⟨.characters _, .characters _, .characters _, .characters _, .characters _, ⟨0, rfl⟩, ⟨0, rfl⟩⟩
  obtain ⟨-, same, stored⟩ := restored typed
  exact ⟨typed, same.2 (by decide), stored World.empty rfl rfl rfl⟩

/-- The same with an empty role. -/
def roleless : UserNode := { moderator with profile := { Profile.unknown with role := .str "" } }

/-- An empty role is not what is read back, from the properties or from the store. -/
theorem not_restored_roleless :
    roleless.Typed ∧ ofProperties roleless.toProperties ≠ .ok roleless ∧
    ∃ v, (Users.create roleless).run World.backend World.empty =
        (.ok "User node created successfully" (.user { moderator with profile := .unknown }), v) ∧
      ((Users.get (.str " ann ")).run World.backend v).1 =
        .ok "User fetched successfully" (.user { moderator with profile := .unknown }) ∧
      { moderator with profile := .unknown } ≠ roleless := by
  have typed : roleless.Typed :=
    ⟨.characters _, .characters _, .characters _, .characters _, .characters _, ⟨0, rfl⟩, ⟨0, rfl⟩⟩
  refine ⟨typed, ?_, _, rfl, rfl, by decide⟩
  intro same
  have read : ofProperties roleless.toProperties = .ok { moderator with profile := .unknown } := rfl
  rw [read] at same
  exact absurd (Except.ok.inj same) (by decide)

end UserNode

end FollowGraph
