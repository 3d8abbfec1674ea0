import FollowGraph.Json.Display
import FollowGraph.Json.Integer
import FollowGraph.Json.Sequence
import FollowGraph.Text.Blank

/-!
User nodes, and the properties they are stored as.

A node's id is never blank: the type holds the proof. An id is a text in every node that is read
from properties, and so are the profile fields that a caller gives; a node that is built from any
other values keeps them, so all fields are JSON values.

Reading properties is a normalisation: the id becomes a text, a profile field that counts as no
value gives way to its default, and counters become integers. `ofProperties_toProperties` says what
is left of a node that is written and read back, and that reading fails for no other reason than a
counter.
-/

set_option autoImplicit false

namespace FollowGraph

/-- Ids are texts where the services make them, and any value where a caller does. -/
abbrev UserId := Json

/-- Stored properties: the members of an object. -/
abbrev Properties := List (String × Json)

/-- Whether a value can be the id of a user: its plain text is not blank, and it does not count as
no value. -/
def UserId.identifies (id : UserId) : Bool := !id.isFalsy && !Text.isBlank id.display

theorem UserId.identifies_asText {id : UserId} (h : identifies id = true) :
    identifies id.asText = true := by
  simp only [identifies, Bool.and_eq_true, Bool.not_eq_true'] at h ⊢
  refine ⟨?_, by rw [Json.display_asText]; exact h.2⟩
  have blank : ∀ s : String, s.isEmpty = true → Text.isBlank s = true := by
    intro s hs
    rw [String.isEmpty_iff] at hs
    rw [hs]
    rfl
  have filled : Text.isBlank id.display = false → (Json.str id.display).isFalsy = false := by
    intro hb
    cases he : id.display.isEmpty with
    | true => rw [blank _ he] at hb; cases hb
    | false => exact he
  cases id with
  | str s => exact h.1
  | unpaired points => exact h.1
  | _ => exact filled h.2

structure Profile where
  username : Json
  displayName : Json
  role : Json
  avatarReference : Json
  deriving DecidableEq

namespace Profile

/-- The values of the text fields when nothing is known about them. -/
def defaultText : Json := .str ""

def defaultRole : Json := .str "user"

/-- The profile of a user of whom only the id is known. -/
def unknown : Profile :=
  { username := defaultText
    displayName := defaultText
    role := defaultRole
    avatarReference := defaultText }

/-- The profile with its default in every field that counts as no value. -/
def normalized (p : Profile) : Profile :=
  { username := p.username.orElse defaultText
    displayName := p.displayName.orElse defaultText
    role := p.role.orElse defaultRole
    avatarReference := p.avatarReference.orElse defaultText }

def toProperties (p : Profile) : Properties :=
  [("username", p.username), ("display_name", p.displayName), ("role", p.role),
    ("avatar_reference", p.avatarReference)]

/-- The fields of properties, and what `absent` gives for those that are not there. -/
def ofProperties (p : Properties) (absent : Profile) : Profile :=
  { username := (p.lookup "username").getD absent.username
    displayName := (p.lookup "display_name").getD absent.displayName
    role := (p.lookup "role").getD absent.role
    avatarReference := (p.lookup "avatar_reference").getD absent.avatarReference }

end Profile

structure UserNode where
  userId : UserId
  profile : Profile
  followingNumber : Json
  followersNumber : Json
  identifies : UserId.identifies userId = true
  deriving DecidableEq

namespace UserNode

/-- A node with the given fields, unless the id is blank. -/
def build (userId : UserId) (profile : Profile) (followingNumber followersNumber : Json) :
    Except Failure UserNode :=
  if h : UserId.identifies userId = true then
    .ok { userId, profile, followingNumber, followersNumber, identifies := h }
  else .error .blankUserId

/-- A node of which only the id is known. -/
def ofId (userId : UserId) : Except Failure UserNode := build userId .unknown (.int 0) (.int 0)

def toProperties (u : UserNode) : Properties :=
  ("user_id", u.userId) :: u.profile.toProperties ++
    [("following_number", u.followingNumber), ("followers_number", u.followersNumber)]

def toJson (u : UserNode) : Json := .obj u.toProperties

/-! ## Nodes from fields -/

def fieldNames : List String :=
  ["user_id", "username", "display_name", "role", "avatar_reference", "following_number",
    "followers_number"]

/-- The node with exactly the fields that are given; absent ones have their defaults. A field that
users do not have is found first, then a missing id, and last a blank one. -/
def ofFields (fields : Properties) : Except Failure UserNode :=
  match fields.find? fun field => !fieldNames.contains field.1 with
  | some (name, _) => .error (.unknownField name)
  | none =>
    match fields.lookup "user_id" with
    | none => .error .missingUserId
    | some userId =>
      build userId (.ofProperties fields .unknown)
        ((fields.lookup "following_number").getD (.int 0))
        ((fields.lookup "followers_number").getD (.int 0))

/-- The node that a user object describes. -/
def ofJson : Json → Except Failure UserNode
  | .obj fields => ofFields fields
  | value => .error (.notFields value.kindName)

/-! ## Nodes from stored properties -/

/-- A counter as it is stored: nothing counts as zero. -/
def readCounter (value : Json) : Except Failure Int := (value.orElse (.int 0)).toInteger

/-- The node that properties stand for. A missing id is found first, then a counter that is no
integer, and last a blank id. -/
def ofProperties (p : Properties) : Except Failure UserNode :=
  match p.lookup "user_id" with
  | none => .error (.missingKey (.str "user_id"))
  | some id => do
    let following ← readCounter ((p.lookup "following_number").getD .null)
    let followers ← readCounter ((p.lookup "followers_number").getD .null)
    build id.asText (Profile.ofProperties p ⟨.null, .null, .null, .null⟩).normalized
      (.int following) (.int followers)

@[simp] theorem readCounter_int (n : Int) : readCounter (.int n) = .ok n := by
  by_cases h : n = 0 <;> simp [readCounter, Json.orElse, Json.isFalsy, Json.toInteger, h]

/-- The node with a text for its id, its default in every profile field that counts as no value,
and the given counters. -/
def normalized (u : UserNode) (following followers : Int) : UserNode :=
  { userId := u.userId.asText
    profile := u.profile.normalized
    followingNumber := .int following
    followersNumber := .int followers
    identifies := UserId.identifies_asText u.identifies }

/-- Writing a node and reading it back gives its normal form, unless a counter is no integer. -/
theorem ofProperties_toProperties (u : UserNode) :
    ofProperties u.toProperties =
      (readCounter u.followingNumber).bind fun following =>
        (readCounter u.followersNumber).map fun followers =>
          u.normalized following followers := by
  have h := UserId.identifies_asText u.identifies
  simp [ofProperties, toProperties, Profile.toProperties, Profile.ofProperties, List.lookup_cons,
    build, normalized, h, bind, Except.bind, Except.map]

end UserNode

/-- Whether a node reads back as a node that is stored as properties alike. -/
def UserNode.isStable (u : UserNode) : Except Failure Bool := do
  let read ← UserNode.ofProperties u.toProperties
  pure (read.toJson.alike u.toJson)

/-! ## Stored users -/

/-- A user as the graph keeps it: the profile is what was given, the counters are the graph's. -/
structure StoredUser where
  userId : UserId
  profile : Profile
  followingNumber : Int
  followersNumber : Int
  identifies : UserId.identifies userId = true
  deriving DecidableEq

namespace StoredUser

/-- The user as first stored, with counters of zero. -/
def ofNode (u : UserNode) : StoredUser :=
  { userId := u.userId
    profile := u.profile
    followingNumber := 0
    followersNumber := 0
    identifies := u.identifies }

/-- What is stored, with nothing replaced by a default. -/
def raw (u : StoredUser) : UserNode :=
  { userId := u.userId
    profile := u.profile
    followingNumber := .int u.followingNumber
    followersNumber := .int u.followersNumber
    identifies := u.identifies }

def node (u : StoredUser) : UserNode := u.raw.normalized u.followingNumber u.followersNumber

/-- Reading a stored user's properties gives its node. -/
theorem ofProperties_raw (u : StoredUser) :
    UserNode.ofProperties u.raw.toProperties = .ok u.node := by
  rw [UserNode.ofProperties_toProperties]
  simp [raw, node, Except.bind, Except.map]

end StoredUser

/-- A user node together with its relation to one viewer. -/
structure EnrichedUser where
  user : UserNode
  isFollowing : Json
  isFollower : Json
  isBlocked : Json
  isBlockedBy : Json
  mutualFollowersNumber : Json
  deriving DecidableEq

def EnrichedUser.toJson (e : EnrichedUser) : Json :=
  .obj (e.user.toProperties ++
    [("is_following", e.isFollowing), ("is_follower", e.isFollower),
      ("is_blocked", e.isBlocked), ("is_blocked_by", e.isBlockedBy),
      ("mutual_followers_number", e.mutualFollowersNumber)])

end FollowGraph
