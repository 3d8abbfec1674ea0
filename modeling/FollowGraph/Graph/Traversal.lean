import FollowGraph.Graph.Basic

/-!
Walks over following edges.

Second-degree users are the ends of walks of two edges that the walk's start neither is nor
follows; third-degree users the ends of walks of three edges under the same condition whose last
edge is no self edge. Each is listed once, where it is first met.
-/

set_option autoImplicit false

namespace FollowGraph.Graph

/-- Neither the viewer nor a user that the viewer follows. -/
def isNew (g : Graph) (viewer userId : UserId) : Bool :=
  userId != viewer && !(g.followed viewer).contains userId

def secondDegreeIds (g : Graph) (viewer : UserId) : List UserId :=
  distinct ((g.followed viewer).flatMap fun a => (g.followed a).filter (g.isNew viewer))

def thirdDegreeIds (g : Graph) (viewer : UserId) : List UserId :=
  distinct ((g.followed viewer).flatMap fun a =>
    (g.followed a).flatMap fun b =>
      (g.followed b).filter fun c => c != b && g.isNew viewer c)

/-- The users whom `source` follows and who follow `target`. -/
def commonIds (g : Graph) (source target : UserId) : List UserId :=
  (g.followed source).filter fun x => g.hasEdge ⟨x, target, .following⟩

/-! ## Search -/

/-- Lower case of code points. A surrogate that stands alone has no case, and no word goes across
it. The characters since the last one are held back, the last of them first. -/
def lowerPointsAfter (held : List Char) : List Nat → List Nat
  | [] => (Text.lowerChars held.reverse).map Char.toNat
  | point :: rest =>
    if Json.isSurrogate point then
      (Text.lowerChars held.reverse).map Char.toNat ++ point :: lowerPointsAfter [] rest
    else lowerPointsAfter (Char.ofNat point :: held) rest

def lowerPoints (points : List Nat) : List Nat := lowerPointsAfter [] points

theorem lowerPointsAfter_toNat (held cs : List Char) :
    lowerPointsAfter held (cs.map Char.toNat) =
      (Text.lowerChars (held.reverse ++ cs)).map Char.toNat := by
  induction cs generalizing held with
  | nil => rw [List.map_nil, lowerPointsAfter, List.append_nil]
  | cons c rest ih =>
    rw [List.map_cons, lowerPointsAfter, Json.isSurrogate_toNat, Char.ofNat_toNat, if_neg nofun,
      ih, List.reverse_cons, List.append_assoc, List.singleton_append]

/-- Characters have the lower case that texts have. -/
theorem lowerPoints_toNat (cs : List Char) :
    lowerPoints (cs.map Char.toNat) = (Text.lowerChars cs).map Char.toNat :=
  lowerPointsAfter_toNat [] cs

def lowerText (value : Json) : Except Failure (List Nat) :=
  if value.isText then .ok (lowerPoints value.points)
  else .error (.noProperty value.kindName "lower")

/-- Whether the query occurs in a profile value, capitals aside. The query is in lower case
already. -/
def matchesText (query : List Nat) (value : Json) : Except Failure Bool :=
  Text.occursIn query <$> lowerText (value.orElse Profile.defaultText)

def matchesProfile (query : List Nat) (p : Profile) : Except Failure Bool := do
  if ← matchesText query p.username then pure true else matchesText query p.displayName

/-- The neighbours that match a query; fails at the first who is not stored or has a name that is
no text. -/
def matching (g : Graph) (query : List Nat) : List UserId → Except Failure (List UserId)
  | [] => .ok []
  | userId :: rest =>
    match g.stored? userId with
    | none => .error (.missingKey userId)
    | some u => do
      let found ← matchesProfile query u.profile
      let ids ← g.matching query rest
      pure (if found then userId :: ids else ids)

def search (g : Graph) (userId : UserId) (direction : Direction) (query page limit : Json) :
    Except Failure (List UserNode) := do
  let needle ← lowerText query
  let ids ← g.matching needle (g.neighbors .following direction userId)
  g.nodePage ids page limit

/-- The other users who share a tag with a user, in the order in which they were added. -/
def sharingIds (g : Graph) (viewer : UserId) : List UserId :=
  let mine := g.interestsOf viewer
  (g.users.map StoredUser.userId).filter fun userId =>
    userId != viewer && (g.interestsOf userId).any mine.contains

end FollowGraph.Graph
