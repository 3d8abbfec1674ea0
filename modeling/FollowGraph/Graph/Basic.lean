import FollowGraph.Call
import FollowGraph.Distinct
import FollowGraph.Graph.Page
import FollowGraph.Json.Arithmetic
import FollowGraph.Text.Case
import FollowGraph.Text.Occurs

/-!
The graph of users as a value: users and edges in the order in which they were added, and the
interest tags of each user that has ever been given some.

A following edge is counted at both its ends by the same operation that adds or removes it. A
listing that meets an edge to a user who is not stored fails; `Graph.WellFormed` is what makes that
impossible.
-/

set_option autoImplicit false

namespace FollowGraph

structure Edge where
  source : UserId
  target : UserId
  kind : Relationship
  deriving DecidableEq

structure Graph where
  users : List StoredUser
  edges : List Edge
  interests : List (UserId × List Json)
  deriving DecidableEq

namespace Graph

def empty : Graph := { users := [], edges := [], interests := [] }

def stored? (g : Graph) (userId : UserId) : Option StoredUser :=
  g.users.find? (·.userId == userId)

def hasUser (g : Graph) (userId : UserId) : Bool := g.users.any (·.userId == userId)

def hasEdge (g : Graph) (e : Edge) : Bool := g.edges.contains e

def interestsOf (g : Graph) (userId : UserId) : List Json := (g.interests.lookup userId).getD []

/-- Where the edges of one kind lead from a user. -/
def targets (g : Graph) (kind : Relationship) (userId : UserId) : List UserId :=
  (g.edges.filter fun e => e.source == userId && e.kind == kind).map (·.target)

/-- Where the edges of one kind that reach a user come from. -/
def sources (g : Graph) (kind : Relationship) (userId : UserId) : List UserId :=
  (g.edges.filter fun e => e.target == userId && e.kind == kind).map (·.source)

def neighbors (g : Graph) (kind : Relationship) (direction : Direction) (userId : UserId) :
    List UserId :=
  match direction with
  | .outgoing => g.targets kind userId
  | .incoming => g.sources kind userId

def followed (g : Graph) (userId : UserId) : List UserId := g.targets .following userId

/-! ## Reading users -/

/-- A user by id, with defaults in place of missing profile values. -/
def findNode (g : Graph) (userId : UserId) : Option UserNode :=
  (g.stored? userId).map StoredUser.node

/-- The users of a list of ids; fails at the first that is not stored. -/
def nodes (g : Graph) : List UserId → Except Failure (List UserNode)
  | [] => .ok []
  | userId :: rest =>
    match g.findNode userId with
    | none => .error (.missingKey userId)
    | some node =>
      match g.nodes rest with
      | .error failure => .error failure
      | .ok nodes => .ok (node :: nodes)

def nodePage (g : Graph) (ids : List UserId) (page limit : Json) :
    Except Failure (List UserNode) :=
  match Json.pageBounds page limit with
  | .error failure => .error failure
  | .ok (start, stop) => g.nodes (slice ids start stop)

theorem nodePage_int (g : Graph) (ids : List UserId) (page limit : Int) :
    g.nodePage ids (.int page) (.int limit) = g.nodes (pageOf ids page limit) := rfl

/-! ## Writing users -/

def modifyUser (g : Graph) (userId : UserId) (f : StoredUser → StoredUser) : Graph :=
  { g with users := g.users.map fun u => if u.userId == userId then f u else u }

/-- Gives a stored user the profile of `user`; a user who is not stored is added with counters of
zero. -/
def upsert (g : Graph) (user : UserNode) : Graph :=
  -- Counters never come from the caller.
  if g.hasUser user.userId then
    g.modifyUser user.userId fun u => { u with profile := user.profile }
  else { g with users := g.users ++ [.ofNode user] }

/-- Replaces a user's tags, repetitions dropped. -/
def setInterests (g : Graph) (userId : UserId) (tags : List Json) : Graph :=
  let tags := distinct tags
  if g.interests.any (·.1 == userId) then
    { g with interests := g.interests.map fun p => if p.1 == userId then (userId, tags) else p }
  else { g with interests := g.interests ++ [(userId, tags)] }

/-! ## Writing edges -/

/-- Adds an amount to the counters at both ends of a following edge. -/
def count (g : Graph) (e : Edge) (amount : Int) : Graph :=
  if e.kind = .following then
    (g.modifyUser e.source fun u =>
      { u with followingNumber := u.followingNumber + amount }).modifyUser e.target fun u =>
      { u with followersNumber := u.followersNumber + amount }
  else g

/-- The graph with one more edge; nothing when a user is missing or the edge is there. -/
def addEdge? (g : Graph) (e : Edge) : Option Graph :=
  if g.hasUser e.source && g.hasUser e.target && !g.hasEdge e then
    some ({ g with edges := g.edges ++ [e] }.count e 1)
  else none

/-- The graph without an edge; nothing when the edge is not there. -/
def removeEdge? (g : Graph) (e : Edge) : Option Graph :=
  if g.hasEdge e then some ({ g with edges := g.edges.erase e }.count e (-1)) else none

/-! ## What every operation keeps -/

/-- Ids and edges without repetition, stored ends, tags of stored users only, and counters that
are the numbers of following edges. -/
structure WellFormed (g : Graph) : Prop where
  ids_nodup : (g.users.map StoredUser.userId).Nodup
  edges_nodup : g.edges.Nodup
  source_stored : ∀ e ∈ g.edges, g.hasUser e.source = true
  target_stored : ∀ e ∈ g.edges, g.hasUser e.target = true
  interests_stored : ∀ p ∈ g.interests, g.hasUser p.1 = true
  following_count : ∀ u ∈ g.users,
    u.followingNumber = (g.targets .following u.userId).length
  followers_count : ∀ u ∈ g.users,
    u.followersNumber = (g.sources .following u.userId).length

end Graph
end FollowGraph
