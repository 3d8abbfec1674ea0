import FollowGraph.Failure

/-!
The two directed relationships between users, and the direction of a listing.
-/

set_option autoImplicit false

namespace FollowGraph

inductive Relationship where
  | following
  | blocked
  deriving DecidableEq, Repr

namespace Relationship

def all : List Relationship := [.following, .blocked]

def value : Relationship → String
  | .following => "FOLLOWING"
  | .blocked => "BLOCKED"

/-- Only the exact text names a relationship. -/
def ofJson (value : Json) : Except Failure Relationship :=
  match all.find? fun r => .str r.value == value with
  | some r => .ok r
  | none => .error (.unknownRelationship value)

end Relationship

/-- Seen from the user of a query: edges that leave it, or edges that reach it. -/
inductive Direction where
  | outgoing
  | incoming
  deriving DecidableEq, Repr

namespace Direction

def all : List Direction := [.outgoing, .incoming]

def value : Direction → String
  | .outgoing => "outgoing"
  | .incoming => "incoming"

/-- Only the exact text names a direction. -/
def ofJson (value : Json) : Except Failure Direction :=
  match all.find? fun d => .str d.value == value with
  | some d => .ok d
  | none => .error (.unknownDirection value)

end Direction
end FollowGraph
