import FollowGraph.Program

/-!
Single calls as attempts, and the checks that the follow and block operations share.

A check takes whatever its call answers: every value that counts as one holds.
-/

set_option autoImplicit false

namespace FollowGraph

namespace Ask

def findNode (userId : UserId) : Attempt Value := Attempt.call (.graph (.findNode userId))

def relationshipExists (source target : UserId) (kind : Relationship) : Attempt Value :=
  Attempt.call (.graph (.relationshipExists source target kind))

def createEdge (source target : UserId) (kind : Relationship) : Attempt Value :=
  Attempt.call (.graph (.createEdge source target kind))

def deleteEdge (source target : UserId) (kind : Relationship) : Attempt Value :=
  Attempt.call (.graph (.deleteEdge source target kind))

def pagedNeighbors (userId : UserId) (kind : Relationship) (direction : Direction)
    (page limit : Json) : Attempt Value :=
  Attempt.call (.graph (.pagedNeighbors userId kind direction page limit))

def secondDegree (userId : UserId) (page limit : Json) : Attempt Value :=
  Attempt.call (.graph (.secondDegree userId page limit))

def thirdDegree (userId : UserId) (page limit : Json) : Attempt Value :=
  Attempt.call (.graph (.thirdDegree userId page limit))

def secondDegreeCount (userId : UserId) : Attempt Value :=
  Attempt.call (.graph (.secondDegreeCount userId))

def commonConnection (source target : UserId) : Attempt Value :=
  Attempt.call (.graph (.commonConnection source target))

def substringSearch (userId : UserId) (direction : Direction) (query page limit : Json) :
    Attempt Value :=
  Attempt.call (.graph (.substringSearch userId direction query page limit))

def sharedInterestUsers (userId : UserId) (page limit : Json) : Attempt Value :=
  Attempt.call (.graph (.sharedInterestUsers userId page limit))

def upsertUserNode (user : UserNode) : Attempt Value :=
  Attempt.call (.graph (.upsertUserNode user))

def updateUserNode (user : UserNode) : Attempt Value :=
  Attempt.call (.graph (.updateUserNode user))

def setUserInterests (userId : UserId) (tags : Json) : Attempt Value :=
  Attempt.call (.graph (.setUserInterests userId tags))

def listUserInterests (userId : UserId) : Attempt Value :=
  Attempt.call (.graph (.listUserInterests userId))

def cacheGet (key : Json) : Attempt Value := Attempt.call (.cacheGet key)

def cacheSet (key value ttl : Json) : Attempt Value := Attempt.call (.cacheSet key value ttl)

def publish (event payload : Json) : Attempt Value := Attempt.call (.publish event payload)

def presetMutualCount (source target : UserId) : Attempt Value :=
  Attempt.call (.presetMutualCount source target)

end Ask

/-- Whether an answer holds. -/
def Attempt.holds (answer : Attempt Value) : Attempt Bool := (fun v => !v.isFalsy) <$> answer

namespace Queries

def isFollowing (source target : UserId) : Attempt Value :=
  Ask.relationshipExists source target .following

/-- The stored block between two users as blocker and blocked, the first user's own looked for
first. -/
def blockedDirection (a b : UserId) : Attempt (Option (UserId × UserId)) := do
  if ← (Ask.relationshipExists a b .blocked).holds then
    pure (some (a, b))
  else if ← (Ask.relationshipExists b a .blocked).holds then
    pure (some (b, a))
  else
    Attempt.log .debug .queries ("No BLOCKED edge between " ++ a.display ++ " and " ++ b.display)
    pure none

def isBlocked (a b : UserId) : Attempt Bool := do
  let stored ← blockedDirection a b
  pure stored.isSome

end Queries
end FollowGraph
