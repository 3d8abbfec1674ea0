import FollowGraph.Relationship
import FollowGraph.Value

/-!
The calls through which the library reaches its stores.

A store answers every call with a value or with a failure. What kind of value a call is meant to
have is said at its constructor; a store that answers something else is not stopped from it.
Arguments that come from a caller are taken as they are. `Call.render` gives the call's name and
arguments as they are listed and compared.
-/

set_option autoImplicit false

namespace FollowGraph

/-- Calls to the graph of users. Pages count from zero. -/
inductive GraphCall where
  /-- A user, or null. -/
  | findNode (userId : UserId)
  | relationshipExists (source target : UserId) (kind : Relationship)
  /-- False when either user is missing or the edge is there already. -/
  | createEdge (source target : UserId) (kind : Relationship)
  /-- False when there is no such edge. -/
  | deleteEdge (source target : UserId) (kind : Relationship)
  /-- A list of users, as for all listings. -/
  | pagedNeighbors (userId : UserId) (kind : Relationship) (direction : Direction)
      (page limit : Json)
  | secondDegree (userId : UserId) (page limit : Json)
  | thirdDegree (userId : UserId) (page limit : Json)
  | secondDegreeCount (userId : UserId)
  | commonConnection (source target : UserId)
  | substringSearch (userId : UserId) (direction : Direction) (query page limit : Json)
  | sharedInterestUsers (userId : UserId) (page limit : Json)
  /-- The user as stored. -/
  | upsertUserNode (user : UserNode)
  /-- False when there is no such user. -/
  | updateUserNode (user : UserNode)
  /-- False when there is no such user. -/
  | setUserInterests (userId : UserId) (tags : Json)
  /-- A list of texts. -/
  | listUserInterests (userId : UserId)
  deriving DecidableEq

/-- All calls: to the graph, to the cache, to the notification service, and the question whether
a count of mutual followers has been set beforehand. -/
inductive Call where
  | graph (call : GraphCall)
  /-- The value under a key, or null. -/
  | cacheGet (key : Json)
  | cacheSet (key value ttl : Json)
  | cacheDelete (key : Json)
  | publish (event payload : Json)
  /-- An empty list, or a list of the one count that has been set. -/
  | presetMutualCount (source target : UserId)
  deriving DecidableEq

namespace GraphCall

def name : GraphCall → String
  | .findNode .. => "find_node"
  | .relationshipExists .. => "relationship_exists"
  | .createEdge .. => "create_edge"
  | .deleteEdge .. => "delete_edge"
  | .pagedNeighbors .. => "paged_neighbors"
  | .secondDegree .. => "second_degree"
  | .thirdDegree .. => "third_degree"
  | .secondDegreeCount .. => "second_degree_count"
  | .commonConnection .. => "common_connection"
  | .substringSearch .. => "substring_search"
  | .sharedInterestUsers .. => "shared_interest_users"
  | .upsertUserNode .. => "upsert_user_node"
  | .updateUserNode .. => "update_user_node"
  | .setUserInterests .. => "set_user_interests"
  | .listUserInterests .. => "list_user_interests"

def arguments : GraphCall → List Json
  | .findNode userId | .secondDegreeCount userId | .listUserInterests userId => [userId]
  | .relationshipExists source target kind | .createEdge source target kind
  | .deleteEdge source target kind => [source, target, .str kind.value]
  | .pagedNeighbors userId kind direction page limit =>
    [userId, .str kind.value, .str direction.value, page, limit]
  | .secondDegree userId page limit | .thirdDegree userId page limit
  | .sharedInterestUsers userId page limit => [userId, page, limit]
  | .commonConnection source target => [source, target]
  | .substringSearch userId direction query page limit =>
    [userId, .str direction.value, query, page, limit]
  | .upsertUserNode user | .updateUserNode user => [user.toJson]
  | .setUserInterests userId tags => [userId, tags]

end GraphCall

namespace Call

def name : Call → String
  | .graph call => "graph." ++ call.name
  | .cacheGet _ => "cache.get"
  | .cacheSet .. => "cache.set"
  | .cacheDelete _ => "cache.delete"
  | .publish .. => "notifications.publish"
  | .presetMutualCount .. => "mutual.count_mutual_followers"

def arguments : Call → List Json
  | .graph call => call.arguments
  | .cacheGet key | .cacheDelete key => [key]
  | .cacheSet key value ttl => [key, value, ttl]
  | .publish event payload => [event, payload]
  | .presetMutualCount source target => [source, target]

def render (call : Call) : Json := .arr (.str call.name :: call.arguments)

end Call
end FollowGraph
