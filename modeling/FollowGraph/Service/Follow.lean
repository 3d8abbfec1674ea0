import FollowGraph.Response
import FollowGraph.Service.Enrichment

/-!
Following: the transitions of the following edge of an ordered pair, and the lists of followed
users and followers.

Every check comes before the one write. A new follow is announced after the edge is there, and an
announcement that fails changes nothing.
-/

set_option autoImplicit false

namespace FollowGraph.Follow

def newFollowEvent : String := "create_notification"

def newFollowPayload (target name : Json) : Json :=
  .obj [("user_id", target), ("type", .str "new_follow"),
    ("title", .str "You have a new follower"), ("message", name.followedBy " just followed you")]

/-- The name under which a follower is announced: the username, or the id when there is none. -/
def announcedName (source : UserId) (follower : Value) : Except Failure Json :=
  if follower.isFalsy then .ok source
  else do
    let node ← follower.node "username"
    pure (node.profile.username.orElse source)

def notifyNewFollow (source target : UserId) : Program Unit :=
  let announce : Attempt Unit := do
    let follower ← Ask.findNode source
    let name ← Attempt.ofExcept (announcedName source follower)
    let _ ← Ask.publish (.str newFollowEvent) (newFollowPayload target name)
  announce.catching fun failure =>
    Program.log .warning .follow ("Failed to emit new follow notification " ++ source.display ++
      " -> " ++ target.display ++ ": " ++ failure.message)

/-- Whether both users of a pair are there, the second looked for first. -/
def bothExist (source target : UserId) : Attempt Bool := do
  if (← Ask.findNode target).isNull then pure false
  else
    let found ← Ask.findNode source
    pure !found.isNull

/-- Adds the edge, or gives the reason against it. -/
def followEdge (source target : UserId) : Attempt (Option Response) := do
  if !(← bothExist source target) then
    pure (some (.badRequest "User not found"))
  else if ← (Queries.isFollowing source target).holds then
    pure (some (.forbidden "You are already following this user"))
  else if ← Queries.isBlocked source target then
    pure (some (.forbidden "This user is limited to you"))
  else if ← (Ask.createEdge source target .following).holds then
    Attempt.log .info .follow ("User " ++ source.display ++ " followed " ++ target.display)
    pure none
  else
    pure (some (.internalError "Failed to follow user"))

def follow (source target : UserId) : Program Response :=
  if source = target then pure (.forbidden "You cannot follow yourself")
  else do
    let refusal ← (followEdge source target).catching fun failure => do
      Program.log .error .follow ("Failed to follow user " ++ source.display ++ " -> " ++
        target.display ++ ": " ++ failure.message)
      pure (some (.internalError "Failed to follow user"))
    match refusal with
    | some response => pure response
    | none =>
      -- The edge is there, so the answer stands whatever becomes of the announcement.
      notifyNewFollow source target
      pure (.ok "User followed successfully" .null)

def unfollow (source target : UserId) : Program Response :=
  if source = target then pure (.forbidden "You cannot unfollow yourself")
  else
    let attempt : Attempt Response := do
      if !(← (Queries.isFollowing source target).holds) then
        pure (.forbidden "You are not following this user")
      else if ← Queries.isBlocked source target then
        pure (.forbidden "This user is limited to you")
      else if ← (Ask.deleteEdge source target .following).holds then
        Attempt.log .info .follow ("User " ++ source.display ++ " unfollowed " ++ target.display)
        pure (.ok "User unfollowed successfully" .null)
      else
        pure (.internalError "Failed to unfollow user")
    attempt.catching fun failure => do
      Program.log .error .follow ("Failed to unfollow user " ++ source.display ++ " -> " ++
        target.display ++ ": " ++ failure.message)
      pure (.internalError "Failed to unfollow user")

/-- Takes away the edge by which `follower` follows `user`. -/
def removeFollower (user follower : UserId) : Program Response :=
  if user = follower then pure (.forbidden "You cannot remove yourself")
  else
    let attempt : Attempt Response := do
      if ← Queries.isBlocked user follower then
        pure (.forbidden "User blocked")
      else if !(← (Queries.isFollowing follower user).holds) then
        pure (.forbidden "User is not following you")
      else if ← (Ask.deleteEdge follower user .following).holds then
        Attempt.log .info .follow ("User " ++ user.display ++ " removed follower " ++
          follower.display)
        pure (.ok "Follower removed successfully" .null)
      else
        pure (.internalError "Failed to remove follower")
    attempt.catching fun failure => do
      Program.log .error .follow ("Failed to remove follower " ++ follower.display ++ " of " ++
        user.display ++ ": " ++ failure.message)
      pure (.internalError "Failed to remove follower")

/-- A page of neighbours, annotated for the user whose neighbours they are. It fails only when
page and limit cannot be checked. -/
def listNeighbors (userId : UserId) (direction : Direction) (page limit : Json)
    (label small : String) : Attempt Response := do
  match ← Attempt.ofExcept (checkPagination page limit) with
  | some refusal => pure refusal
  | none =>
    let attempt : Attempt Response := do
      let raw ← Ask.pagedNeighbors userId .following direction page limit
      let users ← Enrichment.enrichMany Mutual.count raw userId
      let pageMeta ← Attempt.ofExcept (pageMetaOf raw page limit)
      pure (.paginated (label ++ " fetched successfully") users pageMeta)
    Attempt.always (attempt.catching fun failure => do
      Program.log .error .follow ("Failed to get " ++ small ++ " of " ++ userId.display ++ ": " ++
        failure.message)
      pure (.internalError ("Failed to get " ++ small)))

def getFollowing (userId : UserId) (page limit : Json) : Attempt Response :=
  listNeighbors userId .outgoing page limit "Following users" "following users"

def getFollowers (userId : UserId) (page limit : Json) : Attempt Response :=
  listNeighbors userId .incoming page limit "Followers" "followers"

end FollowGraph.Follow
