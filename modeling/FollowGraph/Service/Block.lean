import FollowGraph.Service.Follow

/-!
Blocking. A block first takes away the following edges of the pair, each as its own step whose
failure is logged and passed over; only adding the block edge decides the result. Either user of
a pair can take a block away, whoever set it.
-/

set_option autoImplicit false

namespace FollowGraph.Block

/-- One step before a block: runs an operation if a check says that it applies. -/
def detach (step : String) (source target : UserId) (applies : Attempt Bool)
    (operation : Program Response) : Program Unit :=
  let attempt : Attempt (Option Response) := do
    if ← applies then
      let response ← Attempt.always operation
      pure (some response)
    else
      pure none
  let heading := "Block " ++ source.display ++ " -> " ++ target.display ++ ": " ++ step ++ " step "
  do
    let outcome ← attempt.catching fun failure => do
      Program.log .warning .block (heading ++ "failed: " ++ failure.message)
      pure none
    match outcome with
    | some response =>
      if response.success then pure ()
      else
        Program.log .warning .block (heading ++ "returned " ++ toString response.statusCode ++
          " (" ++ response.message.display ++ ")")
    | none => pure ()

def block (source target : UserId) : Program Response :=
  if source = target then pure (.forbidden "You cannot block yourself")
  else
    let attempt : Attempt Response := do
      if !(← Follow.bothExist source target) then
        pure (.badRequest "User not found")
      else if ← Queries.isBlocked source target then
        pure (.forbidden "User already blocked")
      else
        -- Neither step decides anything: what fails or refuses in one is only logged.
        Attempt.always (detach "unfollow" source target
          (Queries.isFollowing source target).holds (Follow.unfollow source target))
        Attempt.always (detach "remove follower" source target
          (Queries.isFollowing target source).holds (Follow.removeFollower source target))
        if ← (Ask.createEdge source target .blocked).holds then
          Attempt.log .info .block ("User " ++ source.display ++ " blocked " ++ target.display)
          pure (.ok "User blocked successfully" .null)
        else
          pure (.internalError "Failed to block user")
    attempt.catching fun failure => do
      Program.log .error .block ("Failed to block user " ++ source.display ++ " -> " ++
        target.display ++ ": " ++ failure.message)
      pure (.internalError "Failed to block user")

/-- Takes away the stored block of a pair, whichever direction it has. -/
def unblock (source target : UserId) : Program Response :=
  if source = target then pure (.forbidden "You cannot unblock yourself")
  else
    let attempt : Attempt Response := do
      match ← Queries.blockedDirection source target with
      | none => pure (.forbidden "User not blocked")
      | some (blocker, blocked) =>
        if ← (Ask.deleteEdge blocker blocked .blocked).holds then
          Attempt.log .info .block ("BLOCKED edge " ++ blocker.display ++ " -> " ++
            blocked.display ++ " removed by " ++ source.display)
          pure (.ok "User unblocked successfully" .null)
        else
          pure (.internalError "Failed to unblock user")
    attempt.catching fun failure => do
      Program.log .error .block ("Failed to unblock user " ++ source.display ++ " -> " ++
        target.display ++ ": " ++ failure.message)
      pure (.internalError "Failed to unblock user")

/-- A page of the users whom a user has blocked. It fails only when page and limit cannot be
checked. -/
def getBlocked (userId : UserId) (page limit : Json) : Attempt Response := do
  match ← Attempt.ofExcept (checkPagination page limit) with
  | some refusal => pure refusal
  | none =>
    let attempt : Attempt Response := do
      let raw ← Ask.pagedNeighbors userId .blocked .outgoing page limit
      let users ← Enrichment.enrichMany Mutual.count raw userId
      let pageMeta ← Attempt.ofExcept (pageMetaOf raw page limit)
      pure (.paginated "Blocked users fetched successfully" users pageMeta)
    Attempt.always (attempt.catching fun failure => do
      Program.log .error .block ("Failed to get blocked users of " ++ userId.display ++ ": " ++
        failure.message)
      pure (.internalError "Failed to get blocked users"))

end FollowGraph.Block
