import FollowGraph.Response
import FollowGraph.Service.Queries

/-!
User nodes as they come from the service that owns users: created, updated, looked up.
-/

set_option autoImplicit false

namespace FollowGraph.Users

def create (user : UserNode) : Program Response :=
  let attempt : Attempt Response := do
    let stored ← Ask.upsertUserNode user
    let node ← Attempt.ofExcept (stored.node "user_id")
    Attempt.log .info .users ("User node " ++ node.userId.display ++ " created")
    pure (.ok "User node created successfully" stored)
  attempt.catching fun failure => do
    Program.log .error .users ("Failed to create user " ++ user.userId.display ++ ": " ++
      failure.message)
    pure (.internalError "Failed to create user")

def update (user : UserNode) : Program Response :=
  let attempt : Attempt Response := do
    if ← (Ask.updateUserNode user).holds then
      let stored ← Ask.findNode user.userId
      pure (.ok "User node updated successfully" stored)
    else
      pure (.notFound "User not found")
  attempt.catching fun failure => do
    Program.log .error .users ("Failed to update user " ++ user.userId.display ++ ": " ++
      failure.message)
    pure (.internalError "Failed to update user")

def get (userId : UserId) : Program Response :=
  let attempt : Attempt Response := do
    let node ← Ask.findNode userId
    if node.isNull then pure (.notFound "User not found")
    else pure (.ok "User fetched successfully" node)
  attempt.catching fun failure => do
    Program.log .error .users ("Failed to get user " ++ userId.display ++ ": " ++ failure.message)
    pure (.internalError "Failed to get user")

/-- Whether a user is stored; a look-up that fails counts as no. -/
def isStored (userId : UserId) : Program Bool :=
  Attempt.catching ((fun node => !node.isNull) <$> Ask.findNode userId) fun failure => do
    Program.log .warning .users ("Failed to check user " ++ userId.display ++ ": " ++
      failure.message)
    pure false

end FollowGraph.Users
