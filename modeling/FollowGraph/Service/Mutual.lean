import FollowGraph.Service.Queries

/-!
Mutual followers of a pair: the users whom the first follows and who follow the second. The
notion is not symmetric.
-/

set_option autoImplicit false

namespace FollowGraph.Mutual

/-- The mutual followers of a pair, or null when they could not be found out. -/
def find (source target : UserId) : Program Value :=
  (Ask.commonConnection source target).catching fun failure => do
    Program.log .warning .mutual ("Failed to get mutual followers of " ++ source.display ++
      " and " ++ target.display ++ ": " ++ failure.message)
    pure .null

def count (source target : UserId) : Attempt Json := do
  let found ← Attempt.always (find source target)
  if found.isNull then pure .null
  else
    let number ← Attempt.ofExcept found.length
    pure (.int number)

end FollowGraph.Mutual
