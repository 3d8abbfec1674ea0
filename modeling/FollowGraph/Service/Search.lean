import FollowGraph.Response
import FollowGraph.Service.Enrichment

/-!
Mutual followers of a pair, and search in a user's own lists. A search without any result answers
with not found.
-/

set_option autoImplicit false

namespace FollowGraph.Search

def mutualFollowers (source target : UserId) : Program Response :=
  let attempt : Attempt Response := do
    let found ← Attempt.always (Mutual.find source target)
    if found.isNull then pure (.internalError "Failed to get mutual followers")
    else if found.isFalsy then
      Attempt.log .debug .search ("No mutual followers for " ++ source.display ++ " -> " ++
        target.display)
      pure (.notFound "No mutual followers found")
    else
      let users ← Enrichment.enrichMany Mutual.count found source
      pure (.ok "Mutual followers fetched successfully" (.enriched users))
  attempt.catching fun failure => do
    Program.log .error .search ("Failed to get mutual followers of " ++ source.display ++ " and " ++
      target.display ++ ": " ++ failure.message)
    pure (.internalError "Failed to get mutual followers")

/-- What a query asks for: its text without the blanks around it; nothing is the empty text. Queries
come out of targets, in which no surrogate stands alone; in any other query it would be replaced. -/
def needleOf (query : Json) : Except Failure String :=
  if query.isFalsy then .ok ""
  else if query.isText then .ok (Text.strip query.display)
  else .error (.noProperty query.kindName "strip")

/-- The neighbours of a user whose names match a query, a page of them. It fails only when page,
limit or query cannot be checked. -/
def searchNeighbors (userId : UserId) (direction : Direction) (query page limit : Json)
    (label capital : String) : Attempt Response := do
  match ← Attempt.ofExcept (checkPagination page limit) with
  | some refusal => pure refusal
  | none =>
    let needle ← Attempt.ofExcept (needleOf query)
    if needle.isEmpty then pure (.badRequest "Search query is required")
    else
      let attempt : Attempt Response := do
        let raw ← Ask.substringSearch userId direction (.str needle) page limit
        if raw.isFalsy then
          Attempt.log .debug .search ("No " ++ label ++ " of " ++ userId.display ++ " match " ++
            Text.quoted needle)
          pure (.notFound ("No " ++ label ++ " found for query: " ++ needle))
        else
          let users ← Enrichment.enrichMany Mutual.count raw userId
          let pageMeta ← Attempt.ofExcept (pageMetaOf raw page limit)
          pure (.paginated (capital ++ " fetched successfully") users pageMeta)
      Attempt.always (attempt.catching fun failure => do
        Program.log .error .search ("Failed to search " ++ label ++ " of " ++ userId.display ++
          ": " ++ failure.message)
        pure (.internalError ("Failed to search " ++ label)))

def searchFollowers (userId : UserId) (query page limit : Json) : Attempt Response :=
  searchNeighbors userId .incoming query page limit "followers" "Followers"

def searchFollowing (userId : UserId) (query page limit : Json) : Attempt Response :=
  searchNeighbors userId .outgoing query page limit "following" "Following"

end FollowGraph.Search
