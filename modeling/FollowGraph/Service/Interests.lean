import FollowGraph.Distinct
import FollowGraph.Interest
import FollowGraph.Response
import FollowGraph.Service.Enrichment
import FollowGraph.Service.Seen

/-!
Interest tags of users, and suggestions of users who share one.
-/

set_option autoImplicit false

namespace FollowGraph.Interests

/-- The tags that texts name, each once in the order of its first mention; nothing when a text
names no tag. -/
def parseTags (texts : List String) : Option (List String) :=
  (texts.mapM Interest.ofText?).map fun tags => distinct (tags.map Interest.value)

/-- The tags that the items of a value name by their texts. No value at all lists none. -/
def readTags (tags : Json) : Except Failure (Option (List String)) := do
  let items ← if tags.isFalsy then pure [] else tags.items
  pure (parseTags (items.map Json.display))

def ofTexts (texts : List String) : Json := .arr (texts.map .str)

/-- Replaces a user's tags. It fails only when the tags are no list. -/
def set (userId : UserId) (tags : Json) : Attempt Response := do
  match ← Attempt.ofExcept (readTags tags) with
  | none => pure (.badRequest "Unknown interest")
  | some tags =>
    let attempt : Attempt Response := do
      if ← (Ask.setUserInterests userId (ofTexts tags)).holds then
        Attempt.log .info .interest ("Set " ++ toString tags.length ++ " interests for user " ++
          userId.display)
        pure (.ok "User interests created successfully" (.plain (ofTexts tags)))
      else
        pure (.notFound "User not found")
    Attempt.always (attempt.catching fun failure => do
      Program.log .error .interest ("Failed to set interests for user " ++ userId.display ++
        ": " ++ failure.message)
      pure (.internalError "Failed to create user interests"))

def ascending (tags : Value) : Except Failure Json := do
  let items ← tags.items
  .arr <$> Json.sorted (items.map Value.render)

/-- The stored tags of a user, or the response to a failure. -/
def stored (userId : UserId) : Program (Except Response Value) :=
  Attempt.catching (Except.ok <$> Ask.listUserInterests userId) fun failure => do
    Program.log .error .interest ("Failed to get interests for user " ++ userId.display ++ ": " ++
      failure.message)
    pure (.error (.internalError "Failed to get user interests"))

/-- The tags of a user. It fails only when what is stored cannot be sorted. -/
def get (userId : UserId) : Attempt Response := do
  match ← Attempt.always (stored userId) with
  | .error response => pure response
  | .ok tags =>
    if tags.isFalsy then pure (.fail 404 "User interests not found" (.plain (.arr [])))
    else
      let tags ← Attempt.ofExcept (ascending tags)
      pure (.ok "User interests fetched successfully" (.plain tags))

/-- Users who share a tag with the viewer, whom the viewer does not follow and has not been
shown. It fails only when page and limit cannot be checked. -/
def getSuggestions (viewer : UserId) (page limit : Json) : Attempt Response := do
  match ← Attempt.ofExcept (checkPagination page limit) with
  | some refusal => pure refusal
  | none =>
    let attempt : Attempt Response := do
      let raw ← Ask.sharedInterestUsers viewer page limit
      let unseen ← SeenWindow.interestSuggestions.filterUnseen viewer raw
      let users ← Enrichment.enrichManyUnfollowed Mutual.count (.users unseen) viewer
      let pageMeta ← Attempt.ofExcept (pageMetaOf raw page limit)
      pure (.paginated "Interest-based suggestions fetched successfully" users pageMeta)
    Attempt.always (attempt.catching fun failure => do
      Program.log .error .interest ("Failed to get interest-based suggestions for user " ++
        viewer.display ++ ": " ++ failure.message)
      pure (.internalError "Failed to get interest-based suggestions"))

end FollowGraph.Interests
