import FollowGraph.Json.Arithmetic
import FollowGraph.Response
import FollowGraph.Service.Enrichment
import FollowGraph.Service.Seen

/-!
Friend-of-friend suggestions: the second-degree users page by page, then third-degree users.

The third tier begins at the page after the last second-degree one, and every page from there on
asks for the same slice of it; what a viewer has seen keeps that slice from being shown twice.
-/

set_option autoImplicit false

namespace FollowGraph

inductive Tier where
  | second
  | third
  deriving DecidableEq, Repr

namespace Tier

def all : List Tier := [.second, .third]

def degree : Tier → Int
  | .second => 2
  | .third => 3

end Tier

/-- What one tier has to offer for a page, before anything is left out. -/
structure CandidatePage where
  users : Value
  total : Nat
  tier : Tier
  thirdDegreeStartPage : Int
  isLastPage : Bool

def CandidatePage.toJson (c : CandidatePage) : Json :=
  .obj [("users", c.users.render), ("tier", .int c.tier.degree),
    ("third_degree_start_page", .int c.thirdDegreeStartPage),
    ("is_last_page", .bool c.isLastPage)]

namespace Suggestions

def fetchCandidates (viewer : UserId) (page limit : Json) : Attempt CandidatePage := do
  let count ← Ask.secondDegreeCount viewer
  let start ← Attempt.ofExcept (Json.pageCount count.render limit)
  let isSecond ← Attempt.ofExcept (page.lessThan (.int start))
  let tier := if isSecond then Tier.second else Tier.third
  -- Every page of the third tier asks for the same slice, the one at its first page.
  let users ←
    match tier with
    | .second => Ask.secondDegree viewer page limit
    | .third => Ask.thirdDegree viewer (.int start) limit
  let total ← Attempt.ofExcept users.length
  let isLastPage ← Attempt.ofExcept ((Json.int total).lessThan limit)
  pure { users, total, tier, thirdDegreeStartPage := start, isLastPage }

/-- The number of a page in a log entry, without a fraction. -/
def pageNumber (page : Json) : String :=
  match page.toInteger with
  | .ok n => toString n
  | .error _ => page.display

/-- The next suggestions for a viewer. It fails only when page and limit cannot be checked. -/
def getSuggestions (viewer : UserId) (page limit : Json) : Attempt Response := do
  match ← Attempt.ofExcept (checkPagination page limit) with
  | some refusal => pure refusal
  | none =>
    let attempt : Attempt Response := do
      let candidates ← fetchCandidates viewer page limit
      Attempt.log .debug .suggest ("Suggestions for " ++ viewer.display ++ " page " ++
        pageNumber page ++ ": " ++ toString candidates.total ++ " raw candidates from tier " ++
        toString candidates.tier.degree)
      let unseen ← SeenWindow.suggestions.filterUnseen viewer candidates.users
      let users ← Enrichment.enrichMany Mutual.count (.users unseen) viewer
      pure (.paginated "Suggestions fetched successfully" users
        { total := .int candidates.total, page, limit
          isLastPage := .bool candidates.isLastPage })
    Attempt.always (attempt.catching fun failure => do
      Program.log .error .suggest ("Failed to get suggestions for user " ++ viewer.display ++
        ": " ++ failure.message)
      pure (.internalError "Failed to get suggestions"))

end Suggestions
end FollowGraph
