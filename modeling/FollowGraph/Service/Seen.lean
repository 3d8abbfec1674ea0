import FollowGraph.Distinct
import FollowGraph.Json.Order
import FollowGraph.Service.Queries

/-!
Remembering which users a viewer has been shown.

A `SeenWindow` keeps, for each viewer, the ids shown during the last seconds under a cache key of
its own. Reading and writing are two calls, so of two requests at once the later writer wins. A
cache that cannot be read counts as empty, one that cannot be written is left alone.
-/

set_option autoImplicit false

namespace FollowGraph

/-- Where and for how many seconds shown ids are remembered, and which part logs about it. -/
structure SeenWindow where
  keyspace : String
  ttl : Json
  source : LogSource
  deriving DecidableEq

def SeenWindow.suggestions : SeenWindow :=
  { keyspace := "suggestions", ttl := .int (5 * 60), source := .suggestionCache }

def SeenWindow.interestSuggestions : SeenWindow :=
  { keyspace := "interest_suggestions", ttl := .int (10 * 60), source := .interestCache }

namespace SeenWindow

def key (window : SeenWindow) (viewer : UserId) : Json :=
  viewer.precededBy (window.keyspace ++ ":")

/-- A key is a text, whoever the viewer is. -/
theorem requireHashable_key (window : SeenWindow) (viewer : UserId) :
    (window.key viewer).requireHashable = .ok () := by
  unfold key Json.precededBy
  split <;> rfl

/-- The ids that a cached value holds: the texts of a list's items, none of anything else. -/
def idsOf : Value → List UserId
  | .plain (.arr items) => distinct (items.map Json.asText)
  | _ => []

def seenIds (window : SeenWindow) (viewer : UserId) : Program (List UserId) :=
  Attempt.catching (idsOf <$> Ask.cacheGet (window.key viewer)) fun failure => do
    Program.log .warning window.source ("Failed to read suggestion cache " ++
      (window.key viewer).display ++ ": " ++ failure.message)
    pure []

/-- What the cache holds when `ids` have been shown after `seen`. -/
def merged (seen ids : List UserId) : Except Failure Json :=
  .arr <$> Json.sorted (distinct (seen ++ ids))

/-- Records in the cache that a viewer has been shown some new users. -/
def write (window : SeenWindow) (viewer : UserId) (shown : Json) (new : Nat) : Program Unit :=
  let attempt : Attempt Unit := do
    let _ ← Ask.cacheSet (window.key viewer) shown window.ttl
    Attempt.log .info window.source ("Updated suggestion cache " ++
      (window.key viewer).display ++ " with " ++ toString new ++ " new suggestions")
  attempt.catching fun failure =>
    Program.log .warning window.source ("Failed to update suggestion cache " ++
      (window.key viewer).display ++ ": " ++ failure.message)

/-- Records that a viewer has been shown some users. It fails only when ids cannot be sorted. -/
def remember (window : SeenWindow) (viewer : UserId) (seen ids : List UserId) : Attempt Unit := do
  let shown ← Attempt.ofExcept (merged seen ids)
  Attempt.always (window.write viewer shown ids.length)

/-- A candidate as a user with an id that can be looked up. -/
def candidate (item : Value) : Except Failure UserNode := do
  let node ← item.node "user_id"
  node.userId.requireHashable
  pure node

/-- The candidates that a viewer has not been shown, who are recorded as shown now. It fails only
when a candidate is no user. -/
def filterUnseen (window : SeenWindow) (viewer : UserId) (candidates : Value) :
    Attempt (List UserNode) := do
  let seen ← Attempt.always (window.seenIds viewer)
  let items ← Attempt.ofExcept candidates.items
  let nodes ← Attempt.ofExcept (items.mapM candidate)
  -- A candidate listed twice stays twice: only earlier pages count as seen.
  let unseen := nodes.filter fun u => !seen.contains u.userId
  if unseen.isEmpty then pure unseen
  else do
    window.remember viewer seen (unseen.map UserNode.userId)
    pure unseen

end SeenWindow
end FollowGraph
