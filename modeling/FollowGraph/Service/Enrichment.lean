import FollowGraph.Service.Mutual

/-!
Annotating users with their relation to a viewer.

A user whose annotation fails is left out of a list; the others do not notice. How mutual
followers are counted is a parameter.
-/

set_option autoImplicit false

namespace FollowGraph

/-- A way to count the mutual followers of a pair, which may fail or find no answer, null. -/
abbrev MutualCount := UserId → UserId → Attempt Json

namespace Enrichment

/-- The preset count of a pair if there is one, otherwise by asking the graph. -/
def presetOrCounted : MutualCount := fun source target => do
  match ← Ask.presetMutualCount source target with
  | .list [preset] => pure preset.render
  | _ => Mutual.count source target

/-- The four edges between a viewer and a candidate: viewer follows, candidate follows, viewer
blocks, candidate blocks. -/
structure Flags where
  isFollowing : Json
  isFollower : Json
  isBlocked : Json
  isBlockedBy : Json
  deriving DecidableEq

def flags (viewer candidate : UserId) : Attempt Flags := do
  let isFollowing ← Ask.relationshipExists viewer candidate .following
  let isFollower ← Ask.relationshipExists candidate viewer .following
  let isBlocked ← Ask.relationshipExists viewer candidate .blocked
  let isBlockedBy ← Ask.relationshipExists candidate viewer .blocked
  pure
    { isFollowing := isFollowing.render
      isFollower := isFollower.render
      isBlocked := isBlocked.render
      isBlockedBy := isBlockedBy.render }

/-- The flags, or nothing and a warning. -/
def flags? (viewer candidate : UserId) : Program (Option Flags) :=
  Attempt.catching (some <$> flags viewer candidate) fun failure => do
    Program.log .warning .enrichment ("Dropping " ++ candidate.display ++
      ": relationship check for viewer " ++ viewer.display ++ " failed: " ++ failure.message)
    pure none

def annotate (node : UserNode) (flags : Flags) (mutualCount : Json) : EnrichedUser :=
  { user := node
    isFollowing := flags.isFollowing
    isFollower := flags.isFollower
    isBlocked := flags.isBlocked
    isBlockedBy := flags.isBlockedBy
    mutualFollowersNumber := mutualCount }

/-- The annotated user, or nothing when a check failed or the count is not known. It fails only
when counting does. -/
def enrich (count : MutualCount) (node : UserNode) (viewer : UserId) :
    Attempt (Option EnrichedUser) := do
  match ← Attempt.always (flags? viewer node.userId) with
  | none => pure none
  | some flags =>
    match ← count viewer node.userId with
    | .null =>
      Attempt.log .warning .enrichment ("Dropping " ++ node.userId.display ++
        ": mutual followers unavailable for viewer " ++ viewer.display)
      pure none
    | mutualCount => pure (some (annotate node flags mutualCount))

/-- The annotated user unless the viewer follows that user already. -/
def enrichUnfollowed (count : MutualCount) (node : UserNode) (viewer : UserId) :
    Attempt (Option EnrichedUser) := do
  let enriched ← enrich count node viewer
  pure (enriched.filter fun e => e.isFollowing.isFalsy)

/-- The annotated users of a list, in order, without those that could not be annotated. An item
that is no user ends the whole list. -/
def collect (one : UserNode → Attempt (Option EnrichedUser)) :
    List Value → Attempt (List EnrichedUser)
  | [] => pure []
  | item :: rest => do
    let node ← Attempt.ofExcept (item.node "user_id")
    let enriched ← Attempt.always ((one node).catching fun failure => do
      Program.log .warning .enrichment ("Failed to enrich " ++ node.userId.display ++ ": " ++
        failure.message)
      pure none)
    let others ← collect one rest
    pure (enriched.toList ++ others)

def enrichMany (count : MutualCount) (nodes : Value) (viewer : UserId) :
    Attempt (List EnrichedUser) := do
  let items ← Attempt.ofExcept nodes.items
  collect (fun node => enrich count node viewer) items

def enrichManyUnfollowed (count : MutualCount) (nodes : Value) (viewer : UserId) :
    Attempt (List EnrichedUser) := do
  let items ← Attempt.ofExcept nodes.items
  collect (fun node => enrichUnfollowed count node viewer) items

end Enrichment
end FollowGraph
