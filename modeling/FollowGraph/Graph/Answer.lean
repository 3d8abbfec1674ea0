import FollowGraph.Graph.Traversal

/-!
How the graph in memory answers graph calls. Only a write changes the graph, and one that answers
false changes nothing.

A user is looked up by an id that is no list and no object; any other id fails. Edges are compared
with any ids.
-/

set_option autoImplicit false

namespace FollowGraph.Graph

/-- The outcome of a write that may have nothing to do. -/
def written (g : Graph) (changed : Except Failure (Option Graph)) :
    Except Failure Value × Graph :=
  match changed with
  | .ok (some changed) => (.ok (.bool true), changed)
  | .ok none => (.ok (.bool false), g)
  | .error failure => (.error failure, g)

def lookUp (g : Graph) (userId : UserId) : Except Failure Bool := do
  userId.requireHashable
  pure (g.hasUser userId)

/-- The graph with one more edge, the first user looked up before the second. -/
def createEdge (g : Graph) (e : Edge) : Except Failure (Option Graph) := do
  if !(← g.lookUp e.source) then pure none
  else if !(← g.lookUp e.target) then pure none
  else pure (g.addEdge? e)

def updateUser (g : Graph) (user : UserNode) : Except Failure (Option Graph) := do
  if ← g.lookUp user.userId then pure (some (g.upsert user)) else pure none

def readTags (tags : Json) : Except Failure (List Json) := do
  let items ← tags.items
  items.forM Json.requireHashable
  pure items

def replaceInterests (g : Graph) (userId : UserId) (tags : Json) :
    Except Failure (Option Graph) := do
  if ← g.lookUp userId then
    let tags ← readTags tags
    pure (some (g.setInterests userId tags))
  else pure none

def reading (g : Graph) (answer : Except Failure Value) : Except Failure Value × Graph :=
  (answer, g)

def listing (g : Graph) (nodes : Except Failure (List UserNode)) : Except Failure Value × Graph :=
  g.reading (nodes.map .users)

/-- The user as read after an insertion or update. -/
def readBack (g : Graph) (user : UserNode) : UserNode := (g.findNode user.userId).getD user

def answer (g : Graph) : GraphCall → Except Failure Value × Graph
  | .findNode userId => g.reading do
    userId.requireHashable
    pure (.ofUser? (g.findNode userId))
  | .relationshipExists source target kind =>
    g.reading (.ok (.bool (g.hasEdge ⟨source, target, kind⟩)))
  | .createEdge source target kind => g.written (g.createEdge ⟨source, target, kind⟩)
  | .deleteEdge source target kind => g.written (.ok (g.removeEdge? ⟨source, target, kind⟩))
  | .pagedNeighbors userId kind direction page limit =>
    g.listing (g.nodePage (g.neighbors kind direction userId) page limit)
  | .secondDegree userId page limit => g.listing (g.nodePage (g.secondDegreeIds userId) page limit)
  | .thirdDegree userId page limit => g.listing (g.nodePage (g.thirdDegreeIds userId) page limit)
  | .secondDegreeCount userId => g.reading (.ok (.int (g.secondDegreeIds userId).length))
  | .commonConnection source target => g.listing (g.nodes (g.commonIds source target))
  | .substringSearch userId direction query page limit =>
    g.listing (g.search userId direction query page limit)
  | .sharedInterestUsers userId page limit => g.listing do
    userId.requireHashable
    g.nodePage (g.sharingIds userId) page limit
  | .upsertUserNode user =>
    match user.userId.requireHashable with
    | .error failure => (.error failure, g)
    | .ok () =>
      let g := g.upsert user
      (.ok (.user (g.readBack user)), g)
  | .updateUserNode user => g.written (g.updateUser user)
  | .setUserInterests userId tags => g.written (g.replaceInterests userId tags)
  | .listUserInterests userId => g.reading do
    userId.requireHashable
    pure (.plain (.arr (g.interestsOf userId)))

end FollowGraph.Graph
