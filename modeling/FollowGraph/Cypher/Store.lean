import FollowGraph.Call
import FollowGraph.Cypher.Exchange
import FollowGraph.Json.Arithmetic

/-!
The graph of users kept in a database.

Each operation opens one session, or none when it fails before. Relationships and directions come
as any values here: only an exact relationship is taken, and any direction but the outgoing one
counts as incoming.
-/

set_option autoImplicit false

namespace FollowGraph.Cypher

def userOf (record : Record) : Except Failure UserNode := do
  let node ← record.value "u"
  let properties ← node.toMembers
  UserNode.ofProperties properties

namespace Store

def ensureConstraints : Exchange Unit :=
  Exchange.inSession do
    let _ ← Exchange.query .session .userConstraint []
    let _ ← Exchange.query .session .interestConstraint []
    pure ()

/-- A statement is handed over as `query`, beside its parameters under their own names: a parameter
of that name would be a second one. -/
def unambiguous (parameters : List (String × Json)) : Except Failure Unit :=
  if (parameters.lookup "query").isSome then .error .ambiguousQuery else .ok ()

def fetchUsers (statement : Statement) (parameters : List (String × Json)) : Exchange Value := do
  Exchange.ofExcept (unambiguous parameters)
  Exchange.inSession do
    let records ← Exchange.query .session statement parameters
    Value.users <$> Exchange.ofExcept (records.mapM userOf)

/-- The number under a key of the first record; zero without one. -/
def fetchCount (statement : Statement) (key : String) (parameters : List (String × Json)) :
    Exchange Int := do
  match firstFilled? (← Exchange.sessionQuery statement parameters) with
  | none => pure 0
  | some record =>
    Exchange.ofExcept do
      let value ← record.value key
      value.toInteger

/-- Whether the number under a key of the first record is positive. -/
def fetchChange (statement : Statement) (key : String) (parameters : List (String × Json)) :
    Exchange Value := do
  let changed ← fetchCount statement key parameters
  pure (.bool (decide (0 < changed)))

def ends (source target : UserId) : List (String × Json) :=
  [("from_id", source), ("to_id", target)]

def paging (userId : UserId) (page limit : Json) : Exchange (List (String × Json)) := do
  let skipped ← Exchange.ofExcept (page.product limit)
  pure [("user_id", userId), ("skip", skipped), ("limit", limit)]

def profile (user : UserNode) : List (String × Json) :=
  ("user_id", user.userId) :: user.profile.toProperties

def findNode (userId : UserId) : Exchange Value := do
  match firstFilled? (← Exchange.sessionQuery .findNode [("user_id", userId)]) with
  | none => pure .null
  | some record => Value.user <$> Exchange.ofExcept (userOf record)

def relationshipExists (source target : UserId) (kind : Json) : Exchange Value := do
  let kind ← Exchange.ofExcept (Relationship.ofJson kind)
  match firstFilled? (← Exchange.sessionQuery (.relationshipExists kind) (ends source target)) with
  | none => pure (.bool false)
  | some record =>
    let found ← Exchange.ofExcept (record.value "found")
    pure (.bool !found.isFalsy)

def createEdge (source target : UserId) (kind : Json) : Exchange Value := do
  let kind ← Exchange.ofExcept (Relationship.ofJson kind)
  fetchChange (.createEdge kind) "created" (ends source target)

def deleteEdge (source target : UserId) (kind : Json) : Exchange Value := do
  let kind ← Exchange.ofExcept (Relationship.ofJson kind)
  fetchChange (.deleteEdge kind) "deleted" (ends source target)

def pagedNeighbors (userId : UserId) (kind direction page limit : Json) : Exchange Value := do
  let kind ← Exchange.ofExcept (Relationship.ofJson kind)
  let statement :=
    if direction == .str Direction.outgoing.value then Statement.outgoing kind
    else Statement.incoming kind
  fetchUsers statement (← paging userId page limit)

def secondDegree (userId : UserId) (page limit : Json) : Exchange Value := do
  fetchUsers .secondDegree (← paging userId page limit)

def thirdDegree (userId : UserId) (page limit : Json) : Exchange Value := do
  fetchUsers .thirdDegree (← paging userId page limit)

def secondDegreeCount (userId : UserId) : Exchange Value := do
  let total ← fetchCount .secondDegreeCount "total" [("user_id", userId)]
  pure (.int total)

def commonConnection (source target : UserId) : Exchange Value :=
  fetchUsers .commonConnection (ends source target)

def substringSearch (userId : UserId) (direction query page limit : Json) : Exchange Value := do
  let statement :=
    if direction == .str Direction.outgoing.value then Statement.searchFollowing
    else Statement.searchFollowers
  let skipped ← Exchange.ofExcept (page.product limit)
  fetchUsers statement
    [("user_id", userId), ("query", query), ("skip", skipped), ("limit", limit)]

def sharedInterestUsers (userId : UserId) (page limit : Json) : Exchange Value := do
  fetchUsers .sharedInterest (← paging userId page limit)

def upsertUserNode (user : UserNode) : Exchange Value := do
  match ← Exchange.sessionQuery .upsertUser (profile user) with
  | [] => Exchange.ofExcept (.error .noRecord)
  | record :: _ => Value.user <$> Exchange.ofExcept (userOf record)

def updateUserNode (user : UserNode) : Exchange Value := do
  let records ← Exchange.sessionQuery .updateUser (profile user)
  pure (.bool !records.isEmpty)

/-- Takes away a user's tags and adds others, in one transaction. -/
def setUserInterests (userId : UserId) (tags : Json) : Exchange Value :=
  Exchange.inSession do
    let tags ← Exchange.ofExcept tags.items
    -- Clearing answers how many users there are with the id: without one nothing is added.
    match ← Exchange.query .transaction .clearInterests [("user_id", userId)] with
    | [] => Exchange.ofExcept (.error .noRecord)
    | record :: _ =>
      let found ← Exchange.ofExcept (record.value "found")
      if found.isFalsy then pure (.bool false)
      else if tags.isEmpty then pure (.bool true)
      else
        let _ ← Exchange.query .transaction .addInterests
          [("user_id", userId), ("interests", .arr tags)]
        pure (.bool true)

def listUserInterests (userId : UserId) : Exchange Value :=
  Exchange.inSession do
    let records ← Exchange.query .session .listInterests [("user_id", userId)]
    let names ← Exchange.ofExcept (records.mapM fun record => record.value "name")
    pure (.plain (.arr names))

def answer : GraphCall → Exchange Value
  | .findNode userId => findNode userId
  | .relationshipExists source target kind => relationshipExists source target (.str kind.value)
  | .createEdge source target kind => createEdge source target (.str kind.value)
  | .deleteEdge source target kind => deleteEdge source target (.str kind.value)
  | .pagedNeighbors userId kind direction page limit =>
    pagedNeighbors userId (.str kind.value) (.str direction.value) page limit
  | .secondDegree userId page limit => secondDegree userId page limit
  | .thirdDegree userId page limit => thirdDegree userId page limit
  | .secondDegreeCount userId => secondDegreeCount userId
  | .commonConnection source target => commonConnection source target
  | .substringSearch userId direction query page limit =>
    substringSearch userId (.str direction.value) query page limit
  | .sharedInterestUsers userId page limit => sharedInterestUsers userId page limit
  | .upsertUserNode user => upsertUserNode user
  | .updateUserNode user => updateUserNode user
  | .setUserInterests userId tags => setUserInterests userId tags
  | .listUserInterests userId => listUserInterests userId

end Store
end FollowGraph.Cypher
