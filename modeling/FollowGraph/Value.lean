import FollowGraph.Json.Sequence
import FollowGraph.UserNode

/-!
Values: what stores answer and what envelopes carry.

A value is plain JSON, a list, tuple or record of values, or an entity: a user, an annotated user,
or a page of entities. `Value.render` replaces every entity by its members and leaves everything
else as it is, so a rendered value is plain JSON. The other functions ask of a value what the
services ask of an answer, whatever it is; the answer can be of a kind that has no such thing.
-/

set_option autoImplicit false

namespace FollowGraph

/-- How much of a list a page shows. -/
structure PageMeta where
  total : Json
  page : Json
  limit : Json
  isLastPage : Json
  deriving DecidableEq

def PageMeta.toJson (m : PageMeta) : Json :=
  .obj [("total", m.total), ("page", m.page), ("limit", m.limit), ("is_last_page", m.isLastPage)]

inductive Entity where
  | user (node : UserNode)
  | enriched (user : EnrichedUser)
  | page (users : List Entity) (pageMeta : Option PageMeta)

namespace Entity

mutual

def toJson : Entity → Json
  | .user u => u.toJson
  | .enriched u => u.toJson
  | .page users pageMeta =>
    .obj [("users", .arr (listToJson users)),
      ("meta", (pageMeta.map PageMeta.toJson).getD .null)]

def listToJson : List Entity → List Json
  | [] => []
  | e :: rest => toJson e :: listToJson rest

end

theorem listToJson_eq_map (users : List Entity) : listToJson users = users.map toJson := by
  induction users with
  | nil => rfl
  | cons e rest ih => simp [listToJson, ih]

def kindName : Entity → String
  | .user _ => "UserNode"
  | .enriched _ => "EnrichedUser"
  | .page _ _ => "PaginatedUsers"

/-- The id of a user; a page has none. -/
def userId : Entity → Except Failure UserId
  | .user u => .ok u.userId
  | .enriched u => .ok u.user.userId
  | .page users pageMeta => .error (.noProperty (page users pageMeta).kindName "user_id")

end Entity

inductive Value where
  | plain (value : Json)
  | list (items : List Value)
  /-- A list of fixed length; it renders as a list. -/
  | tuple (items : List Value)
  | record (members : List (String × Value))
  | entity (entity : Entity)

namespace Value

def null : Value := .plain .null

def bool (b : Bool) : Value := .plain (.bool b)

def int (n : Int) : Value := .plain (.int n)

def user (node : UserNode) : Value := .entity (.user node)

def ofUser? : Option UserNode → Value
  | some node => user node
  | none => null

def users (nodes : List UserNode) : Value := .list (nodes.map user)

def enriched (users : List EnrichedUser) : Value := .list (users.map fun u => .entity (.enriched u))

/-! ## Rendering -/

mutual

def render : Value → Json
  | .plain value => value
  | .list items => .arr (renderItems items)
  | .tuple items => .arr (renderItems items)
  | .record members => .obj (renderMembers members)
  | .entity e => e.toJson

def renderItems : List Value → List Json
  | [] => []
  | item :: rest => render item :: renderItems rest

def renderMembers : List (String × Value) → List (String × Json)
  | [] => []
  | (key, value) :: rest => (key, render value) :: renderMembers rest

end

/-! ## Asking a value -/

def isNull : Value → Bool
  | .plain .null => true
  | _ => false

/-- A value that counts as no value: falsy JSON, and what has no items. -/
def isFalsy : Value → Bool
  | .plain value => value.isFalsy
  | .list items | .tuple items => items.isEmpty
  | .record members => members.isEmpty
  | .entity _ => false

def kindName : Value → String
  | .plain value => value.kindName
  | .list _ => "list"
  | .tuple _ => "tuple"
  | .record _ => "dict"
  | .entity e => e.kindName

def items : Value → Except Failure (List Value)
  | .plain value => List.map plain <$> value.items
  | .list items | .tuple items => .ok items
  | .record members => .ok (members.map fun m => .plain (.str m.1))
  | .entity e => .error (.notIterable e.kindName)

def length : Value → Except Failure Nat
  | .plain value => value.length
  | .list items | .tuple items => .ok items.length
  | .record members => .ok members.length
  | .entity e => .error (.noLength e.kindName)

/-- The user that a value must be for its property of some name to be read. -/
def node (property : String) : Value → Except Failure UserNode
  | .entity (.user u) => .ok u
  | .entity (.enriched u) => .ok u.user
  | value => .error (.noProperty value.kindName property)

/-- The annotated users among the items of a list. -/
def enrichedItems : List Value → List Entity
  | [] => []
  | .entity (.enriched u) :: rest => .enriched u :: enrichedItems rest
  | _ :: rest => enrichedItems rest

@[simp] theorem items_users (nodes : List UserNode) :
    (users nodes).items = .ok (nodes.map user) := rfl

@[simp] theorem length_users (nodes : List UserNode) :
    (users nodes).length = .ok nodes.length := by simp [users, length]

theorem enrichedItems_enriched (users : List EnrichedUser) :
    enrichedItems (users.map fun u => .entity (.enriched u)) = users.map .enriched := by
  induction users with
  | nil => rfl
  | cons u rest ih => exact congrArg (_ :: ·) ih

end Value
end FollowGraph
