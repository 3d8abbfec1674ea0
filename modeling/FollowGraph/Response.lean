import FollowGraph.Json.Order
import FollowGraph.Value

/-!
The envelope that every public operation answers with, and how it is rendered.
-/

set_option autoImplicit false

namespace FollowGraph

/-- The uniform result of a public operation. Null data and a null error are none. -/
structure Response where
  success : Bool
  statusCode : Int
  message : Json
  data : Value
  error : Json

namespace Response

def ok (message : String) (data : Value) : Response :=
  { success := true, statusCode := 200, message := .str message, data, error := .null }

def fail (statusCode : Int) (message : String) (data : Value) : Response :=
  { success := false, statusCode, message := .str message, data, error := .null }

def badRequest (message : String) : Response := fail 400 message .null

def forbidden (message : String) : Response := fail 403 message .null

def notFound (message : String) : Response := fail 404 message .null

def internalError (message : String) : Response := fail 500 message .null

/-- A page of users with what the page shows of the whole. -/
def paginated (message : String) (users : List EnrichedUser) (pageMeta : PageMeta) : Response :=
  ok message (.entity (.page (users.map .enriched) (some pageMeta)))

/-- The users of a page or list; none for any other data. -/
def users (r : Response) : List Entity :=
  match r.data with
  | .entity (.page users _) => users
  | .list items => Value.enrichedItems items
  | _ => []

def pageMeta (r : Response) : Option PageMeta :=
  match r.data with
  | .entity (.page _ pageMeta) => pageMeta
  | _ => none

/-- The rendered envelope. Data and error have no member when there are none. -/
def toJson (r : Response) : Json :=
  .obj ([("success", .bool r.success), ("statusCode", .int r.statusCode),
      ("message", r.message)] ++
    (if r.data.isNull then [] else [("data", r.data.render)]) ++
    (if r.error = .null then [] else [("error", r.error)]))

end Response

/-- The refusal of a page or limit that no list has, if it is one. -/
def checkPagination (page limit : Json) : Except Failure (Option Response) := do
  let refusal := Response.badRequest "page must be >= 0 and limit must be >= 1"
  if ← page.lessThan (.int 0) then pure (some refusal)
  else if ← limit.lessThan (.int 1) then pure (some refusal)
  else pure none

/-- What a page with some users on it says of itself: one that is not full is the last. -/
def pageMetaOf (shown : Value) (page limit : Json) : Except Failure PageMeta := do
  let total ← shown.length
  let isLastPage ← (Json.int total).lessThan limit
  pure { total := .int total, page, limit, isLastPage := .bool isLastPage }

end FollowGraph
