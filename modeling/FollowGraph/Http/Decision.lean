import FollowGraph.Http.Body
import FollowGraph.Http.Content
import FollowGraph.Http.Route
import FollowGraph.Service.Operation

/-!
What becomes of a request: it is rejected, or one public operation answers it.

`decide` looks at the request alone and at whether the services are there; only an operation
reaches the stores. A request is rejected for the first of these reasons that holds: no route; a
wrong type in query or body; a blank id in the body, or one that is not the path's; no services;
no acting user.

A reply is sent as JSON text. One that cannot be sent makes the whole request fail. Nothing is
assumed of whoever sent the request: what a client refuses to send is its own affair.
-/

set_option autoImplicit false

namespace FollowGraph.Http

/-- A request as the service receives it. -/
structure Request where
  method : String
  /-- The path with its percent signs resolved. -/
  path : String
  /-- What stands after the question mark, percent signs and all. -/
  query : String
  /-- The acting user, as the header names it. Headers are octets, each of which is read as the
  character of its number. -/
  user : Option String
  body : Option Body

def Request.target (r : Request) : Target := Target.ofParts r.path r.query

inductive Rejection where
  | notFound
  | wrongMethod
  | redirect
  | invalid (errors : List FieldError)
  | unreadableBody
  | refusedBody (failure : Failure)
  | idMismatch
  | noServices
  | noUser

/-- What a request asks for. -/
inductive Action where
  | document
  | health
  | operation (op : Operation)

/-- An answer: a status and a body, null when there is none; or the errors of the request. -/
inductive Reply where
  | content (status : Int) (body : Json)
  | invalid (errors : List FieldError)
  deriving DecidableEq

def Reply.status : Reply → Int
  | .content status _ => status
  | .invalid _ => 422

def detail (status : Int) (text : String) : Reply :=
  .content status (.obj [("detail", .str text)])

def Rejection.reply : Rejection → Reply
  | .notFound => detail 404 "Not Found"
  | .wrongMethod => detail 405 "Method Not Allowed"
  | .redirect => .content 307 .null
  | .invalid errors => .invalid errors
  | .unreadableBody => detail 400 "There was an error parsing the body"
  | .refusedBody failure => .content 400 (Response.badRequest failure.message).toJson
  | .idMismatch => detail 400 "user_id mismatch"
  | .noServices => detail 503 "Services not initialised"
  | .noUser => detail 401 "X-User-Id header is required"

def requireServices (attached : Bool) : Except Rejection Unit :=
  if attached then .ok () else .error .noServices

/-- The acting user: the header's text without the blanks around it. -/
def actingUser (r : Request) : Except Rejection String :=
  let user := Text.strip (r.user.getD "")
  if user.isEmpty then .error .noUser else .ok user

def serving (attached : Bool) (r : Request) : Except Rejection String := do
  requireServices attached
  actingUser r

/-- A typed value, or a rejection with all its errors. -/
def typed {α : Type} (value : Except (List FieldError) α) : Except Rejection α :=
  value.mapError .invalid

def bodyOf (r : Request) : Except Rejection (Option Json) :=
  (Body.read r.body).mapError fun
    | .invalid errors => .invalid errors
    | .unreadable => .unreadableBody

def nodeOf (r : Request) : Except Rejection UserNode := do
  let body ← bodyOf r
  let user ← typed (UserBody.ofJson body)
  user.toNode.mapError .refusedBody

def paged (attached : Bool) (r : Request) (op : Int → Int → Operation) :
    Except Rejection Operation := do
  let (page, limit) ← typed (pageParameters r.target)
  requireServices attached
  pure (op page limit)

def pagedByUser (attached : Bool) (r : Request)
    (op : String → Int → Int → Operation) : Except Rejection Operation := do
  let (page, limit) ← typed (pageParameters r.target)
  let user ← serving attached r
  pure (op user page limit)

def searchByUser (attached : Bool) (r : Request)
    (op : String → String → Int → Int → Operation) : Except Rejection Operation := do
  let parameters : Except (List FieldError) (String × Int × Int) :=
    match textParameter r.target "q", pageParameters r.target with
    | .ok query, .ok (page, limit) => .ok (query, page, limit)
    | query, pages => .error (errorsOf query ++ (errorsOf pages).flatten)
  let (query, page, limit) ← typed parameters
  let user ← serving attached r
  pure (op user query page limit)

/-- The operation of an endpoint; `userId` is the id in the path, empty where there is none. -/
def operationOf (attached : Bool) (r : Request) (userId : String) :
    Endpoint → Except Rejection Action
  | .document => .ok .document
  | .health => .ok .health
  | .createUser => do
    let node ← nodeOf r
    requireServices attached
    pure (.operation (.createUser node))
  | .updateUser => do
    -- The body is judged before the services are looked for.
    let node ← nodeOf r
    if node.userId ≠ .str userId then .error .idMismatch
    else
      requireServices attached
      pure (.operation (.updateUser node))
  | .getUser => do
    requireServices attached
    pure (.operation (.getUser userId))
  | .follow => do
    let user ← serving attached r
    pure (.operation (.follow user userId))
  | .unfollow => do
    let user ← serving attached r
    pure (.operation (.unfollow user userId))
  | .removeFollower => do
    let user ← serving attached r
    pure (.operation (.removeFollower user userId))
  | .block => do
    let user ← serving attached r
    pure (.operation (.block user userId))
  | .unblock => do
    let user ← serving attached r
    pure (.operation (.unblock user userId))
  | .followers => .operation <$> paged attached r (.getFollowers userId)
  | .following => .operation <$> paged attached r (.getFollowing userId)
  | .blocked => .operation <$> pagedByUser attached r .getBlocked
  | .mutual => do
    let user ← serving attached r
    pure (.operation (.mutualFollowers user userId))
  | .searchFollowers => .operation <$> searchByUser attached r .searchFollowers
  | .searchFollowing => .operation <$> searchByUser attached r .searchFollowing
  | .suggestions => .operation <$> pagedByUser attached r .getSuggestions
  | .interestSuggestions => .operation <$> pagedByUser attached r .getInterestSuggestions
  | .setInterests => do
    let body ← bodyOf r
    let tags ← typed (interestsOfBody body)
    let user ← serving attached r
    pure (.operation (.setInterests user tags))
  | .getInterests => do
    let user ← serving attached r
    pure (.operation (.getInterests user))

def decide (attached : Bool) (r : Request) : Except Rejection Action :=
  match destination r.method r.target.segments with
  | .endpoint endpoint ids => operationOf attached r (ids.headD "") endpoint
  | .wrongMethod => .error .wrongMethod
  | .redirect => .error .redirect
  | .nowhere => .error .notFound

def replyOf (response : Response) : Reply := .content response.statusCode response.toJson

def Action.program : Action → Attempt Reply
  | .document => pure (.content 200 .null)
  | .health => pure (.content 200 (.obj [("status", .str "ok")]))
  | .operation op => replyOf <$> op.program

/-- What the service makes of a request. -/
def reply (attached : Bool) (r : Request) : Attempt Reply :=
  match decide attached r with
  | .error rejection => pure rejection.reply
  | .ok action => action.program

def Reply.sent : Reply → Json
  | .content _ body => body
  | .invalid errors => .obj [("detail", .arr (errors.map FieldError.detail))]

/-- The reply once it has been written as JSON text, if it can be. -/
def answer (attached : Bool) (r : Request) : Attempt Reply := do
  let reply ← reply attached r
  Attempt.ofExcept (requireContent reply.sent)
  pure reply

end FollowGraph.Http
