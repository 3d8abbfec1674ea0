import FollowGraph.Http.Target

/-!
The routes: which endpoint a method and a path lead to.

The first route that fits both decides. A path that fits a route of another method only is not
allowed; one that would fit a route without the slashes at its end is redirected there.
-/

set_option autoImplicit false

namespace FollowGraph.Http

inductive Endpoint where
  | document
  | health
  | createUser
  | updateUser
  | getUser
  | follow
  | unfollow
  | removeFollower
  | block
  | unblock
  | followers
  | following
  | blocked
  | mutual
  | searchFollowers
  | searchFollowing
  | suggestions
  | interestSuggestions
  | setInterests
  | getInterests
  deriving DecidableEq, Repr

/-- A segment of a route: fixed, or the place of a user's id. -/
inductive Segment where
  | fixed (text : String)
  | userId
  deriving DecidableEq, Repr

structure Route where
  methods : List String
  path : List Segment
  endpoint : Endpoint
  deriving DecidableEq, Repr

def routes : List Route := [
  ⟨["GET", "HEAD"], [.fixed "openapi.json"], .document⟩,
  ⟨["GET", "HEAD"], [.fixed "docs"], .document⟩,
  ⟨["GET", "HEAD"], [.fixed "docs", .fixed "oauth2-redirect"], .document⟩,
  ⟨["GET", "HEAD"], [.fixed "redoc"], .document⟩,
  ⟨["GET"], [.fixed "health"], .health⟩,
  ⟨["POST"], [.fixed "users"], .createUser⟩,
  ⟨["PUT"], [.fixed "users", .userId], .updateUser⟩,
  ⟨["GET"], [.fixed "users", .userId], .getUser⟩,
  ⟨["POST"], [.fixed "follow", .userId], .follow⟩,
  ⟨["DELETE"], [.fixed "follow", .userId], .unfollow⟩,
  ⟨["DELETE"], [.fixed "followers", .userId], .removeFollower⟩,
  ⟨["POST"], [.fixed "block", .userId], .block⟩,
  ⟨["DELETE"], [.fixed "block", .userId], .unblock⟩,
  ⟨["GET"], [.fixed "users", .userId, .fixed "followers"], .followers⟩,
  ⟨["GET"], [.fixed "users", .userId, .fixed "following"], .following⟩,
  ⟨["GET"], [.fixed "blocked"], .blocked⟩,
  ⟨["GET"], [.fixed "mutual", .userId], .mutual⟩,
  ⟨["GET"], [.fixed "followers", .fixed "search"], .searchFollowers⟩,
  ⟨["GET"], [.fixed "following", .fixed "search"], .searchFollowing⟩,
  ⟨["GET"], [.fixed "suggestions"], .suggestions⟩,
  ⟨["GET"], [.fixed "suggestions", .fixed "interests"], .interestSuggestions⟩,
  ⟨["PUT"], [.fixed "interests"], .setInterests⟩,
  ⟨["GET"], [.fixed "interests"], .getInterests⟩]

/-- The ids at the places of a route's path, if a path fits it. A line end after the last fixed
segment is passed over. -/
def matchPath : List Segment → List (List Char) → Option (List String)
  | [], [] => some []
  | .userId :: pattern, segment :: rest =>
    if segment.isEmpty then none
    else (matchPath pattern rest).map (String.ofList segment :: ·)
  | .fixed text :: pattern, segment :: rest =>
    if segment == text.toList || (pattern.isEmpty && segment == text.toList ++ ['\n']) then
      matchPath pattern rest
    else none
  | _, _ => none

inductive Destination where
  | endpoint (endpoint : Endpoint) (ids : List String)
  | wrongMethod
  | redirect
  | nowhere
  deriving DecidableEq, Repr

/-- The segments of a path without the slashes at its end. -/
def dropSlashes (segments : List (List Char)) : List (List Char) :=
  (segments.reverse.dropWhile (·.isEmpty)).reverse

def fitsSomeRoute (segments : List (List Char)) : Bool :=
  routes.any fun r => (matchPath r.path segments).isSome

def destination (method : String) (segments : List (List Char)) : Destination :=
  let fitting := routes.filterMap fun r => (matchPath r.path segments).map fun ids => (r, ids)
  match fitting.find? fun (r, _) => r.methods.contains method with
  | some (r, ids) => .endpoint r.endpoint ids
  | none =>
    -- A path that fits as it stands is not redirected, whatever its method.
    if !fitting.isEmpty then .wrongMethod
    else if segments.getLast? == some [] && fitsSomeRoute (dropSlashes segments) then .redirect
    else .nowhere

end FollowGraph.Http
