import FollowGraph.Service.Block
import FollowGraph.Service.Interests
import FollowGraph.Service.Search
import FollowGraph.Service.Suggestions
import FollowGraph.Service.Users

/-!
The public operations as values, and the program of each. A run of the library is a list of
operations; the HTTP surface chooses one for each request. Ids are texts here, and pages and limits
integers.
-/

set_option autoImplicit false

namespace FollowGraph

inductive Operation where
  | createUser (user : UserNode)
  | updateUser (user : UserNode)
  | getUser (userId : String)
  | follow (source target : String)
  | unfollow (source target : String)
  | removeFollower (user follower : String)
  | getFollowing (userId : String) (page limit : Int)
  | getFollowers (userId : String) (page limit : Int)
  | block (source target : String)
  | unblock (source target : String)
  | getBlocked (userId : String) (page limit : Int)
  | mutualFollowers (source target : String)
  | searchFollowers (userId query : String) (page limit : Int)
  | searchFollowing (userId query : String) (page limit : Int)
  | getSuggestions (viewer : String) (page limit : Int)
  | setInterests (userId : String) (tags : List Json)
  | getInterests (userId : String)
  | getInterestSuggestions (viewer : String) (page limit : Int)
  deriving DecidableEq

/-- The program of an operation. It has a response whatever the stores do, as long as they answer
each call with a value of the kind that it is meant to have. -/
def Operation.program : Operation → Attempt Response
  | .createUser user => Attempt.always (Users.create user)
  | .updateUser user => Attempt.always (Users.update user)
  | .getUser userId => Attempt.always (Users.get (.str userId))
  | .follow source target => Attempt.always (Follow.follow (.str source) (.str target))
  | .unfollow source target => Attempt.always (Follow.unfollow (.str source) (.str target))
  | .removeFollower user follower =>
    Attempt.always (Follow.removeFollower (.str user) (.str follower))
  | .getFollowing userId page limit => Follow.getFollowing (.str userId) (.int page) (.int limit)
  | .getFollowers userId page limit => Follow.getFollowers (.str userId) (.int page) (.int limit)
  | .block source target => Attempt.always (Block.block (.str source) (.str target))
  | .unblock source target => Attempt.always (Block.unblock (.str source) (.str target))
  | .getBlocked userId page limit => Block.getBlocked (.str userId) (.int page) (.int limit)
  | .mutualFollowers source target =>
    Attempt.always (Search.mutualFollowers (.str source) (.str target))
  | .searchFollowers userId query page limit =>
    Search.searchFollowers (.str userId) (.str query) (.int page) (.int limit)
  | .searchFollowing userId query page limit =>
    Search.searchFollowing (.str userId) (.str query) (.int page) (.int limit)
  | .getSuggestions viewer page limit =>
    Suggestions.getSuggestions (.str viewer) (.int page) (.int limit)
  | .setInterests userId tags => Interests.set (.str userId) (.arr tags)
  | .getInterests userId => Interests.get (.str userId)
  | .getInterestSuggestions viewer page limit =>
    Interests.getSuggestions (.str viewer) (.int page) (.int limit)

end FollowGraph
