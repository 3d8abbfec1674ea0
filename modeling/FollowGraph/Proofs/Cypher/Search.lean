import FollowGraph.Application
import FollowGraph.Proofs.Service.Searches

/-!
# Listings of users through the database

Six operations list users, and all of them go the same way: `Store.fetchUsers` with a statement and
its parameters (`Store.answer_listing`). What that comes to depends on the names of the parameters
alone (`Store.run_fetchUsers`). Under other names than the statement's own, one statement is run in
one session, and the nodes of its records come back in order. The two searches, and no other listing,
have a parameter of the statement's name (`Store.Lists.run_eq_iff`); they fail before a session is
opened, whatever the database would have answered, and a search of a user's lists is then answered
as an internal error.
-/

set_option autoImplicit false

namespace FollowGraph

namespace Cypher

variable {α β : Type} (db : Database)

/-! ## How an exchange runs -/

namespace Exchange

@[simp] theorem run_ofExcept (value : Except Failure α) :
    (ofExcept value).run.run db = (value, db) := rfl

theorem run_bind (x : Exchange α) (f : α → Exchange β) :
    (x >>= f).run.run db =
      match x.run.run db with
      | (.ok a, db) => (f a).run.run db
      | (.error failure, db) => (.error failure, db) := by
  rw [ExceptT.run_bind, StateT.run_bind]
  rcases x.run.run db with ⟨failure | a, db⟩ <;> rfl

theorem run_inSession (x : Exchange α) :
    (inSession x).run.run db =
      ((x.run.run { db with opened := db.opened + 1 }).1,
        { (x.run.run { db with opened := db.opened + 1 }).2 with
          left := (x.run.run { db with opened := db.opened + 1 }).2.left + 1 }) := rfl

theorem run_map_ofExcept (f : α → β) (value : Except Failure α) :
    (f <$> ofExcept value).run.run db = (value.map f, db) := by cases value <;> rfl

end Exchange

/-- What the database has ready for the next statement. -/
def Database.offered : Except Failure (List Record) :=
  match db.script with
  | [] => .ok []
  | .records rows :: _ => .ok rows
  | .fail failure :: _ => .error failure

/-- The database after one statement in a session of its own. -/
def Database.visited (statement : Statement) (parameters : List (String × Json)) : Database :=
  { script := db.script.tail
    queries := db.queries ++ [{ channel := .session, statement, parameters }]
    opened := db.opened + 1
    left := db.left + 1 }

theorem Exchange.run_query (channel : Channel) (statement : Statement)
    (parameters : List (String × Json)) :
    (query channel statement parameters).run.run db =
      (db.offered, { db with
        script := db.script.tail
        queries := db.queries ++ [{ channel, statement, parameters }] }) := by
  obtain ⟨script, queries, opened, left⟩ := db
  rcases script with _ | ⟨_ | _, rest⟩ <;> rfl

namespace Store

/-- **What a listing comes to.** A parameter of the statement's own name ends it before a session is
opened. Otherwise one statement is run, and the nodes of its records come back in order. -/
theorem run_fetchUsers (statement : Statement) (parameters : List (String × Json)) :
    (fetchUsers statement parameters).run.run db =
      if (parameters.lookup "query").isSome then (.error .ambiguousQuery, db)
      else ((db.offered.bind (·.mapM userOf)).map .users, db.visited statement parameters) := by
  unfold fetchUsers
  rw [Exchange.run_bind, Exchange.run_ofExcept, unambiguous]
  by_cases named : (parameters.lookup "query").isSome = true
  · rw [if_pos named, if_pos named]
  · rw [if_neg named, if_neg named]
    have same : ({ db with opened := db.opened + 1 } : Database).offered = db.offered := rfl
    simp only [Exchange.run_inSession, Exchange.run_bind, Exchange.run_query, same,
      Exchange.run_map_ofExcept]
    cases db.offered with
    | error failure => rfl
    | ok records => rfl

/-! ## Listings -/

/-- The statement of a listing of users, and its parameters. -/
inductive Lists : GraphCall → Statement → List (String × Json) → Prop
  | outgoing (userId : UserId) (kind : Relationship) (page limit : Int) :
    Lists (.pagedNeighbors userId kind .outgoing (.int page) (.int limit)) (.outgoing kind)
      [("user_id", userId), ("skip", .int (page * limit)), ("limit", .int limit)]
  | incoming (userId : UserId) (kind : Relationship) (page limit : Int) :
    Lists (.pagedNeighbors userId kind .incoming (.int page) (.int limit)) (.incoming kind)
      [("user_id", userId), ("skip", .int (page * limit)), ("limit", .int limit)]
  | secondDegree (userId : UserId) (page limit : Int) :
    Lists (.secondDegree userId (.int page) (.int limit)) .secondDegree
      [("user_id", userId), ("skip", .int (page * limit)), ("limit", .int limit)]
  | thirdDegree (userId : UserId) (page limit : Int) :
    Lists (.thirdDegree userId (.int page) (.int limit)) .thirdDegree
      [("user_id", userId), ("skip", .int (page * limit)), ("limit", .int limit)]
  | commonConnection (source target : UserId) :
    Lists (.commonConnection source target) .commonConnection
      [("from_id", source), ("to_id", target)]
  | sharedInterestUsers (userId : UserId) (page limit : Int) :
    Lists (.sharedInterestUsers userId (.int page) (.int limit)) .sharedInterest
      [("user_id", userId), ("skip", .int (page * limit)), ("limit", .int limit)]
  | searchFollowing (userId : UserId) (query : Json) (page limit : Int) :
    Lists (.substringSearch userId .outgoing query (.int page) (.int limit)) .searchFollowing
      [("user_id", userId), ("query", query), ("skip", .int (page * limit)), ("limit", .int limit)]
  | searchFollowers (userId : UserId) (query : Json) (page limit : Int) :
    Lists (.substringSearch userId .incoming query (.int page) (.int limit)) .searchFollowers
      [("user_id", userId), ("query", query), ("skip", .int (page * limit)), ("limit", .int limit)]

theorem answer_listing {call : GraphCall} {statement : Statement}
    {parameters : List (String × Json)} (lists : Lists call statement parameters) :
    answer call = fetchUsers statement parameters := by
  cases lists with
  | outgoing _ kind _ _ | incoming _ kind _ _ => cases kind <;> rfl
  | _ => rfl

/-- The parameters of the searches are the only ones that name their statement a second time. -/
theorem Lists.named_iff {call : GraphCall} {statement : Statement}
    {parameters : List (String × Json)} (lists : Lists call statement parameters) :
    (parameters.lookup "query").isSome = true ↔
      ∃ userId direction query page limit,
        call = .substringSearch userId direction query page limit := by
  cases lists with
  | searchFollowing | searchFollowers => exact ⟨fun _ => ⟨_, _, _, _, _, rfl⟩, fun _ => rfl⟩
  | _ =>
    refine ⟨nofun, ?_⟩
    rintro ⟨_, _, _, _, _, ⟨⟩⟩

theorem visited_ne (statement : Statement) (parameters : List (String × Json)) :
    db.visited statement parameters ≠ db := by
  intro same
  have opened : db.opened + 1 = db.opened := congrArg Database.opened same
  omega

/-- The listings that fail before they ask for anything are the searches. -/
theorem Lists.run_eq_iff {call : GraphCall} {statement : Statement}
    {parameters : List (String × Json)} (lists : Lists call statement parameters) :
    (answer call).run.run db = (.error .ambiguousQuery, db) ↔
      ∃ userId direction query page limit,
        call = .substringSearch userId direction query page limit := by
  rw [answer_listing lists, run_fetchUsers, ← lists.named_iff]
  by_cases named : (parameters.lookup "query").isSome = true
  · rw [if_pos named]
    exact ⟨fun _ => named, fun _ => rfl⟩
  · rw [if_neg named]
    exact ⟨fun same => absurd (congrArg Prod.snd same) (visited_ne db statement parameters),
      fun there => absurd there named⟩

theorem run_substringSearch (userId : UserId) (direction : Direction) (query : Json)
    (page limit : Int) :
    (answer (.substringSearch userId direction query (.int page) (.int limit))).run.run db =
      (.error .ambiguousQuery, db) := by
  cases direction with
  | outgoing =>
    exact ((Lists.searchFollowing userId query page limit).run_eq_iff db).2 ⟨_, _, _, _, _, rfl⟩
  | incoming =>
    exact ((Lists.searchFollowers userId query page limit).run_eq_iff db).2 ⟨_, _, _, _, _, rfl⟩

end Store
end Cypher

/-! ## Searches of a user's lists -/

/-- Where the search in the graph fails, the answer says no more than that. -/
theorem Search.run_searchNeighbors_of_failing {σ : Type} {b : Backend σ} {s t : σ}
    {userId : UserId} {direction : Direction} {query : String} {page limit : Int}
    {failure : Failure} (label capital : String) (paged : Response.ofPage? page limit = none)
    (asked : Text.isBlank query = false)
    (failed : b.answer (.graph (.substringSearch userId direction (.str (Text.strip query))
      (.int page) (.int limit))) s = (.error failure, t)) :
    (searchNeighbors userId direction (.str query) (.int page) (.int limit) label capital).on b s =
      (.ok (.internalError ("Failed to search " ++ label)),
        b.record ⟨.error, .search, "Failed to search " ++ label ++ " of " ++ userId.display ++
          ": " ++ failure.message⟩ t) := by
  have filled : (Text.strip query).isEmpty = false := by
    rw [Bool.eq_false_iff, ne_eq, String.isEmpty_iff, ← Text.isBlank_iff, asked]
    nofun
  unfold searchNeighbors
  simp only [Attempt.on_bind, checkPagination_int, Attempt.on_ofExcept, paged, needleOf_str, filled,
    Bool.false_eq_true, if_false, Attempt.on_always, Attempt.run_catching, Ask.substringSearch,
    Attempt.on_call, failed]
  rfl

namespace Application

theorem answer_graph (a : Application) (call : GraphCall) :
    a.answer (.graph call) = (((Cypher.Store.answer call).run.run a.database).1,
      { a with database := ((Cypher.Store.answer call).run.run a.database).2 }) := rfl

/-- **No search succeeds through the database.** Whatever the database is ready to answer, a search
of a user's lists for a text that is not blank asks it nothing: the search in the graph fails for
the name of a parameter, and the answer is an internal error. Nothing is left of it but a log
entry. -/
theorem search_fails (a : Application) (direction : Direction) (userId query : String)
    (page limit : Int) (notBefore : 0 ≤ page) (some_asked : 1 ≤ limit)
    (asked : Text.isBlank query = false) :
    (∀ needle, a.answer (.graph (.substringSearch (.str userId) direction needle (.int page)
      (.int limit))) = (.error .ambiguousQuery, a)) ∧
    ∃ entry, (direction.search userId query page limit).program.on backend a =
      (.ok (.internalError ("Failed to search " ++ direction.listed)),
        { a with world := a.world.record entry }) := by
  have fails (needle : Json) : a.answer (.graph (.substringSearch (.str userId) direction needle
      (.int page) (.int limit))) = (.error .ambiguousQuery, a) := by
    rw [answer_graph, Cypher.Store.run_substringSearch]
  have paged : Response.ofPage? page limit = none := if_neg (by omega)
  refine ⟨fails, ?_⟩
  cases direction with
  | outgoing =>
    exact ⟨_, Search.run_searchNeighbors_of_failing "following" "Following" paged asked
      (fails (.str (Text.strip query)))⟩
  | incoming =>
    exact ⟨_, Search.run_searchNeighbors_of_failing "followers" "Followers" paged asked
      (fails (.str (Text.strip query)))⟩

/-- A service whose database answers the first statement with one user. -/
def answering : Application :=
  .created .default [.records [[("u", .obj [("user_id", .str "joe"), ("username", .str "joe")])]]]

/-- Both searches fail on it alike. -/
theorem search_fails_answering :
    ((Operation.searchFollowing "ann" "jo" 0 10).program.on backend answering).1 =
      .ok (.internalError "Failed to search following") ∧
    ((Operation.searchFollowers "ann" "jo" 0 10).program.on backend answering).1 =
      .ok (.internalError "Failed to search followers") := by
  obtain ⟨-, _, out⟩ :=
    search_fails answering .outgoing "ann" "jo" 0 10 (by decide) (by decide) (by decide)
  obtain ⟨-, _, back⟩ :=
    search_fails answering .incoming "ann" "jo" 0 10 (by decide) (by decide) (by decide)
  exact ⟨congrArg Prod.fst out, congrArg Prod.fst back⟩

/-- The user is there to be listed, and no search finds them. -/
theorem not_found_answering :
    (∃ joe, answering.answer (.graph (.pagedNeighbors (.str "ann") .following .outgoing (.int 0)
        (.int 10))) = (.ok (.users [joe]), { answering with
          database := answering.database.visited (.outgoing .following)
            [("user_id", .str "ann"), ("skip", .int 0), ("limit", .int 10)] })) ∧
    (∀ nodes, (answering.answer (.graph (.substringSearch (.str "ann") .outgoing (.str "jo")
      (.int 0) (.int 10)))).1 ≠ .ok (.users nodes)) ∧
    ∃ r, ((Operation.searchFollowing "ann" "jo" 0 10).program.on backend answering).1 = .ok r ∧
      r.statusCode = 500 := by
  refine ⟨⟨_, rfl⟩, fun nodes => nofun, ?_⟩
  exact ⟨.internalError "Failed to search following", rfl, rfl⟩

end Application
end FollowGraph
