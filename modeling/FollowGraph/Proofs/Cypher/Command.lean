import FollowGraph.Proofs.Cypher.Search

/-!
# What an operation does to the database

A `Command` is any operation of the store in the database, with its arguments as they are given.
`Command.plan` lists the statements that it runs when nothing comes between, with the channel and
the parameters of each. What does come between is a failure, or an answer that makes the rest
pointless; so a run keeps to the plan up to some point and no further (`Command.keeps`).

Most operations run one statement in a session of its own and make something of the records
(`Exchange.keeps_sessionQuery`). The others are the two that run two statements in one session, and
those that fail before they open one.
-/

set_option autoImplicit false

namespace FollowGraph.Cypher

variable {α β : Type}

/-- An operation, with any values for relationships, directions, pages and lists. -/
inductive Command where
  | ensureConstraints
  | findNode (userId : UserId)
  | relationshipExists (source target : UserId) (kind : Json)
  | createEdge (source target : UserId) (kind : Json)
  | deleteEdge (source target : UserId) (kind : Json)
  | pagedNeighbors (userId : UserId) (kind direction page limit : Json)
  | secondDegree (userId : UserId) (page limit : Json)
  | thirdDegree (userId : UserId) (page limit : Json)
  | secondDegreeCount (userId : UserId)
  | commonConnection (source target : UserId)
  | substringSearch (userId : UserId) (direction query page limit : Json)
  | sharedInterestUsers (userId : UserId) (page limit : Json)
  | upsertUserNode (user : UserNode)
  | updateUserNode (user : UserNode)
  | setUserInterests (userId : UserId) (tags : Json)
  | listUserInterests (userId : UserId)

namespace Command

def run : Command → Exchange Value
  | .ensureConstraints => do
    Store.ensureConstraints
    pure .null
  | .findNode userId => Store.findNode userId
  | .relationshipExists source target kind => Store.relationshipExists source target kind
  | .createEdge source target kind => Store.createEdge source target kind
  | .deleteEdge source target kind => Store.deleteEdge source target kind
  | .pagedNeighbors userId kind direction page limit =>
    Store.pagedNeighbors userId kind direction page limit
  | .secondDegree userId page limit => Store.secondDegree userId page limit
  | .thirdDegree userId page limit => Store.thirdDegree userId page limit
  | .secondDegreeCount userId => Store.secondDegreeCount userId
  | .commonConnection source target => Store.commonConnection source target
  | .substringSearch userId direction query page limit =>
    Store.substringSearch userId direction query page limit
  | .sharedInterestUsers userId page limit => Store.sharedInterestUsers userId page limit
  | .upsertUserNode user => Store.upsertUserNode user
  | .updateUserNode user => Store.updateUserNode user
  | .setUserInterests userId tags => Store.setUserInterests userId tags
  | .listUserInterests userId => Store.listUserInterests userId

/-- The operation that a call of the services is. -/
def ofCall : GraphCall → Command
  | .findNode userId => .findNode userId
  | .relationshipExists source target kind => .relationshipExists source target (.str kind.value)
  | .createEdge source target kind => .createEdge source target (.str kind.value)
  | .deleteEdge source target kind => .deleteEdge source target (.str kind.value)
  | .pagedNeighbors userId kind direction page limit =>
    .pagedNeighbors userId (.str kind.value) (.str direction.value) page limit
  | .secondDegree userId page limit => .secondDegree userId page limit
  | .thirdDegree userId page limit => .thirdDegree userId page limit
  | .secondDegreeCount userId => .secondDegreeCount userId
  | .commonConnection source target => .commonConnection source target
  | .substringSearch userId direction query page limit =>
    .substringSearch userId (.str direction.value) query page limit
  | .sharedInterestUsers userId page limit => .sharedInterestUsers userId page limit
  | .upsertUserNode user => .upsertUserNode user
  | .updateUserNode user => .updateUserNode user
  | .setUserInterests userId tags => .setUserInterests userId tags
  | .listUserInterests userId => .listUserInterests userId

theorem run_ofCall (call : GraphCall) : (ofCall call).run = Store.answer call := by
  cases call <;> rfl

/-! ## Plans -/

/-- What is to be run once there is a value to go on with. -/
def given (value : Except Failure α) (plan : α → List Query) : List Query :=
  match value with
  | .ok a => plan a
  | .error _ => []

/-- One statement about an edge, if its relationship is one. -/
def aboutEdge (statement : Relationship → Statement) (source target : UserId) (kind : Json) :
    List Query :=
  given (Relationship.ofJson kind) fun kind =>
    [⟨.session, statement kind, Store.ends source target⟩]

/-- One statement for a page of users, if page and limit give a number to skip. -/
def aboutPage (statement : Statement) (userId : UserId) (page limit : Json) : List Query :=
  given (page.product limit) fun skipped =>
    [⟨.session, statement, [("user_id", userId), ("skip", skipped), ("limit", limit)]⟩]

/-- The statement for neighbours in a direction: any but the outgoing one counts as incoming. -/
def neighbors (kind : Relationship) (direction : Json) : Statement :=
  if direction == .str Direction.outgoing.value then .outgoing kind else .incoming kind

/-- The statements of an operation with their parameters, in order. A search has none: it fails
before it runs its statement. -/
def plan : Command → List Query
  | .ensureConstraints => [⟨.session, .userConstraint, []⟩, ⟨.session, .interestConstraint, []⟩]
  | .findNode userId => [⟨.session, .findNode, [("user_id", userId)]⟩]
  | .relationshipExists source target kind => aboutEdge .relationshipExists source target kind
  | .createEdge source target kind => aboutEdge .createEdge source target kind
  | .deleteEdge source target kind => aboutEdge .deleteEdge source target kind
  | .pagedNeighbors userId kind direction page limit =>
    given (Relationship.ofJson kind) fun kind =>
      aboutPage (neighbors kind direction) userId page limit
  | .secondDegree userId page limit => aboutPage .secondDegree userId page limit
  | .thirdDegree userId page limit => aboutPage .thirdDegree userId page limit
  | .secondDegreeCount userId => [⟨.session, .secondDegreeCount, [("user_id", userId)]⟩]
  | .commonConnection source target =>
    [⟨.session, .commonConnection, Store.ends source target⟩]
  | .substringSearch .. => []
  | .sharedInterestUsers userId page limit => aboutPage .sharedInterest userId page limit
  | .upsertUserNode user => [⟨.session, .upsertUser, Store.profile user⟩]
  | .updateUserNode user => [⟨.session, .updateUser, Store.profile user⟩]
  | .setUserInterests userId tags =>
    given tags.items fun tags =>
      ⟨.transaction, .clearInterests, [("user_id", userId)]⟩ ::
        if tags.isEmpty then []
        else [⟨.transaction, .addInterests, [("user_id", userId), ("interests", .arr tags)]⟩]
  | .listUserInterests userId => [⟨.session, .listInterests, [("user_id", userId)]⟩]

end Command

/-! ## Keeping to a plan -/

/-- A run kept to a plan for `n` statements, in as many sessions, all of them left again. If one of
the statements failed, that is the result. -/
structure Conducted (plan : List Query) (db : Database) (result : Except Failure α)
    (after : Database) (n sessions : Nat) : Prop where
  within : n ≤ plan.length
  once : sessions ≤ 1
  database : after =
    { script := db.script.drop n
      queries := db.queries ++ plan.take n
      opened := db.opened + sessions
      left := db.left + sessions }
  failed : ∀ failure, .fail failure ∈ db.script.take n → result = .error failure

/-- Nothing was run. -/
theorem Conducted.nothing (plan : List Query) (db : Database) (result : Except Failure α) :
    Conducted plan db result db 0 0 where
  within := Nat.zero_le _
  once := Nat.zero_le _
  database := by
    show db = ⟨db.script, db.queries ++ [], db.opened, db.left⟩
    rw [List.append_nil]
  failed _ there := by cases there

namespace Exchange

/-- Nothing is asked of the database. -/
def Silent (x : Exchange α) : Prop := ∃ result, ∀ db, x.run.run db = (result, db)

/-- Part of a session: it keeps to a plan and opens no session of its own. -/
def Runs (x : Exchange α) (plan : List Query) : Prop :=
  ∀ db, ∃ n, Conducted plan db (x.run.run db).1 (x.run.run db).2 n 0

/-- Whatever it comes to, the exchange keeps to a plan. -/
def Keeps (x : Exchange α) (plan : List Query) : Prop :=
  ∀ db, ∃ n sessions, Conducted plan db (x.run.run db).1 (x.run.run db).2 n sessions

theorem silent_pure (a : α) : (pure a : Exchange α).Silent := ⟨.ok a, fun _ => rfl⟩

theorem silent_ofExcept (value : Except Failure α) : (ofExcept value).Silent :=
  ⟨value, fun _ => rfl⟩

theorem Silent.bind {x : Exchange α} {f : α → Exchange β} (h : x.Silent)
    (rest : ∀ a, (f a).Silent) : (x >>= f).Silent := by
  obtain ⟨result, ran⟩ := h
  cases result with
  | error failure => exact ⟨.error failure, fun db => by rw [run_bind, ran]⟩
  | ok a =>
    obtain ⟨last, after⟩ := rest a
    exact ⟨last, fun db => by rw [run_bind, ran]; exact after db⟩

theorem Silent.map {x : Exchange α} (h : x.Silent) (f : α → β) : (f <$> x).Silent := by
  rw [map_eq_pure_bind]
  exact h.bind fun a => silent_pure (f a)

theorem Silent.runs {x : Exchange α} (h : x.Silent) (plan : List Query) : x.Runs plan := by
  obtain ⟨result, ran⟩ := h
  intro db
  rw [ran]
  exact ⟨0, .nothing plan db result⟩

variable {plan : List Query} {channel : Channel} {statement : Statement}
  {parameters : List (String × Json)}

/-- One statement, and what is made of its records. -/
theorem runs_query {use : List Record → Exchange α} (rest : ∀ records, (use records).Runs plan) :
    (query channel statement parameters >>= use).Runs
      (⟨channel, statement, parameters⟩ :: plan) := by
  rintro ⟨script, queries, opened, left⟩
  rw [run_bind, run_query]
  rcases script with _ | ⟨rows | failure, script⟩
  · obtain ⟨n, h⟩ := rest [] ⟨[], queries ++ [⟨channel, statement, parameters⟩], opened, left⟩
    refine ⟨n + 1, Nat.succ_le_succ h.within, h.once, ?_, fun _ there => by cases there⟩
    exact h.database.trans (by simp)
  · obtain ⟨n, h⟩ :=
      rest rows ⟨script, queries ++ [⟨channel, statement, parameters⟩], opened, left⟩
    refine ⟨n + 1, Nat.succ_le_succ h.within, h.once, ?_, fun failure there => ?_⟩
    · exact h.database.trans (by simp)
    · exact h.failed failure ((List.mem_cons.1 there).resolve_left nofun)
  · refine ⟨1, Nat.succ_le_succ (Nat.zero_le _), Nat.zero_le _, rfl, fun other there => ?_⟩
    cases List.mem_singleton.1 there
    rfl

theorem Runs.inSession {x : Exchange α} (h : x.Runs plan) : (inSession x).Keeps plan := by
  intro db
  obtain ⟨n, h⟩ := h { db with opened := db.opened + 1 }
  refine ⟨n, 1, h.within, Nat.le_refl _, ?_, h.failed⟩
  rw [run_inSession, h.database]
  rfl

theorem keeps_sessionQuery : (sessionQuery statement parameters).Keeps
    [⟨.session, statement, parameters⟩] := by
  have runs : (query .session statement parameters >>= pure).Runs
      [⟨.session, statement, parameters⟩] :=
    runs_query fun records => (silent_pure records).runs []
  rw [bind_pure] at runs
  exact runs.inSession

theorem Keeps.bind {x : Exchange α} {f : α → Exchange β} (h : x.Keeps plan)
    (silent : ∀ a, (f a).Silent) : (x >>= f).Keeps plan := by
  intro db
  obtain ⟨n, sessions, h⟩ := h db
  rw [run_bind]
  revert h
  rcases x.run.run db with ⟨failure | a, after⟩
  · intro h
    refine ⟨n, sessions, h.within, h.once, h.database, fun other there => ?_⟩
    cases h.failed other there
    rfl
  · intro h
    obtain ⟨result, ran⟩ := silent a
    dsimp only
    rw [ran]
    exact ⟨n, sessions, h.within, h.once, h.database,
      fun other there => nomatch h.failed other there⟩

/-- It fails before it opens a session. -/
theorem keeps_of_failing {x : Exchange α} {failure : Failure}
    (failing : ∀ db, x.run.run db = (.error failure, db)) (plan : List Query) : x.Keeps plan := by
  intro db
  rw [failing]
  exact ⟨0, 0, .nothing _ _ _⟩

/-- Nothing is run without a value to go on with. -/
theorem keeps_given {value : Except Failure α} {body : α → Exchange β} {plan : α → List Query}
    (keeps : ∀ a, (body a).Keeps (plan a)) :
    (ofExcept value >>= body).Keeps (Command.given value plan) := by
  cases value with
  | ok a => exact keeps a
  | error failure => exact keeps_of_failing (fun _ => rfl) _

theorem runs_given {value : Except Failure α} {body : α → Exchange β} {plan : α → List Query}
    (runs : ∀ a, (body a).Runs (plan a)) :
    (ofExcept value >>= body).Runs (Command.given value plan) := by
  cases value with
  | ok a => exact runs a
  | error failure => exact Silent.runs ⟨.error failure, fun _ => rfl⟩ _

/-- The same plan with any value. -/
theorem runs_ofExcept {value : Except Failure α} {body : α → Exchange β}
    (runs : ∀ a, (body a).Runs plan) : (ofExcept value >>= body).Runs plan := by
  cases value with
  | ok a => exact runs a
  | error failure => exact Silent.runs ⟨.error failure, fun _ => rfl⟩ _

end Exchange

/-! ## Every operation -/

namespace Store

open Exchange

theorem keeps_fetchUsers {statement : Statement} {parameters : List (String × Json)}
    (named : parameters.lookup "query" = none) :
    (fetchUsers statement parameters).Keeps [⟨.session, statement, parameters⟩] := by
  unfold fetchUsers unambiguous
  rw [named]
  exact (runs_query fun _ => ((silent_ofExcept _).map _).runs []).inSession

theorem keeps_fetchCount (statement : Statement) (key : String)
    (parameters : List (String × Json)) :
    (fetchCount statement key parameters).Keeps [⟨.session, statement, parameters⟩] := by
  refine keeps_sessionQuery.bind fun records => ?_
  cases firstFilled? records with
  | none => exact silent_pure _
  | some record => exact silent_ofExcept _

theorem keeps_fetchChange (statement : Statement) (key : String)
    (parameters : List (String × Json)) :
    (fetchChange statement key parameters).Keeps [⟨.session, statement, parameters⟩] :=
  (keeps_fetchCount statement key parameters).bind fun _ => silent_pure _

/-- A page of users by any statement. -/
theorem keeps_fetchPage (statement : Statement) (userId : UserId) (page limit : Json) :
    (paging userId page limit >>= fetchUsers statement).Keeps
      (Command.aboutPage statement userId page limit) := by
  unfold paging
  rw [bind_assoc]
  refine keeps_given fun skipped => ?_
  have named : [("user_id", userId), ("skip", skipped), ("limit", limit)].lookup "query" = none :=
    rfl
  exact keeps_fetchUsers named

theorem keeps_ensureConstraints :
    ensureConstraints.Keeps Command.ensureConstraints.plan :=
  (runs_query fun _ => runs_query fun _ => (silent_pure _).runs []).inSession

theorem keeps_findNode (userId : UserId) :
    (findNode userId).Keeps (Command.findNode userId).plan := by
  refine keeps_sessionQuery.bind fun records => ?_
  cases firstFilled? records with
  | none => exact silent_pure _
  | some record => exact (silent_ofExcept _).map _

theorem keeps_relationshipExists (source target : UserId) (kind : Json) :
    (relationshipExists source target kind).Keeps
      (Command.relationshipExists source target kind).plan := by
  refine keeps_given fun kind => keeps_sessionQuery.bind fun records => ?_
  cases firstFilled? records with
  | none => exact silent_pure _
  | some record => exact (silent_ofExcept _).bind fun _ => silent_pure _

theorem keeps_createEdge (source target : UserId) (kind : Json) :
    (createEdge source target kind).Keeps (Command.createEdge source target kind).plan :=
  keeps_given fun _ => keeps_fetchChange _ _ _

theorem keeps_deleteEdge (source target : UserId) (kind : Json) :
    (deleteEdge source target kind).Keeps (Command.deleteEdge source target kind).plan :=
  keeps_given fun _ => keeps_fetchChange _ _ _

theorem keeps_pagedNeighbors (userId : UserId) (kind direction page limit : Json) :
    (pagedNeighbors userId kind direction page limit).Keeps
      (Command.pagedNeighbors userId kind direction page limit).plan :=
  keeps_given fun kind => keeps_fetchPage (Command.neighbors kind direction) userId page limit

theorem run_substringSearch_any (userId : UserId) (direction query page limit : Json) :
    ∃ failure, ∀ db,
      (substringSearch userId direction query page limit).run.run db = (.error failure, db) := by
  unfold substringSearch
  cases page.product limit with
  | error failure => exact ⟨failure, fun _ => rfl⟩
  | ok skipped => exact ⟨.ambiguousQuery, fun _ => rfl⟩

theorem keeps_upsertUserNode (user : UserNode) :
    (upsertUserNode user).Keeps (Command.upsertUserNode user).plan := by
  refine keeps_sessionQuery.bind fun records => ?_
  cases records with
  | nil => exact silent_ofExcept _
  | cons record _ => exact (silent_ofExcept _).map _

theorem keeps_setUserInterests (userId : UserId) (tags : Json) :
    (setUserInterests userId tags).Keeps (Command.setUserInterests userId tags).plan := by
  refine Runs.inSession (runs_given fun tags => runs_query fun records => ?_)
  cases records with
  | nil => exact (silent_ofExcept _).runs _
  | cons record _ =>
    refine runs_ofExcept fun found => ?_
    split
    · exact (silent_pure _).runs _
    · cases tags.isEmpty with
      | true => exact (silent_pure _).runs _
      | false => exact runs_query fun _ => (silent_pure _).runs []

theorem keeps_listUserInterests (userId : UserId) :
    (listUserInterests userId).Keeps (Command.listUserInterests userId).plan :=
  (runs_query fun _ => ((silent_ofExcept _).bind fun _ => silent_pure _).runs []).inSession

end Store

open Exchange in
/-- **Every operation keeps to its plan.** -/
theorem Command.keeps (c : Command) : c.run.Keeps c.plan := by
  cases c with
  | ensureConstraints => exact Store.keeps_ensureConstraints.bind fun _ => silent_pure _
  | findNode userId => exact Store.keeps_findNode userId
  | relationshipExists source target kind => exact Store.keeps_relationshipExists source target kind
  | createEdge source target kind => exact Store.keeps_createEdge source target kind
  | deleteEdge source target kind => exact Store.keeps_deleteEdge source target kind
  | pagedNeighbors userId kind direction page limit =>
    exact Store.keeps_pagedNeighbors userId kind direction page limit
  | secondDegree userId page limit | thirdDegree userId page limit
  | sharedInterestUsers userId page limit => exact Store.keeps_fetchPage _ userId page limit
  | secondDegreeCount userId =>
    exact (Store.keeps_fetchCount _ _ _).bind fun _ => silent_pure _
  | commonConnection source target => exact Store.keeps_fetchUsers rfl
  | substringSearch userId direction query page limit =>
    obtain ⟨failure, failing⟩ := Store.run_substringSearch_any userId direction query page limit
    exact keeps_of_failing failing _
  | upsertUserNode user => exact Store.keeps_upsertUserNode user
  | updateUserNode user => exact keeps_sessionQuery.bind fun _ => silent_pure _
  | setUserInterests userId tags => exact Store.keeps_setUserInterests userId tags
  | listUserInterests userId => exact Store.keeps_listUserInterests userId

end FollowGraph.Cypher
