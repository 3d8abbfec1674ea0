import FollowGraph.Proofs.Cypher.Command
import FollowGraph.Proofs.Program.Parallel

/-!
# What a caller gives is a parameter

The text of a statement is one of a fixed number of texts, and which one it is does not depend on
what a caller gives but for the relationship, the direction, and whether there are any tags.
`Command.Alike` relates two operations that agree in these; everything else may differ. On databases
with the same answers ready they send the same texts on the same channels (`Command.agrees`).

An operation is put together from parts that agree (`Exchange.Agrees`), whatever their parameters
are. The services that write about a pair of users are then programs side by side: with the same
answers to the calls so far, the next calls are alike (`Call.Like`).
-/

set_option autoImplicit false

namespace FollowGraph

namespace Cypher

variable {α β γ δ : Type}

/-! ## The texts -/

/-- All statements. -/
def Statement.all : List Statement :=
  [.userConstraint, .interestConstraint, .findNode] ++
  Relationship.all.flatMap (fun kind =>
    [.relationshipExists kind, .createEdge kind, .deleteEdge kind, .outgoing kind,
      .incoming kind]) ++
  [.secondDegree, .secondDegreeCount, .thirdDegree, .commonConnection, .searchFollowing,
    .searchFollowers, .sharedInterest, .upsertUser, .updateUser, .clearInterests, .addInterests,
    .listInterests]

theorem Statement.mem_all (statement : Statement) : statement ∈ all := by
  cases statement with
  | relationshipExists kind | createEdge kind | deleteEdge kind | outgoing kind | incoming kind =>
    cases kind <;> decide
  | _ => decide

/-- What is sent of a statement, its parameters apart. -/
def Query.sent (q : Query) : Channel × String := (q.channel, q.statement.text)

/-! ## Exchanges that agree -/

/-- The same was sent, and the same answers are ready. -/
structure Database.Alike (db db' : Database) : Prop where
  script : db.script = db'.script
  sent : db.queries.map Query.sent = db'.queries.map Query.sent

theorem Database.Alike.refl (db : Database) : db.Alike db := ⟨rfl, rfl⟩

namespace Exchange

/-- The same is sent by both, with results that correspond. -/
def Agrees (R : α → β → Prop) (x : Exchange α) (y : Exchange β) : Prop :=
  ∀ db db', db.Alike db' →
    Paired R (x.run.run db).1 (y.run.run db').1 ∧ (x.run.run db).2.Alike (y.run.run db').2

variable {R : α → β → Prop} {S : γ → δ → Prop}

theorem agrees_ofExcept {value : Except Failure α} {value' : Except Failure β}
    (h : Paired R value value') : (ofExcept value).Agrees R (ofExcept value') :=
  fun _ _ alike => ⟨h, alike⟩

theorem agrees_pure {a : α} {b : β} (h : R a b) : (pure a : Exchange α).Agrees R (pure b) :=
  fun _ _ alike => ⟨h, alike⟩

theorem agrees_query (channel : Channel) (statement : Statement)
    (parameters parameters' : List (String × Json)) :
    (query channel statement parameters).Agrees (· = ·)
      (query channel statement parameters') := by
  intro db db' alike
  rw [run_query, run_query]
  refine ⟨?_, congrArg List.tail alike.script, ?_⟩
  · have offered : db.offered = db'.offered := by
      unfold Database.offered
      rw [alike.script]
    rw [offered]
    exact paired_self _
  · rw [List.map_append, List.map_append, alike.sent]
    rfl

theorem Agrees.inSession {x : Exchange α} {y : Exchange β} (h : x.Agrees R y) :
    (inSession x).Agrees R (inSession y) := by
  intro db db' alike
  obtain ⟨result, left⟩ := h { db with opened := db.opened + 1 }
    { db' with opened := db'.opened + 1 } ⟨alike.script, alike.sent⟩
  exact ⟨result, left.script, left.sent⟩

theorem Agrees.bind {x : Exchange α} {y : Exchange β} {f : α → Exchange γ} {g : β → Exchange δ}
    (h : x.Agrees R y) (rest : ∀ a b, R a b → (f a).Agrees S (g b)) :
    (x >>= f).Agrees S (y >>= g) := by
  intro db db' alike
  obtain ⟨result, left⟩ := h db db' alike
  rw [run_bind, run_bind]
  revert result left
  rcases x.run.run db with ⟨failure | a, after⟩ <;>
    rcases y.run.run db' with ⟨failure' | b, after'⟩ <;> intro result left
  · exact ⟨result, left⟩
  · exact result.elim
  · exact result.elim
  · exact rest a b result after after' left

/-- Parts with the same result. -/
theorem Agrees.bind_eq {x y : Exchange α} {f : α → Exchange γ} {g : α → Exchange δ}
    (h : x.Agrees (· = ·) y) (rest : ∀ a, (f a).Agrees S (g a)) :
    (x >>= f).Agrees S (y >>= g) :=
  h.bind fun a _ same => same ▸ rest a

/-- What asks nothing of the database agrees with itself. -/
theorem Silent.agrees {x : Exchange α} (h : x.Silent) : x.Agrees (· = ·) x := by
  obtain ⟨result, ran⟩ := h
  intro db db' alike
  rw [ran, ran]
  exact ⟨paired_self result, alike⟩

theorem agrees_sessionQuery (statement : Statement)
    (parameters parameters' : List (String × Json)) :
    (sessionQuery statement parameters).Agrees (· = ·) (sessionQuery statement parameters') :=
  (agrees_query _ _ _ _).inSession

/-- Values to go on with, or the same failure for want of one. -/
theorem agrees_given {value : Except Failure α} {value' : Except Failure β}
    {f : α → Exchange γ} {g : β → Exchange δ} (h : Paired R value value')
    (rest : ∀ a b, R a b → (f a).Agrees S (g b)) :
    (ofExcept value >>= f).Agrees S (ofExcept value' >>= g) :=
  (agrees_ofExcept h).bind rest

end Exchange

/-! ## Operations that agree -/

/-- Pages that both have a number of users to skip, as all integers have, or both have none. -/
def SkipAlike (page limit page' limit' : Json) : Prop :=
  Paired (fun _ _ => True) (page.product limit) (page'.product limit')

/-- Lists that are both empty or both not, or neither of them a list. -/
def EmptyAlike (tags tags' : Json) : Prop :=
  Paired (fun items items' => items.isEmpty = items'.isEmpty) tags.items tags'.items

/-- The same operation, with the same relationship and direction and with tags both times or
neither time. Ids, profiles, texts, pages and the tags themselves may differ. -/
inductive Command.Alike : Command → Command → Prop
  | ensureConstraints : Alike .ensureConstraints .ensureConstraints
  | findNode (userId userId' : UserId) : Alike (.findNode userId) (.findNode userId')
  | relationshipExists (kind : Json) (source target source' target' : UserId) :
      Alike (.relationshipExists source target kind) (.relationshipExists source' target' kind)
  | createEdge (kind : Json) (source target source' target' : UserId) :
      Alike (.createEdge source target kind) (.createEdge source' target' kind)
  | deleteEdge (kind : Json) (source target source' target' : UserId) :
      Alike (.deleteEdge source target kind) (.deleteEdge source' target' kind)
  | pagedNeighbors (kind direction : Json) (userId userId' : UserId)
      {page limit page' limit' : Json} (skip : SkipAlike page limit page' limit') :
      Alike (.pagedNeighbors userId kind direction page limit)
        (.pagedNeighbors userId' kind direction page' limit')
  | secondDegree (userId userId' : UserId) {page limit page' limit' : Json}
      (skip : SkipAlike page limit page' limit') :
      Alike (.secondDegree userId page limit) (.secondDegree userId' page' limit')
  | thirdDegree (userId userId' : UserId) {page limit page' limit' : Json}
      (skip : SkipAlike page limit page' limit') :
      Alike (.thirdDegree userId page limit) (.thirdDegree userId' page' limit')
  | secondDegreeCount (userId userId' : UserId) :
      Alike (.secondDegreeCount userId) (.secondDegreeCount userId')
  | commonConnection (source target source' target' : UserId) :
      Alike (.commonConnection source target) (.commonConnection source' target')
  | substringSearch (direction : Json) (userId userId' : UserId) (query query' : Json)
      {page limit page' limit' : Json} (skip : SkipAlike page limit page' limit') :
      Alike (.substringSearch userId direction query page limit)
        (.substringSearch userId' direction query' page' limit')
  | sharedInterestUsers (userId userId' : UserId) {page limit page' limit' : Json}
      (skip : SkipAlike page limit page' limit') :
      Alike (.sharedInterestUsers userId page limit) (.sharedInterestUsers userId' page' limit')
  | upsertUserNode (user user' : UserNode) : Alike (.upsertUserNode user) (.upsertUserNode user')
  | updateUserNode (user user' : UserNode) : Alike (.updateUserNode user) (.updateUserNode user')
  | setUserInterests (userId userId' : UserId) {tags tags' : Json} (empty : EmptyAlike tags tags') :
      Alike (.setUserInterests userId tags) (.setUserInterests userId' tags')
  | listUserInterests (userId userId' : UserId) :
      Alike (.listUserInterests userId) (.listUserInterests userId')

namespace Store

open Exchange

theorem agrees_fetchUsers (statement : Statement) {parameters parameters' : List (String × Json)}
    (named : (parameters.lookup "query").isSome = (parameters'.lookup "query").isSome) :
    (fetchUsers statement parameters).Agrees (· = ·) (fetchUsers statement parameters') := by
  unfold fetchUsers unambiguous
  rw [named]
  refine (silent_ofExcept _).agrees.bind_eq fun _ => Agrees.inSession ?_
  exact (agrees_query _ _ _ _).bind_eq fun _ => ((silent_ofExcept _).map _).agrees

theorem agrees_fetchCount (statement : Statement) (key : String)
    (parameters parameters' : List (String × Json)) :
    (fetchCount statement key parameters).Agrees (· = ·)
      (fetchCount statement key parameters') := by
  refine (agrees_sessionQuery _ _ _).bind_eq fun records => ?_
  cases firstFilled? records with
  | none => exact agrees_pure rfl
  | some record => exact (silent_ofExcept _).agrees

theorem agrees_fetchChange (statement : Statement) (key : String)
    (parameters parameters' : List (String × Json)) :
    (fetchChange statement key parameters).Agrees (· = ·)
      (fetchChange statement key parameters') :=
  (agrees_fetchCount statement key _ _).bind_eq fun _ => agrees_pure rfl

theorem agrees_fetchPage (statement : Statement) (userId userId' : UserId)
    {page limit page' limit' : Json} (skip : SkipAlike page limit page' limit') :
    (paging userId page limit >>= fetchUsers statement).Agrees (· = ·)
      (paging userId' page' limit' >>= fetchUsers statement) := by
  unfold paging
  rw [bind_assoc, bind_assoc]
  refine agrees_given skip fun skipped skipped' _ => ?_
  rw [pure_bind, pure_bind]
  exact agrees_fetchUsers statement rfl

theorem agrees_setUserInterests (userId userId' : UserId) {tags tags' : Json}
    (empty : EmptyAlike tags tags') :
    (setUserInterests userId tags).Agrees (· = ·) (setUserInterests userId' tags') := by
  refine Agrees.inSession (agrees_given empty fun tags tags' same => ?_)
  refine (agrees_query _ _ _ _).bind_eq fun records => ?_
  cases records with
  | nil => exact (silent_ofExcept _).agrees
  | cons record _ =>
    refine (silent_ofExcept _).agrees.bind_eq fun found => ?_
    rw [same]
    split
    · exact agrees_pure rfl
    · split
      · exact agrees_pure rfl
      · exact (agrees_query _ _ _ _).bind_eq fun _ => agrees_pure rfl

end Store

open Exchange in
/-- **Operations that are alike send the same**, and come to the same. -/
theorem Command.Alike.agrees {c c' : Command} (alike : c.Alike c') :
    c.run.Agrees (· = ·) c'.run := by
  cases alike with
  | ensureConstraints =>
    refine Agrees.bind_eq (Agrees.inSession ?_) fun _ => agrees_pure rfl
    exact (agrees_query _ _ _ _).bind_eq fun _ => (agrees_query _ _ _ _).bind_eq fun _ =>
      agrees_pure rfl
  | findNode userId userId' =>
    refine (agrees_sessionQuery _ _ _).bind_eq fun records => ?_
    cases firstFilled? records with
    | none => exact agrees_pure rfl
    | some record => exact ((silent_ofExcept _).map _).agrees
  | relationshipExists kind =>
    refine (silent_ofExcept _).agrees.bind_eq fun kind =>
      (agrees_sessionQuery _ _ _).bind_eq fun records => ?_
    cases firstFilled? records with
    | none => exact agrees_pure rfl
    | some record => exact (silent_ofExcept _).agrees.bind_eq fun _ => agrees_pure rfl
  | createEdge kind | deleteEdge kind =>
    exact (silent_ofExcept _).agrees.bind_eq fun kind => Store.agrees_fetchChange _ _ _ _
  | pagedNeighbors kind direction userId userId' skip =>
    exact (silent_ofExcept _).agrees.bind_eq fun kind =>
      Store.agrees_fetchPage (neighbors kind direction) userId userId' skip
  | secondDegree userId userId' skip | thirdDegree userId userId' skip
  | sharedInterestUsers userId userId' skip => exact Store.agrees_fetchPage _ userId userId' skip
  | secondDegreeCount userId userId' =>
    exact (Store.agrees_fetchCount _ _ _ _).bind_eq fun _ => agrees_pure rfl
  | commonConnection => exact Store.agrees_fetchUsers _ rfl
  | substringSearch direction userId userId' query query' skip =>
    exact agrees_given skip fun _ _ _ => Store.agrees_fetchUsers _ rfl
  | upsertUserNode user user' =>
    refine (agrees_sessionQuery _ _ _).bind_eq fun records => ?_
    cases records with
    | nil => exact (silent_ofExcept _).agrees
    | cons record _ => exact ((silent_ofExcept _).map _).agrees
  | updateUserNode user user' =>
    exact (agrees_sessionQuery _ _ _).bind_eq fun _ => agrees_pure rfl
  | setUserInterests userId userId' empty =>
    exact Store.agrees_setUserInterests userId userId' empty
  | listUserInterests userId userId' =>
    refine Agrees.inSession ((agrees_query _ _ _ _).bind_eq fun _ => ?_)
    exact (silent_ofExcept _).agrees.bind_eq fun _ => agrees_pure rfl

end Cypher
end FollowGraph
