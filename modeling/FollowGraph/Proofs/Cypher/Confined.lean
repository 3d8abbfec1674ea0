import FollowGraph.Proofs.Cypher.Parameters

/-!
# What the services send to the database

Following and blocking, for any two pairs of users, are programs side by side: the calls are alike
as long as the answers are the same. Nothing that a program is given decides anything but whether
the two users of the pair are one and the same. So over the database the same texts are sent for any
pair, through the same channels, and the ids are parameters (`Cypher.parameters_only`).
-/

set_option autoImplicit false

namespace FollowGraph

open Attempt

/-- Calls that send the same to a database that answered the same so far. An event is published with
members, whatever they are. -/
inductive Call.Like : Call → Call → Prop
  | graph {call call' : GraphCall}
      (alike : (Cypher.Command.ofCall call).Alike (Cypher.Command.ofCall call')) :
      Like (.graph call) (.graph call')
  | publish (name name' : Json) (members members' : List (String × Json)) :
      Like (.publish name (.obj members)) (.publish name' (.obj members'))

section Services

variable (a b a' b' : UserId)

theorem Call.like_createEdge (kind : Relationship) :
    Like (.graph (.createEdge a b kind)) (.graph (.createEdge a' b' kind)) :=
  .graph (.createEdge (.str kind.value) a b a' b')

theorem Call.like_deleteEdge (kind : Relationship) :
    Like (.graph (.deleteEdge a b kind)) (.graph (.deleteEdge a' b' kind)) :=
  .graph (.deleteEdge (.str kind.value) a b a' b')

/-! ## Checks -/

namespace Queries

theorem parallel_relationshipExists (kind : Relationship) :
    (Ask.relationshipExists a b kind).Parallel Call.Like (· = ·)
      (Ask.relationshipExists a' b' kind) :=
  parallel_call (.graph (.relationshipExists _ _ _ _ _))

theorem parallel_blockedDirection :
    (blockedDirection a b).Parallel Call.Like
      (fun stored stored' => stored = none ∧ stored' = none ∨
        ∃ x y x' y', stored = some (x, y) ∧ stored' = some (x', y'))
      (blockedDirection a' b') := by
  refine (parallel_relationshipExists a b a' b' _).holds.bind_eq fun own => ?_
  refine parallel_ite (parallel_pure (.inr ⟨_, _, _, _, rfl, rfl⟩)) ?_
  refine (parallel_relationshipExists b a b' a' _).holds.bind_eq fun other => ?_
  refine parallel_ite (parallel_pure (.inr ⟨_, _, _, _, rfl, rfl⟩)) ?_
  exact parallel_log.bind_eq fun _ => parallel_pure (.inl ⟨rfl, rfl⟩)

theorem parallel_isBlocked :
    (isBlocked a b).Parallel Call.Like (· = ·) (isBlocked a' b') := by
  refine (parallel_blockedDirection a b a' b').bind fun stored stored' both => parallel_pure ?_
  rcases both with ⟨rfl, rfl⟩ | ⟨_, _, _, _, rfl, rfl⟩ <;> rfl

end Queries

/-! ## Following -/

namespace Follow

theorem parallel_findNode (x x' : UserId) :
    (Ask.findNode x).Parallel Call.Like (· = ·) (Ask.findNode x') :=
  parallel_call (.graph (.findNode _ _))

theorem parallel_bothExist :
    (bothExist a b).Parallel Call.Like (· = ·) (bothExist a' b') := by
  refine (parallel_findNode b b').bind_eq fun target => parallel_ite (parallel_pure rfl) ?_
  exact (parallel_findNode a a').bind_eq fun source => parallel_pure rfl

/-- A write that answers whether it did anything, and what is made of the answer. -/
theorem parallel_written {α : Type} {c d : Call} (like : c.Like d) {level : LogLevel}
    {source : LogSource} {text text' : String} (yes no : α) :
    Attempt.Parallel Call.Like (· = ·)
      (do if ← (call c).holds then
            Attempt.log level source text
            pure yes
          else pure no)
      (do if ← (call d).holds then
            Attempt.log level source text'
            pure yes
          else pure no) := by
  refine (parallel_call like).holds.bind_eq fun written => parallel_ite ?_ (parallel_pure rfl)
  exact parallel_log.bind_eq fun _ => parallel_pure rfl

theorem parallel_followEdge :
    (followEdge a b).Parallel Call.Like (· = ·) (followEdge a' b') := by
  refine (parallel_bothExist a b a' b').bind_eq fun both => parallel_ite (parallel_pure rfl) ?_
  refine (Queries.parallel_relationshipExists a b a' b' _).holds.bind_eq fun following =>
    parallel_ite (parallel_pure rfl) ?_
  refine (Queries.parallel_isBlocked a b a' b').bind_eq fun blocked =>
    parallel_ite (parallel_pure rfl) ?_
  exact parallel_written (Call.like_createEdge _ _ _ _ _) _ _

/-- A name is found for both or for neither. -/
theorem parallel_notifyNewFollow :
    (notifyNewFollow a b).Parallel Call.Like (· = ·) (notifyNewFollow a' b') := by
  refine Attempt.Parallel.catching ?_ fun _ => rfl
  refine (parallel_findNode a a').bind_eq fun follower => ?_
  have named : Paired (fun _ _ => True) (announcedName a follower) (announcedName a' follower) := by
    unfold announcedName
    cases follower.isFalsy with
    | true => trivial
    | false =>
      cases follower.node "username" with
      | error failure => exact rfl
      | ok node => trivial
  refine (parallel_ofExcept named).bind fun name name' _ => ?_
  exact (parallel_call (.publish _ _ _ _)).bind_eq fun _ => parallel_pure rfl

theorem parallel_follow (selves : a = b ↔ a' = b') :
    (follow a b).Parallel Call.Like (· = ·) (follow a' b') := by
  unfold follow
  by_cases same : a = b
  · rw [if_pos same, if_pos (selves.1 same)]
    exact rfl
  · rw [if_neg same, if_neg fun same' => same (selves.2 same')]
    refine Program.Parallel.bind
      ((parallel_followEdge a b a' b').catching fun _ => rfl) fun refusal _ same => ?_
    obtain rfl := same
    cases refusal with
    | some response => exact rfl
    | none =>
      exact Program.Parallel.bind (parallel_notifyNewFollow a b a' b') fun _ _ _ => rfl

theorem parallel_unfollow (selves : a = b ↔ a' = b') :
    (unfollow a b).Parallel Call.Like (· = ·) (unfollow a' b') := by
  unfold unfollow
  by_cases same : a = b
  · rw [if_pos same, if_pos (selves.1 same)]
    exact rfl
  · rw [if_neg same, if_neg fun same' => same (selves.2 same')]
    refine Attempt.Parallel.catching ?_ fun _ => rfl
    refine (Queries.parallel_relationshipExists a b a' b' _).holds.bind_eq fun following =>
      parallel_ite (parallel_pure rfl) ?_
    refine (Queries.parallel_isBlocked a b a' b').bind_eq fun blocked =>
      parallel_ite (parallel_pure rfl) ?_
    exact parallel_written (Call.like_deleteEdge _ _ _ _ _) _ _

theorem parallel_removeFollower (selves : a = b ↔ a' = b') :
    (removeFollower a b).Parallel Call.Like (· = ·) (removeFollower a' b') := by
  unfold removeFollower
  by_cases same : a = b
  · rw [if_pos same, if_pos (selves.1 same)]
    exact rfl
  · rw [if_neg same, if_neg fun same' => same (selves.2 same')]
    refine Attempt.Parallel.catching ?_ fun _ => rfl
    refine (Queries.parallel_isBlocked a b a' b').bind_eq fun blocked =>
      parallel_ite (parallel_pure rfl) ?_
    refine (Queries.parallel_relationshipExists b a b' a' _).holds.bind_eq fun following =>
      parallel_ite (parallel_pure rfl) ?_
    exact parallel_written (Call.like_deleteEdge _ _ _ _ _) _ _

end Follow

/-! ## Blocking -/

namespace Block

theorem parallel_detach (step : String) {applies applies' : Attempt Bool}
    {operation operation' : Program Response}
    (asked : applies.Parallel Call.Like (· = ·) applies')
    (done : operation.Parallel Call.Like (· = ·) operation') :
    (detach step a b applies operation).Parallel Call.Like (· = ·)
      (detach step a' b' applies' operation') := by
  refine Program.Parallel.bind (Attempt.Parallel.catching (R := (· = ·)) ?_ fun _ => rfl)
    fun outcome _ same => ?_
  · exact asked.bind_eq fun applies => parallel_ite
      ((parallel_always done).bind_eq fun _ => parallel_pure rfl) (parallel_pure rfl)
  · obtain rfl := same
    cases outcome with
    | none => exact rfl
    | some response =>
      dsimp only
      split <;> exact rfl

theorem parallel_block (selves : a = b ↔ a' = b') :
    (block a b).Parallel Call.Like (· = ·) (block a' b') := by
  unfold block
  by_cases same : a = b
  · rw [if_pos same, if_pos (selves.1 same)]
    exact rfl
  · rw [if_neg same, if_neg fun same' => same (selves.2 same')]
    refine Attempt.Parallel.catching ?_ fun _ => rfl
    refine (Follow.parallel_bothExist a b a' b').bind_eq fun both =>
      parallel_ite (parallel_pure rfl) ?_
    refine (Queries.parallel_isBlocked a b a' b').bind_eq fun blocked =>
      parallel_ite (parallel_pure rfl) ?_
    refine (parallel_always (parallel_detach a b a' b' _
      (Queries.parallel_relationshipExists a b a' b' _).holds
      (Follow.parallel_unfollow a b a' b' selves))).bind_eq fun _ => ?_
    refine (parallel_always (parallel_detach a b a' b' _
      (Queries.parallel_relationshipExists b a b' a' _).holds
      (Follow.parallel_removeFollower a b a' b' selves))).bind_eq fun _ => ?_
    exact Follow.parallel_written (Call.like_createEdge _ _ _ _ _) _ _

theorem parallel_unblock (selves : a = b ↔ a' = b') :
    (unblock a b).Parallel Call.Like (· = ·) (unblock a' b') := by
  unfold unblock
  by_cases same : a = b
  · rw [if_pos same, if_pos (selves.1 same)]
    exact rfl
  · rw [if_neg same, if_neg fun same' => same (selves.2 same')]
    refine Attempt.Parallel.catching ?_ fun _ => rfl
    refine (Queries.parallel_blockedDirection a b a' b').bind fun stored stored' both => ?_
    rcases both with ⟨rfl, rfl⟩ | ⟨_, _, _, _, rfl, rfl⟩
    · exact parallel_pure rfl
    · exact Follow.parallel_written (Call.like_deleteEdge _ _ _ _ _) _ _

end Block

end Services

/-! ## Over the database -/

namespace Application

/-- Calls that are alike get the same answer, and the same was sent. -/
theorem answer_like {c d : Call} (like : c.Like d) {s t : Application}
    (alike : s.database.Alike t.database) :
    (s.answer c).1 = (t.answer d).1 ∧ (s.answer c).2.database.Alike (t.answer d).2.database := by
  cases like with
  | @graph call call' like =>
    obtain ⟨same, left⟩ := like.agrees _ _ alike
    rw [Cypher.Command.run_ofCall, Cypher.Command.run_ofCall] at same left
    exact ⟨same.eq, left⟩
  | publish name name' members members' =>
    have published (w : World) (name : Json) (members : List (String × Json)) :
        (w.publish name (.obj members)).1 = .ok .null := by
      unfold World.publish
      cases w.wiring.channel <;> rfl
    exact ⟨(published _ _ _).trans (published _ _ _).symm, alike⟩

theorem run_parallel {α : Type} {p q : Program α} (h : p.Parallel Call.Like (· = ·) q)
    {s t : Application} (alike : s.database.Alike t.database) :
    (p.run backend s).1 = (q.run backend t).1 ∧
      (p.run backend s).2.database.Alike (q.run backend t).2.database :=
  h.run (fun s t : Application => s.database.Alike t.database)
    (fun _ _ _ _ like alike => answer_like like alike)
    (fun _ _ _ _ alike => alike) alike

/-- The five operations on a pair of users. -/
def pairOperations : List (String → String → Operation) :=
  [.follow, .unfollow, .removeFollower, .block, .unblock]

/-- For any two pairs, each operation answers the same and sends the same. -/
theorem on_pairOperation {operation : String → String → Operation}
    (there : operation ∈ pairOperations) {a b a' b' : String} (selves : a = b ↔ a' = b')
    {s t : Application} (alike : s.database.Alike t.database) :
    ((operation a b).program.on backend s).1 = ((operation a' b').program.on backend t).1 ∧
      ((operation a b).program.on backend s).2.database.Alike
        ((operation a' b').program.on backend t).2.database := by
  have texts : Json.str a = .str b ↔ Json.str a' = .str b' := by
    rw [Json.str.injEq, Json.str.injEq, selves]
  have always {p q : Program Response} (h : p.Parallel Call.Like (· = ·) q) :
      ((Attempt.always p).on backend s).1 = ((Attempt.always q).on backend t).1 ∧
        ((Attempt.always p).on backend s).2.database.Alike
          ((Attempt.always q).on backend t).2.database := by
    obtain ⟨same, left⟩ := run_parallel h alike
    rw [on_always, on_always, same]
    exact ⟨rfl, left⟩
  simp only [pairOperations, List.mem_cons, List.not_mem_nil, or_false] at there
  rcases there with rfl | rfl | rfl | rfl | rfl
  · exact always (Follow.parallel_follow _ _ _ _ texts)
  · exact always (Follow.parallel_unfollow _ _ _ _ texts)
  · exact always (Follow.parallel_removeFollower _ _ _ _ texts)
  · exact always (Block.parallel_block _ _ _ _ texts)
  · exact always (Block.parallel_unblock _ _ _ _ texts)

end Application

namespace Cypher

/-- The relationship that an operation is given. -/
def Command.kind? : Command → Option Json
  | .relationshipExists _ _ kind | .createEdge _ _ kind | .deleteEdge _ _ kind
  | .pagedNeighbors _ kind _ _ _ => some kind
  | _ => none

/-- Nothing is asked about a relationship that there is not. -/
theorem Command.run_of_unknown {c : Command} {kind : Json} (given : c.kind? = some kind)
    (unknown : ∀ known : Relationship, kind ≠ .str known.value) (db : Database) :
    c.run.run.run db = (.error (.unknownRelationship kind), db) := by
  have refused : Relationship.ofJson kind = .error (.unknownRelationship kind) := by
    have missing : (Relationship.all.find? fun r => .str r.value == kind) = none :=
      List.find?_eq_none.2 fun r _ same => unknown r (eq_of_beq same).symm
    rw [Relationship.ofJson, missing]
  have refuses (body : Relationship → Exchange Value) :
      (Exchange.ofExcept (Relationship.ofJson kind) >>= body).run.run db =
        (.error (.unknownRelationship kind), db) := by
    rw [refused]
    rfl
  cases c with
  | relationshipExists _ _ _ | createEdge _ _ _ | deleteEdge _ _ _ | pagedNeighbors _ _ _ _ _ =>
    cases given
    exact refuses _
  | _ => cases given

/-- **What a caller gives is only ever a parameter.** Every operation runs statements of its plan in
order, up to some point: statements with fixed texts, in which at most a known relationship is
written, and with all else that was given among the parameters. Two calls of an operation that agree
on relationship, direction and on whether there are tags send the same texts on the same channels to
databases that answer the same. What is no relationship is refused and nothing is opened. The five
operations on a pair of users send the same for every pair. -/
theorem parameters_only :
    (∀ (c : Command) (db : Database),
      (∃ n, (c.run.run.run db).2.queries = db.queries ++ c.plan.take n) ∧
      ∀ q ∈ c.plan, q.statement.text ∈ Statement.all.map Statement.text) ∧
    (∀ (c c' : Command) (db db' : Database), c.Alike c' → db.Alike db' →
      (c.run.run.run db).1 = (c'.run.run.run db').1 ∧
        (c.run.run.run db).2.Alike (c'.run.run.run db').2) ∧
    (∀ (c : Command) (kind : Json) (db : Database), c.kind? = some kind →
      (∀ known : Relationship, kind ≠ .str known.value) →
      c.run.run.run db = (.error (.unknownRelationship kind), db)) ∧
    ∀ operation ∈ Application.pairOperations, ∀ (a b a' b' : String) (s : Application),
      (a = b ↔ a' = b') →
      ((operation a b).program.on Application.backend s).2.database.Alike
        ((operation a' b').program.on Application.backend s).2.database := by
  refine ⟨fun c db => ⟨?_, fun q there => ?_⟩, ?_, ?_, ?_⟩
  · obtain ⟨n, sessions, kept⟩ := c.keeps db
    rw [kept.database]
    exact ⟨n, rfl⟩
  · exact List.mem_map_of_mem (Statement.mem_all q.statement)
  · intro c c' db db' alike same
    obtain ⟨result, left⟩ := alike.agrees db db' same
    exact ⟨result.eq, left⟩
  · exact fun c kind db given unknown => c.run_of_unknown given unknown db
  · exact fun operation there a b a' b' s selves =>
      (Application.on_pairOperation there selves (.refl s.database)).2

/-- An id that would end a statement and begin another one, were it part of a text. -/
def intruder : String := "\x27\x7d) DETACH DELETE u //"

theorem parameters_only_intruder :
    let db := Database.ofScript [.records [[("found", .bool true)]]]
    let asked (source : String) (kind : Json) :=
      (Command.relationshipExists (.str source) (.str "bob") kind).run.run.run db
    let followed (source : String) :=
      ((Operation.follow source "bob").program.on Application.backend
        (.created .default [.records [[("u", .obj [("user_id", .str "bob")])]]])).2.database
    (asked intruder (.str "FOLLOWING")).2.queries.map Query.sent =
      (asked "ann" (.str "FOLLOWING")).2.queries.map Query.sent ∧
    asked "ann" (.str intruder) = (.error (.unknownRelationship (.str intruder)), db) ∧
    (followed intruder).queries.map Query.sent = (followed "ann").queries.map Query.sent := by
  intro db asked followed
  obtain ⟨-, alike, unknown, pairs⟩ := parameters_only
  refine ⟨?_, ?_, ?_⟩
  · exact (alike _ _ db db (.relationshipExists (.str "FOLLOWING") _ _ _ _) (.refl db)).2.sent
  · exact unknown _ _ db rfl fun known => by cases known <;> decide
  · exact (pairs Operation.follow (by simp [Application.pairOperations]) intruder "bob" "ann" "bob"
      _ (by decide)).sent

end Cypher
end FollowGraph
