import FollowGraph.Proofs.Pair.Permits

/-!
# Every write has its checks in front of it

Each of the five operations keeps to its permissions on any stores at all: stores that change while
the operation runs, that contradict themselves, or that fail half way.

Each function has one contract here, proved from its text. Unfollowing and removing a follower ask
in different orders and remove one edge each; `Ready` is what both know before they do, `Took` what
both have done. A block runs each of the two behind a check of its own, and passes over what comes
of them: `Cleared` is all that is left of it for a block to rely on.
-/

set_option autoImplicit false

namespace FollowGraph

open Attempt History

/-! ## Contracts of the checks -/

/-- Whatever was heard, calls that change nothing are allowed. -/
def Lenient (G : History → Call → Prop) : Prop := ∀ h c, c.Reads → G h c

theorem Lenient.after {G : History → Call → Prop} (h : Lenient G) (s : History) :
    Lenient fun t => G (s ++ t) := fun t => h (s ++ t)

/-- The answer to the question whether an edge is there. -/
structure Checked (e : Edge) (s : History) (found : Bool) : Prop where
  among : Among [e.query] s
  steady : Steady s
  affirmed : Affirmed s e.query ↔ found = true
  denied : Denied s e.query ↔ found = false

/-- The calls of the question whether either of two users has blocked the other. -/
def blockQueries (a b : UserId) : List Call := [(Edge.blocked a b).query, (Edge.blocked b a).query]

theorem about_removal {a b : UserId} {e : Edge} :
    ∀ c ∈ e.deletion :: e.query :: blockQueries a b, ∃ f : Edge, c = f.query ∨ c = f.deletion := by
  simp only [blockQueries, List.mem_cons, List.not_mem_nil, or_false]
  rintro c (rfl | rfl | rfl | rfl)
  · exact ⟨_, .inr rfl⟩
  · exact ⟨_, .inl rfl⟩
  · exact ⟨_, .inl rfl⟩
  · exact ⟨_, .inl rfl⟩

/-- The answer to that question. -/
structure Looked (a b : UserId) (s : History) (stored : Option (UserId × UserId)) : Prop where
  among : Among (blockQueries a b) s
  steady : Steady s
  free : stored = none → Free s a b
  found : ∀ x y, stored = some (x, y) →
    (x, y) = (a, b) ∧ Affirmed s (Edge.blocked a b).query ∨
    (x, y) = (b, a) ∧ Denied s (Edge.blocked a b).query ∧ Affirmed s (Edge.blocked b a).query

section Contracts

variable {G : History → Call → Prop} {E : History → Prop} {a b : UserId}

theorem guarded_relationshipExists (lenient : Lenient G) (kind : Relationship)
    (broke : ∀ s, Among [(⟨a, b, kind⟩ : Edge).query] s → ¬ Steady s → E s) :
    (Ask.relationshipExists a b kind).holds.Guarded G (Checked ⟨a, b, kind⟩) E := by
  have asked : (Ask.relationshipExists a b kind).Guarded G
      (fun s v => s = [⟨(⟨a, b, kind⟩ : Edge).query, .ok v⟩]) E := by
    refine guarded_call (lenient _ _ rfl) (fun _ => rfl) ?_
    intro failure
    exact broke _ (among_singleton.2 (List.mem_singleton.2 rfl)) not_steady_error
  refine asked.holds.mono ?_ fun _ failed => failed
  rintro _ _ ⟨v, rfl, rfl⟩
  refine ⟨among_singleton.2 (List.mem_singleton.2 rfl), steady_ok, ?_, ?_⟩ <;> simp

theorem guarded_blockedDirection (lenient : Lenient G)
    (broke : ∀ s, Among (blockQueries a b) s → ¬ Steady s → E s) :
    (Queries.blockedDirection a b).Guarded G (Looked a b) E := by
  unfold Queries.blockedDirection
  have own {s : History} {e : Edge} (he : e.query ∈ blockQueries a b) (h : Among [e.query] s) :
      Among (blockQueries a b) s := h.mono (by simpa using he)
  refine (guarded_relationshipExists lenient .blocked fun s among failed =>
    broke s (own (by simp [blockQueries]) among) failed).bind ?_
  intro s mine first
  have firstAmong := own (by simp [blockQueries]) first.among
  refine guarded_ite ?_ ?_
  · intro found
    refine guarded_pure_after ?_
    refine ⟨firstAmong, first.steady, nofun, ?_⟩
    rintro x y ⟨⟩
    exact .inl ⟨rfl, first.affirmed.2 found⟩
  · intro absent
    have denied : Denied s (Edge.blocked a b).query := first.denied.2 (Bool.not_eq_true _ ▸ absent)
    refine (guarded_relationshipExists (lenient.after s) .blocked fun t among failed => ?_).bind ?_
    · refine broke _ (among_append.2 ⟨firstAmong, own (by simp [blockQueries]) among⟩) ?_
      exact fun steady => failed (steady_append.1 steady).2
    intro t theirs second
    have among : Among (blockQueries a b) (s ++ t) :=
      among_append.2 ⟨firstAmong, own (by simp [blockQueries]) second.among⟩
    have steady : Steady (s ++ t) := steady_append.2 ⟨first.steady, second.steady⟩
    refine guarded_ite ?_ ?_
    · intro found
      refine guarded_pure ?_
      rw [List.append_nil]
      refine ⟨among, steady, nofun, ?_⟩
      rintro x y ⟨⟩
      exact .inr ⟨rfl, heard_append.2 (.inl denied),
        heard_append.2 (.inr (second.affirmed.2 found))⟩
    · intro none_found
      refine (guarded_log (Q := fun u _ => u = []) rfl).bind ?_
      rintro _ _ rfl
      refine guarded_pure ?_
      rw [List.append_nil, List.append_nil]
      refine ⟨among, steady, fun _ => ?_, nofun⟩
      exact ⟨heard_append.2 (.inl denied),
        heard_append.2 (.inr (second.denied.2 (Bool.not_eq_true _ ▸ none_found)))⟩

/-- The answer to the question whether there is a block between two users. -/
structure Limits (a b : UserId) (s : History) (limited : Bool) : Prop where
  among : Among (blockQueries a b) s
  steady : Steady s
  free : limited = false → Free s a b
  found : limited = true →
    Affirmed s (Edge.blocked a b).query ∨ Affirmed s (Edge.blocked b a).query

theorem guarded_isBlocked (lenient : Lenient G)
    (broke : ∀ s, Among (blockQueries a b) s → ¬ Steady s → E s) :
    (Queries.isBlocked a b).Guarded G (Limits a b) E := by
  refine (guarded_blockedDirection lenient broke).bind ?_
  intro s stored looked
  refine guarded_pure_after ?_
  cases stored with
  | none => exact ⟨looked.among, looked.steady, fun _ => looked.free rfl, nofun⟩
  | some stored =>
    refine ⟨looked.among, looked.steady, nofun, fun _ => ?_⟩
    rcases looked.found stored.1 stored.2 rfl with ⟨-, own⟩ | ⟨-, -, other⟩
    · exact .inl own
    · exact .inr other

/-- The calls that look two users up. -/
def findCalls (a b : UserId) : List Call := [.graph (.findNode b), .graph (.findNode a)]

/-- The answer to the question whether both users of a pair are there. -/
structure Sought (a b : UserId) (s : History) (both : Bool) : Prop where
  among : Among (findCalls a b) s
  found : both = true → Found s b ∧ Found s a

theorem guarded_findNode (lenient : Lenient G) (x : UserId)
    (broke : ∀ s, Among [.graph (.findNode x)] s → E s) :
    (Ask.findNode x).Guarded G (fun s v => s = [⟨.graph (.findNode x), .ok v⟩]) E :=
  guarded_call (lenient _ _ rfl) (fun _ => rfl) fun _ =>
    broke _ (among_singleton.2 (List.mem_singleton.2 rfl))

theorem guarded_bothExist (lenient : Lenient G) (broke : ∀ s, Among (findCalls a b) s → E s) :
    (Follow.bothExist a b).Guarded G (Sought a b) E := by
  unfold Follow.bothExist
  have of_target {s : History} (h : Among [.graph (.findNode b)] s) : Among (findCalls a b) s :=
    h.mono (by simp [findCalls])
  have of_source {s : History} (h : Among [.graph (.findNode a)] s) : Among (findCalls a b) s :=
    h.mono (by simp [findCalls])
  refine (guarded_findNode lenient b fun s among => broke s (of_target among)).bind ?_
  rintro _ v rfl
  have target : Among (findCalls a b) [⟨.graph (.findNode b), .ok v⟩] :=
    of_target (among_singleton.2 (List.mem_singleton.2 rfl))
  refine guarded_ite ?_ ?_
  · intro missing
    refine guarded_pure ⟨target, nofun⟩
  · intro there
    refine (guarded_findNode (lenient.after _) a fun s among =>
      broke _ (among_append.2 ⟨target, of_source among⟩)).bind ?_
    rintro _ w rfl
    refine guarded_pure ⟨among_append.2 ⟨target, ?_⟩, fun both => ⟨?_, ?_⟩⟩
    · exact of_source (among_singleton.2 (List.mem_singleton.2 rfl))
    · exact heard_append.2 (.inl (heard_ok.2 ⟨rfl, Bool.not_eq_true _ ▸ there⟩))
    · refine heard_append.2 (.inr (heard_ok.2 ⟨rfl, ?_⟩))
      simpa using both

/-! ## Unfollowing and removing a follower -/

/-- Makes a write and answers by what came back. -/
theorem guarded_answered {α : Type} {Q : History → α → Prop} {c : Call} {level : LogLevel}
    {source : LogSource} {text : String} {yes no : α} (allowed : G [] c)
    (ok : ∀ v, v.isFalsy = false → Q [⟨c, .ok v⟩] yes)
    (refused : ∀ v, v.isFalsy = true → Q [⟨c, .ok v⟩] no)
    (broke : ∀ failure, E [⟨c, .error failure⟩]) :
    (do if ← (call c).holds then
          Attempt.log level source text
          pure yes
        else pure no).Guarded G Q E := by
  have asked : (call c).Guarded G (fun s v => s = [⟨c, .ok v⟩]) E :=
    guarded_call allowed (fun _ => rfl) broke
  refine asked.holds.bind ?_
  rintro _ _ ⟨v, rfl, rfl⟩
  refine guarded_ite ?_ ?_
  · intro held
    refine (guarded_log (Q := fun s _ => s = []) rfl).bind ?_
    rintro _ _ rfl
    exact guarded_pure (ok v (by simpa using held))
  · intro falsy
    exact guarded_pure (refused v (by simpa using falsy))

/-- The same for a success or an error, which then says whether the write went through. -/
theorem guarded_written {c : Call} {level : LogLevel} {source : LogSource}
    {text message failed : String} {data : Value} (allowed : G [] c) :
    (do if ← (call c).holds then
          Attempt.log level source text
          pure (Response.ok message data)
        else pure (.internalError failed)).Guarded G
      (fun s r => Among [c] s ∧ (r.success = true ↔ Affirmed s c))
      fun s => Among [c] s ∧
        ((Response.internalError failed).success = true ↔ Affirmed s c) := by
  have among {answer : Except Failure Value} : Among [c] [⟨c, answer⟩] :=
    among_singleton.2 (List.mem_singleton.2 rfl)
  refine guarded_answered allowed ?_ ?_ ?_
  · intro v held
    exact ⟨among, by simp [Response.ok, held]⟩
  · intro v falsy
    exact ⟨among, by simp [Response.internalError, Response.fail, falsy]⟩
  · intro failure
    exact ⟨among, by simp [Response.internalError, Response.fail]⟩

/-- What is known of two users when a following edge is taken away: it is there, and neither has
blocked the other. -/
structure Ready (a b : UserId) (e : Edge) (s : History) : Prop where
  among : Among (e.query :: blockQueries a b) s
  steady : Steady s
  there : Affirmed s e.query
  undenied : ¬ Denied s e.query
  free : Free s a b

theorem Ready.of_checks {x y : UserId} {s t : History}
    (checked : Checked (Edge.following x y) s true) (looked : Limits a b t false) :
    Ready a b (Edge.following x y) (s ++ t) where
  among := among_append.2 ⟨checked.among.mono (by simp),
    looked.among.mono (List.subset_cons_self _ _)⟩
  steady := steady_append.2 ⟨checked.steady, looked.steady⟩
  there := heard_append.2 (.inl (checked.affirmed.2 rfl))
  undenied denied := by
    rcases heard_append.1 denied with first | second
    · cases checked.denied.1 first
    · exact looked.among.not_heard (by simp [blockQueries]) second
  free := (looked.free rfl).append_left s

/-- The order of the checks does not matter. -/
theorem Ready.swap {e : Edge} {s t : History} (h : Ready a b e (s ++ t)) :
    Ready a b e (t ++ s) where
  among := among_append.2 (among_append.1 h.among).symm
  steady := steady_append.2 (steady_append.1 h.steady).symm
  there := heard_append.2 (heard_append.1 h.there).symm
  undenied denied := h.undenied (heard_append.2 (heard_append.1 denied).symm)
  free := ⟨heard_append.2 (heard_append.1 h.free.1).symm,
    heard_append.2 (heard_append.1 h.free.2).symm⟩

/-- What an operation that takes a following edge away has done, and what it says of that. -/
structure Took (a b : UserId) (e : Edge) (s : History) (r : Response) : Prop where
  among : Among (e.deletion :: e.query :: blockQueries a b) s
  wrote : r.success = true ↔ Affirmed s e.deletion
  /-- Told of no block before, the edge is gone, or it is known why not. -/
  gone : a ≠ b → ∀ h, Free h a b → Gone (h ++ s) a b e
  failed : ¬ Steady s → r.success = false ∧ r.statusCode = 500

variable {e : Edge}

theorem Took.self {r : Response} (same : a = b) (unsuccessful : r.success = false) :
    Took a b e [] r where
  among := fun _ there => by cases there
  wrote := by simp [unsuccessful]
  gone differ := absurd same differ
  failed unsteady := absurd steady_nil unsteady

/-- Without its write an operation is not successful. -/
theorem Took.of_reads {s : History} {r : Response} (among : Among (e.query :: blockQueries a b) s)
    (unsuccessful : r.success = false) (gone : ∀ h, Free h a b → Gone (h ++ s) a b e)
    (failed : ¬ Steady s → r.success = false ∧ r.statusCode = 500) : Took a b e s r where
  among := among.mono (List.subset_cons_self _ _)
  wrote := by
    have unwritten : ¬ Affirmed s e.deletion := among.not_heard (by simp [blockQueries])
    simp [unsuccessful, unwritten]
  gone _ := gone
  failed := failed

theorem Took.of_failed {s : History} (among : Among (e.query :: blockQueries a b) s)
    (unsteady : ¬ Steady s) (message : String) : Took a b e s (.internalError message) := by
  refine .of_reads among rfl ?_ fun _ => ⟨rfl, rfl⟩
  intro h _
  have flawed := flawed_of_not_steady (among.mono (List.subset_cons_self e.deletion _))
    about_removal unsteady
  exact .failed (flawed_append.2 (.inr flawed))

theorem Took.of_limited {s : History} {r : Response}
    (among : Among (e.query :: blockQueries a b) s) (steady : Steady s)
    (unsuccessful : r.success = false)
    (found : Affirmed s (Edge.blocked a b).query ∨ Affirmed s (Edge.blocked b a).query) :
    Took a b e s r := by
  refine .of_reads among unsuccessful ?_ fun unsteady => absurd steady unsteady
  intro h free
  exact .limited (found.imp (turned_of_append free.1) (turned_of_append free.2))

theorem Took.of_absent {s : History} {r : Response}
    (among : Among (e.query :: blockQueries a b) s) (steady : Steady s)
    (unsuccessful : r.success = false) (absent : Denied s e.query) : Took a b e s r := by
  refine .of_reads among unsuccessful ?_ fun unsteady => absurd steady unsteady
  intro h _
  exact .absent (heard_append.2 (.inr absent))

/-- The write itself, whatever comes back from it. -/
theorem Ready.took {s : History} (h : Ready a b e s) {answer : Except Failure Value} {r : Response}
    (wrote : r.success = true ↔ ∃ v, answer = .ok v ∧ v.isFalsy = false)
    (failed : ∀ failure, answer = .error failure → r.success = false ∧ r.statusCode = 500) :
    Took a b e (s ++ [⟨e.deletion, answer⟩]) r where
  among := by
    refine among_append.2 ⟨h.among.mono (List.subset_cons_self _ _), among_singleton.2 ?_⟩
    exact List.mem_cons_self
  wrote := by
    have unwritten : ¬ Affirmed s e.deletion := h.among.not_heard (by simp [blockQueries])
    refine wrote.trans (Iff.trans ?_ (heard_append.trans (or_iff_right unwritten)).symm)
    cases answer <;> simp
  gone _ before _ := by
    cases answer with
    | ok v =>
      refine .deleted (heard_append.2 (.inr (heard_append.2 (.inr ?_))))
      exact heard_ok.2 ⟨rfl, trivial⟩
    | error failure =>
      have flawed : Flawed [⟨e.deletion, .error failure⟩] :=
        ⟨e, failure, .inr (List.mem_singleton.2 rfl)⟩
      exact .failed (flawed_append.2 (.inr (flawed_append.2 (.inr flawed))))
  failed unsteady := by
    cases answer with
    | ok v => exact absurd (steady_append.2 ⟨h.steady, steady_ok⟩) unsteady
    | error failure => exact failed failure rfl

/-- The last part of both operations. -/
theorem Ready.guarded {s : History} (h : Ready a b e s) (allowed : G s e.deletion)
    {level : LogLevel} {source : LogSource} {text message failed : String} {data : Value} :
    (do if ← (call e.deletion).holds then
          Attempt.log level source text
          pure (Response.ok message data)
        else pure (.internalError failed)).Guarded
      (fun t => G (s ++ t)) (fun t => Took a b e (s ++ t))
      fun t => Took a b e (s ++ t) (.internalError failed) := by
  refine guarded_answered ?_ ?_ ?_ ?_
  · rw [List.append_nil]
    exact allowed
  · intro v held
    exact h.took (by simp [Response.ok, held]) nofun
  · intro v falsy
    exact h.took (by simp [Response.internalError, Response.fail, falsy]) nofun
  · intro failure
    exact h.took (by simp [Response.internalError, Response.fail]) fun _ _ => ⟨rfl, rfl⟩

theorem guarded_unfollow (lenient : Lenient G)
    (allowed : ∀ s, a ≠ b → Ready a b (Edge.following a b) s →
      G s (Edge.following a b).deletion) :
    (Follow.unfollow a b).Guarded G (Took a b (Edge.following a b)) := by
  unfold Follow.unfollow
  by_cases same : a = b
  · rw [if_pos same]
    exact Took.self same rfl
  rw [if_neg same]
  refine Guarded.answering ?_ _
  refine (guarded_relationshipExists lenient .following fun s among failed =>
    .of_failed (among.mono (by simp)) failed _).bind ?_
  intro s following checked
  have first : Among ((Edge.following a b).query :: blockQueries a b) s :=
    checked.among.mono (by simp)
  cases following with
  | false =>
    exact guarded_pure_after (.of_absent first checked.steady rfl (checked.denied.2 rfl))
  | true =>
    refine (guarded_isBlocked (lenient.after s) fun t among failed => ?_).bind ?_
    · refine .of_failed (among_append.2 ⟨first, among.mono (List.subset_cons_self _ _)⟩) ?_ _
      exact fun steady => failed (steady_append.1 steady).2
    intro t limited looked
    simp only [← List.append_assoc]
    cases limited with
    | true =>
      refine guarded_pure_after ?_
      refine .of_limited (among_append.2 ⟨first, looked.among.mono (List.subset_cons_self _ _)⟩)
        (steady_append.2 ⟨checked.steady, looked.steady⟩) rfl ((looked.found rfl).imp ?_ ?_)
      · exact fun own => heard_append.2 (.inr own)
      · exact fun other => heard_append.2 (.inr other)
    | false =>
      have ready := Ready.of_checks checked looked
      exact ready.guarded (allowed _ same ready)

theorem guarded_removeFollower (lenient : Lenient G)
    (allowed : ∀ s, a ≠ b → Ready a b (Edge.following b a) s →
      G s (Edge.following b a).deletion) :
    (Follow.removeFollower a b).Guarded G (Took a b (Edge.following b a)) := by
  unfold Follow.removeFollower
  by_cases same : a = b
  · rw [if_pos same]
    exact Took.self same rfl
  rw [if_neg same]
  refine Guarded.answering ?_ _
  refine (guarded_isBlocked lenient fun s among failed =>
    .of_failed (among.mono (List.subset_cons_self _ _)) failed _).bind ?_
  intro s limited looked
  have first : Among ((Edge.following b a).query :: blockQueries a b) s :=
    looked.among.mono (List.subset_cons_self _ _)
  cases limited with
  | true =>
    exact guarded_pure_after (.of_limited first looked.steady rfl (looked.found rfl))
  | false =>
    refine (guarded_relationshipExists (lenient.after s) .following fun t among failed =>
      ?_).bind ?_
    · refine .of_failed (among_append.2 ⟨first, among.mono (by simp)⟩) ?_ _
      exact fun steady => failed (steady_append.1 steady).2
    intro t following checked
    simp only [← List.append_assoc]
    cases following with
    | false =>
      refine guarded_pure_after (.of_absent (among_append.2 ⟨first, ?_⟩) ?_ rfl ?_)
      · exact checked.among.mono (by simp)
      · exact steady_append.2 ⟨looked.steady, checked.steady⟩
      · exact heard_append.2 (.inr (checked.denied.2 rfl))
    | true =>
      have ready := (Ready.of_checks checked looked).swap
      exact ready.guarded (allowed _ same ready)

/-! ## The steps of a block -/

/-- What a step of a block leaves behind: it has dealt with its edge, one way or another. -/
structure Cleared (a b : UserId) (e : Edge) (s : History) : Prop where
  among : Among (e.deletion :: e.query :: blockQueries a b) s
  gone : a ≠ b → ∀ h, Free h a b → Gone (h ++ s) a b e

theorem Cleared.of_failed {e : Edge} {s : History} (among : Among [e.query] s)
    (unsteady : ¬ Steady s) : Cleared a b e s where
  among := among.mono (by simp)
  gone _ h _ := by
    have all : Among (e.deletion :: e.query :: blockQueries a b) s := among.mono (by simp)
    exact .failed (flawed_append.2 (.inr (flawed_of_not_steady all about_removal unsteady)))

theorem Cleared.of_absent {e : Edge} {s : History} (checked : Checked e s false) :
    Cleared a b e s where
  among := checked.among.mono (by simp)
  gone _ h _ := .absent (heard_append.2 (.inr (checked.denied.2 rfl)))

theorem Cleared.of_took {e : Edge} {s t : History} {r : Response} (checked : Checked e s true)
    (took : Took a b e t r) : Cleared a b e (s ++ t) where
  among := among_append.2 ⟨checked.among.mono (by simp), took.among⟩
  gone differ h free := by
    rw [← List.append_assoc]
    exact took.gone differ (h ++ s) (free.append_right s)

theorem Ready.after_checked {e : Edge} {s t : History} (checked : Checked e s true)
    (h : Ready a b e t) : Ready a b e (s ++ t) where
  among := among_append.2 ⟨checked.among.mono (by simp), h.among⟩
  steady := steady_append.2 ⟨checked.steady, h.steady⟩
  there := heard_append.2 (.inl (checked.affirmed.2 rfl))
  undenied denied := by
    rcases heard_append.1 denied with first | second
    · cases checked.denied.1 first
    · exact h.undenied second
  free := h.free.append_left s

/-- A step checks for the edge, runs its operation if the edge is there, and logs the rest. -/
theorem guarded_detach {x y : UserId} {operation : Program Response} (step : String)
    (contract : ∀ {G' : History → Call → Prop}, Lenient G' →
      (∀ s, a ≠ b → Ready a b (Edge.following x y) s → G' s (Edge.following x y).deletion) →
      operation.Guarded G' (Took a b (Edge.following x y)))
    (lenient : Lenient G)
    (allowed : ∀ s, a ≠ b → Ready a b (Edge.following x y) s →
      G s (Edge.following x y).deletion) :
    (Block.detach step a b (Queries.isFollowing x y).holds operation).Guarded G
      fun s _ => Cleared a b (Edge.following x y) s := by
  unfold Block.detach
  refine Program.Guarded.bind (Q := fun s _ => Cleared a b (Edge.following x y) s) ?_ ?_
  · refine Guarded.answering ?_ _
    refine (guarded_relationshipExists lenient .following fun s among failed =>
      .of_failed among failed).bind ?_
    intro s following checked
    cases following with
    | false =>
      refine guarded_pure ?_
      rw [List.append_nil]
      exact .of_absent checked
    | true =>
      refine (guarded_always (contract (lenient.after s) fun t differ ready =>
        allowed _ differ (ready.after_checked checked))).bind ?_
      intro t response took
      refine guarded_pure ?_
      rw [List.append_nil]
      exact .of_took checked took
  · intro s outcome cleared
    have rest : Cleared a b (Edge.following x y) (s ++ []) := by
      rw [List.append_nil]
      exact cleared
    cases outcome with
    | none => exact rest
    | some response =>
      show Program.Guarded (if response.success then _ else _) _ _
      cases response.success <;> exact rest

/-! ## Following -/

/-- What a follow has done before it announces anything, and what it says of that. -/
structure Linked (a b : UserId) (s : History) (refusal : Option Response) : Prop where
  among : Among ((Edge.following a b).creation :: (Edge.following a b).query ::
    (findCalls a b ++ blockQueries a b)) s
  wrote : refusal = none ↔ Affirmed s (Edge.following a b).creation
  refused : ∀ r ∈ refusal, r.success = false
  /-- The edge is the last thing that is written, and was not written before. -/
  last : refusal = none → ∃ before v,
    s = before ++ [⟨(Edge.following a b).creation, .ok v⟩] ∧
      Never before (Edge.following a b).creation

theorem Linked.of_reads {s : History} {r : Response}
    (among : Among ((Edge.following a b).query :: (findCalls a b ++ blockQueries a b)) s)
    (unsuccessful : r.success = false) : Linked a b s (some r) where
  among := among.mono (List.subset_cons_self _ _)
  wrote := by
    have unwritten : ¬ Affirmed s (Edge.following a b).creation :=
      among.not_heard (by simp [findCalls, blockQueries])
    simp [unwritten]
  refused := by simp [unsuccessful]
  last := nofun

/-- What a follow knows when it writes. -/
structure Clear (a b : UserId) (s : History) : Prop where
  among : Among ((Edge.following a b).query :: (findCalls a b ++ blockQueries a b)) s
  target : Found s b
  source : Found s a
  absent : Denied s (Edge.following a b).query
  free : Free s a b

theorem Clear.linked {s : History} (h : Clear a b s) {answer : Except Failure Value}
    {refusal : Option Response}
    (wrote : refusal = none ↔ ∃ v, answer = .ok v ∧ v.isFalsy = false)
    (refused : ∀ r ∈ refusal, r.success = false) :
    Linked a b (s ++ [⟨(Edge.following a b).creation, answer⟩]) refusal where
  among := by
    refine among_append.2 ⟨h.among.mono (List.subset_cons_self _ _), among_singleton.2 ?_⟩
    exact List.mem_cons_self
  wrote := by
    have unwritten : ¬ Affirmed s (Edge.following a b).creation :=
      h.among.not_heard (by simp [findCalls, blockQueries])
    refine wrote.trans (Iff.trans ?_ (heard_append.trans (or_iff_right unwritten)).symm)
    cases answer <;> simp
  refused := refused
  last := by
    intro done
    obtain ⟨v, rfl, -⟩ := wrote.1 done
    exact ⟨s, v, rfl, h.among.never (by simp [findCalls, blockQueries])⟩

theorem guarded_followEdge (lenient : Lenient G)
    (allowed : ∀ s, Clear a b s → G s (Edge.following a b).creation) :
    (Follow.followEdge a b).Guarded G (Linked a b)
      fun s => Linked a b s (some (.internalError "Failed to follow user")) := by
  unfold Follow.followEdge
  have of_find {s : History} (h : Among (findCalls a b) s) :
      Among ((Edge.following a b).query :: (findCalls a b ++ blockQueries a b)) s :=
    h.mono (by simp)
  have of_query {s : History} (h : Among [(Edge.following a b).query] s) :
      Among ((Edge.following a b).query :: (findCalls a b ++ blockQueries a b)) s :=
    h.mono (by simp)
  have of_block {s : History} (h : Among (blockQueries a b) s) :
      Among ((Edge.following a b).query :: (findCalls a b ++ blockQueries a b)) s :=
    h.mono (by simp)
  refine (guarded_bothExist lenient fun s among => .of_reads (of_find among) rfl).bind ?_
  intro s both sought
  have first := of_find sought.among
  cases both with
  | false =>
    exact guarded_pure_after (.of_reads first rfl)
  | true =>
    refine (guarded_relationshipExists (lenient.after s) .following fun t among _ =>
      .of_reads (among_append.2 ⟨first, of_query among⟩) rfl).bind ?_
    intro t following checked
    simp only [← List.append_assoc]
    have second := among_append.2 ⟨first, of_query checked.among⟩
    cases following with
    | true =>
      exact guarded_pure_after (.of_reads second rfl)
    | false =>
      refine (guarded_isBlocked (lenient.after (s ++ t)) fun u among _ =>
        .of_reads (among_append.2 ⟨second, of_block among⟩) rfl).bind ?_
      intro u limited looked
      simp only [← List.append_assoc]
      have third := among_append.2 ⟨second, of_block looked.among⟩
      cases limited with
      | true =>
        exact guarded_pure_after (.of_reads third rfl)
      | false =>
        obtain ⟨target, source⟩ := sought.found rfl
        have clear : Clear a b (s ++ t ++ u) := by
          refine ⟨third, ?_, ?_, ?_, (looked.free rfl).append_left _⟩
          · exact heard_append.2 (.inl (heard_append.2 (.inl target)))
          · exact heard_append.2 (.inl (heard_append.2 (.inl source)))
          · exact heard_append.2 (.inl (heard_append.2 (.inr (checked.denied.2 rfl))))
        refine guarded_answered ?_ ?_ ?_ ?_
        · rw [List.append_nil]
          exact allowed _ clear
        · intro v held
          exact clear.linked (by simp [held]) nofun
        · intro v falsy
          exact clear.linked (by simp [falsy]) (by simp [Response.internalError, Response.fail])
        · intro failure
          exact clear.linked (by simp) (by simp [Response.internalError, Response.fail])

theorem guarded_notifyNewFollow (lenient : Lenient G)
    (allowed : ∀ s event payload, Among [.graph (.findNode a)] s → G s (.publish event payload)) :
    (Follow.notifyNewFollow a b).Guarded G fun _ _ => True := by
  unfold Follow.notifyNewFollow
  refine Guarded.answering ?_ _
  refine (guarded_findNode lenient a fun _ _ => trivial).bind ?_
  rintro _ v rfl
  refine (guarded_ofExcept (Q := fun s _ => s = []) (fun _ => rfl) trivial).bind ?_
  rintro _ name rfl
  refine (guarded_call (Q := fun _ _ => True) ?_ (fun _ => trivial) fun _ => trivial).bind ?_
  · exact allowed _ _ _ (among_singleton.2 (List.mem_singleton.2 rfl))
  · intro _ _ _
    exact guarded_pure trivial

end Contracts

/-! ## The five operations -/

section Operations

theorem PairOperation.lenient_permits (op : PairOperation) : Lenient op.Permits :=
  fun _ _ reads => .read reads

theorem text_ne {a b : String} (h : (Json.str a) ≠ .str b) : a ≠ b := fun same => h (same ▸ rfl)

variable (a b : String)

theorem guarded_follow :
    (Follow.follow (.str a) (.str b)).Guarded (PairOperation.follow a b).Permits
      fun h r => r.success = true ↔ (PairOperation.follow a b).Wrote h := by
  unfold Follow.follow
  by_cases same : (Json.str a) = .str b
  · rw [if_pos same]
    show false = true ↔ Affirmed [] _
    simp
  rw [if_neg same]
  have lenient := (PairOperation.follow a b).lenient_permits
  refine Program.Guarded.bind (Guarded.answering (guarded_followEdge lenient ?_) _) ?_
  · intro s clear
    exact .follow (text_ne same) (clear.among.never (by simp [findCalls, blockQueries]))
      clear.target clear.source clear.absent clear.free
  · intro s refusal linked
    cases refusal with
    | some response =>
      have unwritten : ¬ Affirmed s (Edge.following (.str a) (.str b)).creation :=
        fun wrote => nomatch linked.wrote.2 wrote
      show _ ↔ Affirmed (s ++ []) _
      rw [List.append_nil]
      simp [linked.refused response rfl, unwritten]
    | none =>
      have wrote := linked.wrote.1 rfl
      refine Program.Guarded.bind (guarded_notifyNewFollow (lenient.after s) ?_) ?_
      · intro t event payload among
        refine .announce ?_ (heard_append.2 (.inl wrote))
        intro event payload
        refine never_append.2 ⟨linked.among.never ?_, among.never (by simp)⟩
        simp [findCalls, blockQueries, Edge.creation, Edge.query]
      · intro t _ _
        show true = true ↔ Affirmed (s ++ (t ++ [])) _
        simp [wrote]

/-- What a block knows when it begins to write. -/
structure Entered (a b : String) (h : History) : Prop where
  among : Among (findCalls (.str a) (.str b) ++ blockQueries (.str a) (.str b)) h
  target : Found h (.str b)
  source : Found h (.str a)
  free : Free h (.str a) (.str b)

variable {a b} in
/-- A step of a block can take its edge away if no step before was about the same edge. -/
theorem Entered.permits {e : Edge} {calls : List Call} {h u v : History} (entered : Entered a b h)
    (differ : a ≠ b)
    (between : e = Edge.following (.str a) (.str b) ∨ e = Edge.following (.str b) (.str a))
    (earlier : Among calls u) (unasked : e.query ∉ calls) (untaken : e.deletion ∉ calls)
    (unblocked : (Edge.blocked (.str a) (.str b)).creation ∉ calls)
    (ready : Ready (.str a) (.str b) e v) :
    (PairOperation.block a b).Permits (h ++ u ++ v) e.deletion := by
  have fresh : e.kind = .following := by rcases between with rfl | rfl <;> rfl
  have unasked_yet : e.query ∉ findCalls (.str a) (.str b) ++ blockQueries (.str a) (.str b) := by
    cases e
    cases fresh
    simp [findCalls, blockQueries]
  refine .detach differ between ?_ ?_ ?_ ?_ ((entered.free.append_right u).append_right v)
  · refine never_append.2 ⟨never_append.2 ⟨?_, earlier.never untaken⟩, ?_⟩
    · exact entered.among.never (by simp [findCalls, blockQueries])
    · exact ready.among.never (by simp [blockQueries])
  · refine never_append.2 ⟨never_append.2 ⟨?_, earlier.never unblocked⟩, ?_⟩
    · exact entered.among.never (by simp [findCalls, blockQueries])
    · exact ready.among.never (by simp [blockQueries])
  · exact heard_append.2 (.inr ready.there)
  · intro denied
    rcases heard_append.1 denied with old | new
    · rcases heard_append.1 old with older | old
      · exact entered.among.not_heard unasked_yet older
      · exact earlier.not_heard unasked old
    · exact ready.undenied new

variable {a b} in
theorem Entered.never {h u v : History} (entered : Entered a b h)
    (out : Cleared (.str a) (.str b) (Edge.following (.str a) (.str b)) u)
    (back : Cleared (.str a) (.str b) (Edge.following (.str b) (.str a)) v) :
    Never (h ++ u ++ v) (Edge.blocked (.str a) (.str b)).creation := by
  refine never_append.2 ⟨never_append.2 ⟨?_, ?_⟩, ?_⟩
  · exact entered.among.never (by simp [findCalls, blockQueries])
  · exact out.among.never (by simp [blockQueries])
  · exact back.among.never (by simp [blockQueries])

variable {a b} in
/-- After both steps a block can add its edge. -/
theorem Entered.permits_creation {h u v : History} (entered : Entered a b h)
    (same : (Json.str a) ≠ .str b)
    (out : Cleared (.str a) (.str b) (Edge.following (.str a) (.str b)) u)
    (back : Cleared (.str a) (.str b) (Edge.following (.str b) (.str a)) v) :
    (PairOperation.block a b).Permits (h ++ u ++ v) (Edge.blocked (.str a) (.str b)).creation := by
  refine .block (text_ne same) (entered.never out back) ?_ ?_ ?_ ?_ ?_
  · exact heard_append.2 (.inl (heard_append.2 (.inl entered.target)))
  · exact heard_append.2 (.inl (heard_append.2 (.inl entered.source)))
  · exact (entered.free.append_right u).append_right v
  · exact (out.gone same h entered.free).append_right v
  · exact back.gone same (h ++ u) (entered.free.append_right u)

/-- The last part of a block. -/
theorem Entered.guarded_write {a b : String} {h u v : History} (entered : Entered a b h)
    (same : (Json.str a) ≠ .str b)
    (out : Cleared (.str a) (.str b) (Edge.following (.str a) (.str b)) u)
    (back : Cleared (.str a) (.str b) (Edge.following (.str b) (.str a)) v)
    {level : LogLevel} {source : LogSource} {text message failed : String} {data : Value} :
    (do if ← (call (Edge.blocked (.str a) (.str b)).creation).holds then
          Attempt.log level source text
          pure (Response.ok message data)
        else pure (.internalError failed)).Guarded
      (fun w => (PairOperation.block a b).Permits (h ++ u ++ v ++ w))
      (fun w r => r.success = true ↔ (PairOperation.block a b).Wrote (h ++ u ++ v ++ w))
      fun w => (Response.internalError failed).success = true ↔
        (PairOperation.block a b).Wrote (h ++ u ++ v ++ w) := by
  have never := entered.never out back
  refine (guarded_written ?_).mono ?_ ?_
  · rw [List.append_nil]
    exact entered.permits_creation same out back
  · rintro w r ⟨-, wrote⟩
    exact wrote.trans (heard_append.trans (or_iff_right never.not_heard)).symm
  · rintro w ⟨-, wrote⟩
    exact wrote.trans (heard_append.trans (or_iff_right never.not_heard)).symm

/-- What an operation says of a history in which it did not make its write. -/
theorem PairOperation.not_wrote {op : PairOperation} {h : History} {r : Response}
    (unsuccessful : r.success = false) (unwritten : ¬ op.Wrote h) :
    r.success = true ↔ op.Wrote h := by simp [unsuccessful, unwritten]

theorem guarded_block :
    (Block.block (.str a) (.str b)).Guarded (PairOperation.block a b).Permits
      fun h r => r.success = true ↔ (PairOperation.block a b).Wrote h := by
  unfold Block.block
  by_cases same : (Json.str a) = .str b
  · rw [if_pos same]
    exact PairOperation.not_wrote rfl never_nil.not_heard
  rw [if_neg same]
  refine Guarded.answering ?_ _
  have lenient := (PairOperation.block a b).lenient_permits
  have unwritten {s : History} {calls : List Call} (among : Among calls s)
      (out : (Edge.blocked (.str a) (.str b)).creation ∉ calls) :
      ¬ (PairOperation.block a b).Wrote s := among.not_heard out
  refine (guarded_bothExist lenient fun s among =>
    PairOperation.not_wrote rfl (unwritten among (by simp [findCalls]))).bind ?_
  intro s both sought
  cases both with
  | false =>
    refine guarded_pure ?_
    rw [List.append_nil]
    exact PairOperation.not_wrote rfl (unwritten sought.among (by simp [findCalls]))
  | true =>
    obtain ⟨target, source⟩ := sought.found rfl
    have asked {t : History} (among : Among (blockQueries (.str a) (.str b)) t) :
        Among (findCalls (.str a) (.str b) ++ blockQueries (.str a) (.str b)) (s ++ t) :=
      among_append.2 ⟨sought.among.mono (List.subset_append_left _ _),
        among.mono (List.subset_append_right _ _)⟩
    refine (guarded_isBlocked (lenient.after s) fun t among _ =>
      PairOperation.not_wrote rfl
        (unwritten (asked among) (by simp [findCalls, blockQueries]))).bind ?_
    intro t limited looked
    simp only [← List.append_assoc]
    cases limited with
    | true =>
      refine guarded_pure ?_
      rw [List.append_nil]
      exact PairOperation.not_wrote rfl
        (unwritten (asked looked.among) (by simp [findCalls, blockQueries]))
    | false =>
      have entered : Entered a b (s ++ t) :=
        ⟨asked looked.among, heard_append.2 (.inl target), heard_append.2 (.inl source),
          (looked.free rfl).append_left s⟩
      generalize s ++ t = h at entered
      have differ := text_ne same
      -- The two steps, each with the history before it.
      refine (guarded_always (guarded_detach "unfollow" guarded_unfollow (lenient.after h)
        ?_)).bind ?_
      · intro u _ ready
        have nothing : Among [] ([] : History) := nofun
        have permitted := entered.permits differ (.inl rfl) nothing nofun nofun nofun ready
        rw [List.append_nil] at permitted
        exact permitted
      intro u _ out
      simp only [← List.append_assoc]
      refine (guarded_always (guarded_detach "remove follower" guarded_removeFollower
        (lenient.after (h ++ u)) ?_)).bind ?_
      · intro v _ ready
        exact entered.permits differ (.inr rfl) out.among (by simp [blockQueries, differ.symm])
          (by simp [blockQueries, differ.symm]) (by simp [blockQueries]) ready
      intro v _ back
      simp only [← List.append_assoc]
      exact entered.guarded_write same out back

theorem guarded_unblock :
    (Block.unblock (.str a) (.str b)).Guarded (PairOperation.unblock a b).Permits
      fun h r => r.success = true ↔ (PairOperation.unblock a b).Wrote h := by
  unfold Block.unblock
  by_cases same : (Json.str a) = .str b
  · rw [if_pos same]
    exact PairOperation.not_wrote rfl (by simp [PairOperation.Wrote])
  rw [if_neg same]
  refine Guarded.answering ?_ _
  have lenient := (PairOperation.unblock a b).lenient_permits
  have untaken {s : History} (among : Among (blockQueries (.str a) (.str b)) s) (e : Edge) :
      Never s e.deletion := among.never (by simp [blockQueries])
  have unwritten {s : History} (among : Among (blockQueries (.str a) (.str b)) s) :
      ¬ (PairOperation.unblock a b).Wrote s := by
    rintro (own | other)
    · exact (untaken among _).not_heard own
    · exact (untaken among _).not_heard other
  refine (guarded_blockedDirection lenient fun s among _ =>
    PairOperation.not_wrote rfl (unwritten among)).bind ?_
  intro s stored looked
  cases stored with
  | none =>
    refine guarded_pure ?_
    rw [List.append_nil]
    exact PairOperation.not_wrote rfl (unwritten looked.among)
  | some stored =>
    obtain ⟨x, y⟩ := stored
    have pair := looked.found x y rfl
    have never := untaken looked.among
    have wrote {t : History} (among : Among [(Edge.blocked x y).deletion] t) :
        Affirmed t (Edge.blocked x y).deletion ↔ (PairOperation.unblock a b).Wrote (s ++ t) := by
      have only {x' y' : UserId} : Affirmed (s ++ t) (Edge.blocked x' y').deletion ↔
          Affirmed t (Edge.blocked x' y').deletion :=
        heard_append.trans (or_iff_right (never _).not_heard)
      have apart {x' y' : UserId} (differ : (x', y') ≠ (x, y)) :
          ¬ Affirmed t (Edge.blocked x' y').deletion :=
        among.not_heard (by simpa using differ)
      refine Iff.symm ((or_congr only only).trans ?_)
      rcases pair with ⟨⟨⟩, -⟩ | ⟨⟨⟩, -⟩
      · exact or_iff_left (apart (by simp [Ne.symm same]))
      · exact or_iff_right (apart (by simp [same]))
    refine (guarded_written ?_).mono ?_ ?_
    · rw [List.append_nil]
      rcases pair with ⟨⟨⟩, own⟩ | ⟨⟨⟩, notOwn, other⟩
      · exact .unblock (text_ne same) never own
      · exact .unblockBack (text_ne same) never notOwn other
    · rintro t r ⟨among, success⟩
      exact success.trans (wrote among)
    · rintro t ⟨among, success⟩
      exact success.trans (wrote among)

theorem PairOperation.guarded (op : PairOperation) :
    op.operation.program.Guarded op.Permits (fun h r => r.success = true ↔ op.Wrote h)
      fun _ => False := by
  cases op with
  | follow a b => exact guarded_always (guarded_follow a b)
  | unfollow a b =>
    refine guarded_always ((guarded_unfollow (lenient_permits _) ?_).mono ?_)
    · intro s differ ready
      exact .unfollow (text_ne differ) (ready.among.never (by simp [blockQueries])) ready.there
        ready.free
    · exact fun _ _ took => took.wrote
  | removeFollower a b =>
    refine guarded_always ((guarded_removeFollower (lenient_permits _) ?_).mono ?_)
    · intro s differ ready
      exact .removeFollower (text_ne differ) (ready.among.never (by simp [blockQueries]))
        ready.there ready.free
    · exact fun _ _ took => took.wrote
  | block a b => exact guarded_always (guarded_block a b)
  | unblock a b => exact guarded_always (guarded_unblock a b)

/-- **Checks before writes, on any stores.** Whatever answers the calls of an operation on a pair
of users, by whatever rule and with whatever failures: each call that the operation makes is one
that its earlier answers permit. The operation always has a response, and the response is a success
exactly if the operation's own write was answered with yes. -/
theorem PairOperation.checks_before_writes {σ : Type} (b : Backend σ) (s : σ)
    (op : PairOperation) :
    (∀ before asked after, op.operation.program.trace b s = before ++ asked :: after →
      op.Permits before asked.call) ∧
    ∃ r, (op.operation.program.on b s).1 = .ok r ∧
      (r.success = true ↔ op.Wrote (op.operation.program.trace b s)) :=
  op.guarded.run b s

/-- Stores that answer from a list, whatever they are asked. -/
def Backend.scripted : Backend (List (Except Failure Value)) where
  answer _
    | [] => (.error (.external "ConnectionError" "graph down"), [])
    | first :: rest => (first, rest)
  record _ rest := rest

/-- Yes to both users, no to both blocks, then yes to everything: the first step of the block sees
the edge it is to take away, and then a block that was not there before. -/
def twoFaced : List (Except Failure Value) :=
  [true, true, false, false, true, true, true, true, true, true].map fun b => .ok (.bool b)

theorem PairOperation.checks_before_writes_twoFaced :
    ∃ before, (PairOperation.block "ann" "bob").operation.program.trace .scripted twoFaced =
      before ++ [⟨(Edge.blocked (.str "ann") (.str "bob")).creation, .ok (.bool true)⟩] ∧
      (PairOperation.block "ann" "bob").Permits before
        (Edge.blocked (.str "ann") (.str "bob")).creation := by
  refine ⟨((PairOperation.block "ann" "bob").operation.program.trace .scripted twoFaced).dropLast,
    rfl, ?_⟩
  exact (checks_before_writes .scripted twoFaced (.block "ann" "bob")).1 _
    ⟨_, .ok (.bool true)⟩ [] rfl

end Operations
end FollowGraph
