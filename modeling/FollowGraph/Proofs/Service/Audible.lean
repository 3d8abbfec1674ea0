import FollowGraph.Proofs.Pair.Exclusive
import FollowGraph.Proofs.Pair.Granted
import FollowGraph.Proofs.Service.Accounts
import FollowGraph.Proofs.Service.HalfDone

/-!
# Internal errors in the log

With everything in memory the log tells of failures: whatever calls fail in an operation, an
internal error is written down as an error, and a failure that is passed over is at least warned of
(`Flaky.audible`). There is one exception. When the mutual followers of two users cannot be looked
up, the response is an internal error and the log has no more than a warning
(`Flaky.hushed_acquainted`).

The contracts of the operations leave open that a write is refused. It never is: of the graph an
operation knows enough before it writes (`Flaky.not_refused`).
-/

set_option autoImplicit false

namespace FollowGraph

open Attempt History

/-- In memory no call adds to the log. -/
theorem World.log_answer {w : World}
    (memory : w.wiring = { cacheOnServer := false, channel := none }) (c : Call) :
    (w.answer c).2.log = w.log := by
  cases c with
  | graph call => rfl
  | cacheGet key =>
    simp only [answer, cacheGet, memory, Bool.false_eq_true, if_false]
    split <;> rfl
  | cacheSet key value ttl =>
    simp only [answer, cacheSet, memory, Bool.false_eq_true, if_false]
    split <;> rfl
  | cacheDelete key =>
    simp only [answer, cacheDelete, memory, Bool.false_eq_true, if_false]
    split <;> rfl
  | publish name payload =>
    simp only [answer, publish, memory]
    split <;> rfl
  | presetMutualCount source target => rfl

namespace Flaky

variable (schedule : Schedule) {s : Flaky}

/-- The calls of an operation, with their answers. -/
def heard (s : Flaky) (op : Operation) : History :=
  op.program.trace (backend schedule) { s with calls := [] }

def noted (s : Flaky) (op : Operation) : List LogEntry :=
  op.program.entries (backend schedule) { s with calls := [] }

/-- No write is refused in an operation: each was made sure of. -/
theorem not_refused (s : Flaky) (op : Operation) : ¬ (s.heard schedule op).Refused := by
  rintro ⟨e, refused⟩
  rcases op.pair_or_keeps with ⟨pairOp, rfl⟩ | keeps
  · obtain ⟨permitted, -⟩ := pairOp.guarded.run (backend schedule) { s with calls := [] }
    have lived := lived_run schedule (ExceptT.run pairOp.operation.program) { s with calls := [] }
    obtain ⟨created, deleted⟩ := PairOperation.Permitted.not_refused permitted lived e
    exact refused.elim created deleted
  · have within := op.uses_effects.trace (backend schedule) { s with calls := [] }
    rcases refused with ⟨v, there, -⟩ | ⟨v, there, -⟩
    · exact keeps (within _ there _ rfl)
    · exact keeps (within _ there _ rfl)

/-- In memory nothing but an operation's own entries is added to the log. -/
theorem log_perform (memory : s.world.wiring = { cacheOnServer := false, channel := none })
    (op : Operation) :
    (s.perform schedule op).2.world.log = s.world.log ++ s.noted schedule op := by
  refine Program.run_log (b := backend schedule) (fun t => t.world.log)
    (I := fun t => t.world.wiring = s.world.wiring) ?_ ?_ _ rfl
  · intro c t same
    cases hf : schedule t.total c with
    | some failure =>
      rw [answer_of_failing schedule hf]
      exact ⟨same, rfl⟩
    | none =>
      rw [answer_of_passing schedule hf]
      exact ⟨(World.answered_answer c t.world).fixed.2.trans same,
        World.log_answer (same.trans memory) c⟩
  · exact fun entry t same => ⟨same, rfl⟩

/-- The one thing that goes unreported: the mutual followers of a pair cannot be looked up. -/
def Hushes (s : Flaky) : Operation → Prop
  | .mutualFollowers a b => ∃ failure,
    ((backend schedule).answer (.graph (.commonConnection (.str a) (.str b))) s).1 = .error failure
  | _ => False

theorem answer_forgotten (s : Flaky) (c : Call) :
    ((backend schedule).answer c { s with calls := [] }).1 = ((backend schedule).answer c s).1 := by
  show (answer schedule c { s with calls := [] }).1 = (answer schedule c s).1
  unfold answer
  cases schedule s.total c <;> rfl

/-- Users that could be looked up are never null. -/
theorem not_null_of_told {a b : UserId} {v : Value}
    (told : ((backend schedule).answer (.graph (.commonConnection a b)) s).1 = .ok v) :
    v.isNull = false := by
  cases hf : schedule s.total (.graph (.commonConnection a b)) with
  | some failure =>
    rw [answer_of_failing schedule hf] at told
    cases told
  | none =>
    rw [answer_of_passing schedule hf] at told
    change (s.world.graph.nodes (s.world.graph.commonIds a b)).map Value.users = .ok v at told
    cases nodes : s.world.graph.nodes (s.world.graph.commonIds a b) with
    | error failure =>
      rw [nodes] at told
      cases told
    | ok users =>
      rw [nodes] at told
      cases told
      rfl

theorem lost_iff_hushes (s : Flaky) (a b : String) :
    (s.heard schedule (.mutualFollowers a b)).Lost ↔ s.Hushes schedule (.mutualFollowers a b) := by
  let c : Call := .graph (.commonConnection (.str a) (.str b))
  have first : (s.heard schedule (.mutualFollowers a b)).Lost ↔
      ∀ v, ((backend schedule).answer c { s with calls := [] }).1 = .ok v → v.isNull = true :=
    Iff.rfl
  rw [first, answer_forgotten]
  constructor
  · intro lost
    cases answered : ((backend schedule).answer c s).1 with
    | error failure => exact ⟨failure, answered⟩
    | ok v =>
      have null := lost v answered
      rw [not_null_of_told schedule answered] at null
      cases null
  · rintro ⟨failure, answered⟩ v told
    rw [answered] at told
    cases told

/-- **What the log tells of an operation in memory**, whatever calls fail in it. An internal error
is written down as an error in all cases but one, and no failure is passed over without a warning. -/
theorem audible (memory : s.world.wiring = { cacheOnServer := false, channel := none })
    {op : Operation} {r : Response} (answered : (s.perform schedule op).1 = .ok r) :
    ∃ entries, (s.perform schedule op).2.world.log = s.world.log ++ entries ∧
      ((r.Internal ∧ ¬ Reported entries) ↔ s.Hushes schedule op) ∧
      Warned (s.heard schedule op) entries := by
  refine ⟨s.noted schedule op, log_perform schedule memory op, ?_⟩
  have accounted (other : ∀ a b, op ≠ .mutualFollowers a b) :
      Warned (s.heard schedule op) (s.noted schedule op) ∧
        (r.Internal → Reported (s.noted schedule op)) := by
    have noted := Notes.run (Operation.accounts other) answered
    refine ⟨noted.warned, fun internal => ?_⟩
    exact (noted.reported internal).resolve_right (not_refused schedule s op)
  cases op with
  | mutualFollowers a b =>
    have noted := Notes.run (notes_always (E := fun _ _ => True) (Search.notes_mutualFollowers _ _))
      answered
    exact ⟨noted.silent.trans (lost_iff_hushes schedule s a b), noted.warned⟩
  | _ =>
    obtain ⟨warned, reported⟩ := accounted fun _ _ differ => by cases differ
    exact ⟨iff_of_false (fun silent => silent.2 (reported silent.1)) id, warned⟩

end Flaky

def Schedule.unconnected : Schedule := fun _ c =>
  match c with
  | .graph (.commonConnection ..) => some (.external "ConnectionError" "graph down")
  | _ => none

/-- A follow that fails is an error in the log; mutual followers who cannot be looked up are not. -/
theorem Flaky.audible_acquainted :
    let follow := (ofWorld acquainted).perform .fixedEdges (.follow "bob" "ann")
    let search := (ofWorld acquainted).perform .unconnected (.mutualFollowers "ann" "bob")
    (∃ entries, follow.2.world.log = acquainted.log ++ entries ∧ Reported entries) ∧
      ∃ entries, search.2.world.log = acquainted.log ++ entries ∧ ¬ Reported entries := by
  intro follow search
  have refused : follow.1 = .ok (.internalError "Failed to follow user") := rfl
  have lost : search.1 = .ok (.internalError "Failed to get mutual followers") := rfl
  constructor
  · obtain ⟨entries, log, silent, -⟩ := audible .fixedEdges rfl refused
    refine ⟨entries, log, ?_⟩
    by_contra unreported
    exact silent.1 ⟨rfl, unreported⟩
  · obtain ⟨entries, log, silent, -⟩ := audible .unconnected rfl lost
    exact ⟨entries, log, (silent.2 ⟨_, rfl⟩).2⟩

/-- The response says that something went wrong, and the log has no more than a warning. -/
theorem Flaky.hushed_acquainted :
    let search := (ofWorld acquainted).perform .unconnected (.mutualFollowers "ann" "bob")
    search.1 = .ok (.internalError "Failed to get mutual followers") ∧
      (Response.internalError "Failed to get mutual followers").Internal ∧
      search.2.world.log.map LogEntry.level = [.warning] := by
  intro search
  exact ⟨rfl, rfl, by decide +kernel⟩

end FollowGraph
