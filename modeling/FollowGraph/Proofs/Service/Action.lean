import FollowGraph.Proofs.Service.Contracts
import FollowGraph.Proofs.Service.Run

/-!
# What a client does and sees

An `Action` is one thing that a client of the services does, and a `Reply` is what comes back. The
operations are most of the actions; the others are the question whether a user is stored, which is
answered by yes or no, and to wait.
-/

set_option autoImplicit false

namespace FollowGraph

inductive Action where
  | perform (op : Operation)
  | askStored (userId : String)
  | wait (seconds : Nat)
  deriving DecidableEq

inductive Reply where
  | response (outcome : Except Failure Response)
  | stored (known : Bool)
  | silence

namespace Action

def program : Action → Program Reply
  | .perform op => Reply.response <$> ExceptT.run op.program
  | .askStored userId => Reply.stored <$> Users.isStored (.str userId)
  | .wait _ => pure .silence

/-- The time that an action takes. -/
def seconds : Action → Nat
  | .perform _ | .askStored _ => 0
  | .wait seconds => seconds

/-- The parts of the stores that an action can change. -/
def effects : Action → List Effect
  | .perform op => op.effects
  | .askStored _ | .wait _ => []

theorem uses_effects (action : Action) : action.program.Uses (Call.Within action.effects) := by
  cases action with
  | perform op => exact Program.Uses.map op.uses_effects _
  | askStored userId => exact Program.Uses.map (Users.obeys_isStored (.str userId)).uses _
  | wait seconds => trivial

end Action

namespace World

/-- What an action brings back, and the stores after it. -/
def act (w : World) (action : Action) : Reply × World :=
  let (reply, v) := action.program.run backend w
  (reply, { v with clock := v.clock + action.seconds })

/-- The stores after some actions, the first of them first. -/
def actAll (w : World) : List Action → World
  | [] => w
  | action :: rest => (w.act action).2.actAll rest

theorem keeps_wiring : backend.Keeps (fun _ => True) fun w v : World => v.wiring = w.wiring where
  refl _ := rfl
  trans first second := second.trans first
  answer c w _ := (answered_answer c w).fixed.2
  record _ _ := rfl

/-- The way the stores are wired is not a matter of actions. -/
theorem wiring_actAll (w : World) (actions : List Action) :
    (w.actAll actions).wiring = w.wiring := by
  induction actions generalizing w with
  | nil => rfl
  | cons action rest ih =>
    exact (ih _).trans ((Program.uses_any action.program).run_keeps keeps_wiring w)

theorem act_perform (w : World) (op : Operation) :
    w.act (.perform op) = (.response (w.perform op).1, (w.perform op).2) := by
  simp [act, Action.program, Action.seconds, perform, Attempt.on, map_eq_pure_bind,
    Program.run_bind, Program.run]

end World
end FollowGraph
