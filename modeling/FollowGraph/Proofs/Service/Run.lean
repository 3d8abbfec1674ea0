import FollowGraph.Proofs.Program.Outcome
import FollowGraph.Proofs.Service.Effects

/-!
# Runs of the services

A run is a list of steps, each a public operation or some time that passes, in any order. Nothing
else happens to the stores, and no call fails but for what its arguments are.

An invariant of runs is a property that one step keeps (`World.after_keeps`). That the graph is
well formed is the first of them; it is kept by every program, so also half way through one.
-/

set_option autoImplicit false

namespace FollowGraph

/-- One step of a run. Time does not go back. -/
inductive Step where
  | perform (op : Operation)
  | wait (seconds : Nat)
  deriving DecidableEq

namespace World

def perform (w : World) (op : Operation) : Except Failure Response × World :=
  op.program.on backend w

def step (w : World) : Step → World
  | .perform op => (w.perform op).2
  | .wait seconds => { w with clock := w.clock + seconds }

/-- The stores after some steps, the first of them first. -/
def after (w : World) : List Step → World
  | [] => w
  | s :: rest => (w.step s).after rest

/-- What every step keeps holds after every run. -/
theorem after_keeps {P : World → Prop} (step : ∀ w s, P w → P (w.step s)) {w : World} (h : P w)
    (steps : List Step) : P (w.after steps) := by
  induction steps generalizing w with
  | nil => exact h
  | cons s rest ih => exact ih (step w s h)

theorem keeps_wellFormed :
    backend.Keeps (fun _ => True) fun w v : World => w.graph.WellFormed → v.graph.WellFormed where
  refl _ h := h
  trans first second h := second (first h)
  answer c w _ h := (answered_answer c w).wellFormed h
  record _ _ h := h

theorem wellFormed_run {α : Type} (p : Program α) {w : World} (h : w.graph.WellFormed) :
    (p.run backend w).2.graph.WellFormed :=
  (Program.uses_any p).run_keeps keeps_wellFormed w h

theorem wellFormed_step {w : World} (h : w.graph.WellFormed) (s : Step) :
    (w.step s).graph.WellFormed := by
  cases s with
  | perform op => exact wellFormed_run _ h
  | wait seconds => exact h

end World
end FollowGraph
