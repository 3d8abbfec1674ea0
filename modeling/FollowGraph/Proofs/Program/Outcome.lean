import FollowGraph.Service.Queries
import FollowGraph.Store.World

/-!
# What a program comes to

How the pieces of an attempt run on a backend: one equation for each way of putting an attempt
together, so that the run of an operation is computed from the answers to its calls.
-/

set_option autoImplicit false

namespace FollowGraph

variable {σ α β : Type}

namespace Attempt

/-- The outcome of an attempt on a backend, and the backend's state afterwards. -/
def on (b : Backend σ) (x : Attempt α) (s : σ) : Except Failure α × σ := (ExceptT.run x).run b s

variable (b : Backend σ)

@[simp] theorem on_pure (a : α) (s : σ) : (pure a : Attempt α).on b s = (.ok a, s) := rfl

@[simp] theorem on_bind (x : Attempt α) (f : α → Attempt β) (s : σ) :
    (x >>= f).on b s =
      match x.on b s with
      | (.ok a, t) => (f a).on b t
      | (.error failure, t) => (.error failure, t) := by
  show ((ExceptT.run x).bind _).run b s = _
  rw [Program.run_bind]
  unfold on
  rcases (ExceptT.run x).run b s with ⟨failure | a, t⟩ <;> rfl

@[simp] theorem on_map (f : α → β) (x : Attempt α) (s : σ) :
    (f <$> x).on b s = ((x.on b s).1.map f, (x.on b s).2) := by
  rw [map_eq_pure_bind, on_bind]
  rcases x.on b s with ⟨failure | a, t⟩ <;> rfl

@[simp] theorem on_call (c : Call) (s : σ) : (call c).on b s = b.answer c s := rfl

@[simp] theorem on_ofExcept (value : Except Failure α) (s : σ) :
    (ofExcept value).on b s = (value, s) := rfl

@[simp] theorem on_always (p : Program α) (s : σ) :
    (always p).on b s = (.ok (p.run b s).1, (p.run b s).2) := by
  show (p.bind _).run b s = _
  rw [Program.run_bind]
  rfl

@[simp] theorem on_log (level : LogLevel) (source : LogSource) (text : String) (s : σ) :
    (log level source text).on b s = (.ok (), b.record { level, source, text } s) := rfl

@[simp] theorem on_ite (c : Prop) [Decidable c] (x y : Attempt α) (s : σ) :
    (if c then x else y).on b s = if c then x.on b s else y.on b s := by
  split <;> rfl

/-- An attempt with something else to do runs it from where the failing call left the state. -/
@[simp] theorem run_catching (x : Attempt α) (recover : Failure → Program α) (s : σ) :
    (x.catching recover).run b s =
      match x.on b s with
      | (.ok a, t) => (a, t)
      | (.error failure, t) => (recover failure).run b t := by
  unfold catching
  rw [Program.run_bind]
  unfold on
  rcases (ExceptT.run x).run b s with ⟨failure | a, t⟩ <;> rfl

end Attempt
end FollowGraph
