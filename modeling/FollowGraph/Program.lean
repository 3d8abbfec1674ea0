import FollowGraph.Call
import FollowGraph.Log

/-!
Programs over the stores.

A `Program` either is done, or makes a call and goes on with whatever comes back, a failure
included, or writes a log entry and goes on. What the stores do is left open: `Program.run` takes
a `Backend` that answers each call, and two programs can be interleaved call by call.

An `Attempt` is a program that a failing call ends. `Attempt.catching` turns it back into a program
that always has a result, which is how every public operation is bounded.
-/

set_option autoImplicit false

namespace FollowGraph

inductive Program (α : Type) : Type where
  | done (value : α)
  | call (c : Call) (resume : Except Failure Value → Program α)
  | note (entry : LogEntry) (rest : Program α)

namespace Program

variable {α β γ : Type}

/-- The first program, then the one that its result chooses. -/
def bind : Program α → (α → Program β) → Program β
  | .done value, f => f value
  | .call c resume, f => .call c fun answer => (resume answer).bind f
  | .note entry rest, f => .note entry (rest.bind f)

instance : Monad Program where
  pure := .done
  bind := .bind

@[simp] theorem pure_eq (value : α) : (pure value : Program α) = .done value := rfl

@[simp] theorem bind_eq (p : Program α) (f : α → Program β) : p >>= f = p.bind f := rfl

@[simp] theorem bind_done (value : α) (f : α → Program β) : (done value).bind f = f value := rfl

theorem bind_done_right (p : Program α) : p.bind .done = p := by
  induction p with
  | done _ => rfl
  | call c resume ih => simp [bind, ih]
  | note entry rest ih => simp [bind, ih]

theorem bind_assoc (p : Program α) (f : α → Program β) (g : β → Program γ) :
    (p.bind f).bind g = p.bind fun a => (f a).bind g := by
  induction p with
  | done _ => rfl
  | call c resume ih => simp [bind, ih]
  | note entry rest ih => simp [bind, ih]

instance : LawfulMonad Program :=
  LawfulMonad.mk' Program bind_done_right (fun _ _ => rfl) bind_assoc

/-- Writes a log entry. -/
def log (level : LogLevel) (source : LogSource) (text : String) : Program Unit :=
  .note { level, source, text } (.done ())

end Program

/-- What answers the calls of a program and takes its log entries. -/
structure Backend (σ : Type) where
  answer : Call → σ → Except Failure Value × σ
  record : LogEntry → σ → σ

/-- The result of a program on a backend, and the backend's state afterwards. -/
def Program.run {σ α : Type} (b : Backend σ) : Program α → σ → α × σ
  | .done value, s => (value, s)
  | .call c resume, s =>
    let (answer, s) := b.answer c s
    (resume answer).run b s
  | .note entry rest, s => rest.run b (b.record entry s)

/-- Running two programs one after the other runs the second from where the first ended. -/
theorem Program.run_bind {σ α β : Type} (b : Backend σ) (p : Program α) (f : α → Program β)
    (s : σ) : (p.bind f).run b s = (f (p.run b s).1).run b (p.run b s).2 := by
  induction p generalizing s with
  | done _ => rfl
  | call c resume ih => simp [bind, run, ih]
  | note entry rest ih => simp [bind, run, ih]

/-- A program that a failing call ends with its failure. -/
abbrev Attempt (α : Type) := ExceptT Failure Program α

namespace Attempt

variable {α : Type}

/-- One call. -/
def call (c : Call) : Attempt Value := ExceptT.mk (.call c .done)

/-- A value that is there, or a failure. -/
def ofExcept (value : Except Failure α) : Attempt α := ExceptT.mk (.done value)

/-- A program as an attempt that no failing call ends. -/
def always (program : Program α) : Attempt α := ExceptT.lift program

def log (level : LogLevel) (source : LogSource) (text : String) : Attempt Unit :=
  ExceptT.lift (Program.log level source text)

/-- The attempt with something else to do in place of failing. -/
def catching (attempt : Attempt α) (recover : Failure → Program α) : Program α :=
  (ExceptT.run attempt).bind fun
    | .ok value => .done value
    | .error failure => recover failure

end Attempt
end FollowGraph
