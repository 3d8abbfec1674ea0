import FollowGraph.Proofs.Program.Footprint

/-!
# Where a run can end

A footprint says what no run does. `Attempt.Moves` says what a run did: it relates the state a run
began in to the one it ended in.

The runs of interest here have one eventful part somewhere in the middle, and calls before and
after it that keep what it is about. `Around Q E` is that shape. It does not matter which
calls stand around the part, nor whether the run got that far.
-/

set_option autoImplicit false

namespace FollowGraph

variable {σ α β : Type} {b : Backend σ} {P : Call → Prop} {Q E : σ → σ → Prop}

/-- A quiet stretch, or an event between two of them. -/
inductive Around (Q E : σ → σ → Prop) (s t : σ) : Prop where
  | quiet (all : Q s t)
  | once {u v : σ} (before : Q s u) (middle : E u v) (after : Q v t)

namespace Around

theorem after_quiet (keeps : b.Keeps P Q) {s t u : σ} (first : Q s t)
    (rest : Around Q E t u) : Around Q E s u := by
  cases rest with
  | quiet all => exact .quiet (keeps.trans first all)
  | once before middle after => exact .once (keeps.trans first before) middle after

theorem before_quiet (keeps : b.Keeps P Q) {s t u : σ} (first : Around Q E s t)
    (rest : Q t u) : Around Q E s u := by
  cases first with
  | quiet all => exact .quiet (keeps.trans all rest)
  | once before middle after => exact .once before middle (keeps.trans after rest)

end Around

namespace Attempt

/-- From every state the run ends in a related one, whether or not it fails. -/
def Moves (b : Backend σ) (R : σ → σ → Prop) (x : Attempt α) : Prop := ∀ s, R s (x.on b s).2

theorem Uses.moves {x : Attempt α} (h : x.Uses P) (keeps : b.Keeps P Q) :
    x.Moves b Q := h.run_keeps keeps

theorem Moves.quiet {x : Attempt α} (h : x.Uses P) (keeps : b.Keeps P Q) :
    x.Moves b (Around Q E) := fun s => .quiet (h.moves keeps s)

theorem Moves.event {x : Attempt α} (h : x.Moves b E) (keeps : b.Keeps P Q) :
    x.Moves b (Around Q E) := fun s => .once (keeps.refl s) (h s) (keeps.refl _)

/-- A quiet part in front. -/
theorem Moves.after {x : Attempt α} {f : α → Attempt β} (h : x.Uses P)
    (keeps : b.Keeps P Q) (rest : ∀ a, (f a).Moves b (Around Q E)) :
    (x >>= f).Moves b (Around Q E) := by
  intro s
  have first := h.moves keeps s
  rw [on_bind]
  generalize x.on b s = outcome at first ⊢
  rcases outcome with ⟨failure | a, t⟩
  · exact .quiet first
  · exact (rest a t).after_quiet keeps first

/-- A quiet part behind. -/
theorem Moves.before {x : Attempt α} {f : α → Attempt β} (h : x.Moves b (Around Q E))
    (keeps : b.Keeps P Q) (rest : ∀ a, (f a).Uses P) :
    (x >>= f).Moves b (Around Q E) := by
  intro s
  have first := h s
  rw [on_bind]
  generalize x.on b s = outcome at first ⊢
  rcases outcome with ⟨failure | a, t⟩
  · exact first
  · exact first.before_quiet keeps ((rest a).moves keeps t)

theorem Moves.catching {x : Attempt α} {recover : Failure → Program α}
    (h : x.Moves b (Around Q E)) (keeps : b.Keeps P Q)
    (rest : ∀ failure, (recover failure).Uses P) :
    (always (x.catching recover)).Moves b (Around Q E) := by
  intro s
  have first := h s
  rw [on_always, run_catching]
  generalize x.on b s = outcome at first ⊢
  rcases outcome with ⟨failure | a, t⟩
  · exact first.before_quiet keeps ((rest failure).run_keeps keeps t)
  · exact first

end Attempt
end FollowGraph
