import FollowGraph.Proofs.Program.Outcome

/-!
# The calls that a program can make

`Program.Uses P p` says that every call `p` can make satisfies `P`, whatever the stores answer. It
is a property of the program alone, so one proof of it serves every backend: a store that always
answers, one that fails at will, one that lies.

Two things follow from a footprint. What no call of it touches is as it was after the run
(`Uses.run_keeps`), and two backends that answer those calls alike give the same result
(`Uses.run_alike`).
-/

set_option autoImplicit false

namespace FollowGraph

variable {σ τ α β : Type} {P Q : Call → Prop}

/-- A relation between a state and a later one, respected by every call that satisfies `P` and by
every log entry. -/
structure Backend.Keeps (b : Backend σ) (P : Call → Prop) (R : σ → σ → Prop) : Prop where
  refl : ∀ s, R s s
  trans : ∀ {s t u}, R s t → R t u → R s u
  answer : ∀ c s, P c → R s (b.answer c s).2
  record : ∀ entry s, R s (b.record entry s)

namespace Program

/-- Every call that the program can make satisfies `P`. -/
def Uses (P : Call → Prop) : Program α → Prop
  | .done _ => True
  | .call c resume => P c ∧ ∀ answer, (resume answer).Uses P
  | .note _ rest => rest.Uses P

theorem Uses.mono {p : Program α} (h : p.Uses P) (le : ∀ c, P c → Q c) : p.Uses Q := by
  induction p with
  | done _ => trivial
  | call c resume ih => exact ⟨le c h.1, fun answer => ih answer (h.2 answer)⟩
  | note entry rest ih => exact ih h

theorem Uses.map {p : Program α} (h : p.Uses P) (f : α → β) : (f <$> p).Uses P := by
  rw [map_eq_pure_bind]
  induction p with
  | done _ => trivial
  | call c resume ih => exact ⟨h.1, fun answer => ih answer (h.2 answer)⟩
  | note entry rest ih => exact ih h

/-- A state and the one after a run are related whenever the allowed calls relate them. -/
theorem Uses.run_keeps {b : Backend σ} {R : σ → σ → Prop} {p : Program α} (h : p.Uses P)
    (keeps : b.Keeps P R) (s : σ) : R s (p.run b s).2 := by
  induction p generalizing s with
  | done _ => exact keeps.refl s
  | call c resume ih => exact keeps.trans (keeps.answer c s h.1) (ih _ (h.2 _) _)
  | note entry rest ih => exact keeps.trans (keeps.record entry s) (ih h _)

/-- Two backends that answer the allowed calls alike, in states that correspond, give the same
result, and their last states correspond. -/
theorem Uses.run_alike {b : Backend σ} {b' : Backend τ} {p : Program α} (h : p.Uses P)
    (R : σ → τ → Prop)
    (answer : ∀ c s t, P c → R s t →
      (b.answer c s).1 = (b'.answer c t).1 ∧ R (b.answer c s).2 (b'.answer c t).2)
    (record : ∀ e s t, R s t → R (b.record e s) (b'.record e t)) {s : σ} {t : τ} (hst : R s t) :
    (p.run b s).1 = (p.run b' t).1 ∧ R (p.run b s).2 (p.run b' t).2 := by
  induction p generalizing s t with
  | done _ => exact ⟨rfl, hst⟩
  | call c resume ih =>
    obtain ⟨same, next⟩ := answer c s t h.1 hst
    simp only [run]
    rw [same]
    exact ih _ (h.2 _) next
  | note entry rest ih => exact ih h (record entry s t hst)

theorem uses_any (p : Program α) : p.Uses fun _ => True := by
  induction p with
  | done _ => trivial
  | call c resume ih => exact ⟨trivial, ih⟩
  | note entry rest ih => exact ih

end Program

namespace Attempt

def Uses (P : Call → Prop) (x : Attempt α) : Prop := (ExceptT.run x).Uses P

theorem Uses.mono {x : Attempt α} (h : x.Uses P) (le : ∀ c, P c → Q c) : x.Uses Q :=
  Program.Uses.mono h le

end Attempt
end FollowGraph
