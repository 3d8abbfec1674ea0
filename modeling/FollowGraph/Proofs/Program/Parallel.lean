import FollowGraph.Proofs.Program.Footprint

/-!
# Two programs side by side

Two programs run side by side when they make calls that correspond, one for one, as long as they
get the same answers. `Program.Parallel C R` says so of the programs alone: `C` relates their calls
and `R` their results. What they write into the log may differ.

Stores that give the same answer to calls that correspond then serve both programs alike
(`Parallel.run`). Parallel programs are put together from parallel parts; the results of a part may
differ, as long as the programs go on in the same way from both.
-/

set_option autoImplicit false

namespace FollowGraph

variable {σ τ α β γ δ : Type} {C : Call → Call → Prop}

/-- Results that correspond, or the same failure. -/
def Paired (R : α → β → Prop) : Except Failure α → Except Failure β → Prop
  | .ok a, .ok b => R a b
  | .error failure, .error failure' => failure = failure'
  | _, _ => False

theorem paired_self (value : Except Failure α) : Paired (· = ·) value value := by
  cases value <;> exact rfl

theorem Paired.eq {value value' : Except Failure α} (h : Paired (· = ·) value value') :
    value = value' := by
  cases value <;> cases value'
  · exact congrArg Except.error h
  · exact h.elim
  · exact h.elim
  · exact congrArg Except.ok h

namespace Program

def Parallel (C : Call → Call → Prop) (R : α → β → Prop) : Program α → Program β → Prop
  | .done a, .done b => R a b
  | .call c resume, .call d resume' =>
    C c d ∧ ∀ answer, (resume answer).Parallel C R (resume' answer)
  | .note _ rest, .note _ rest' => rest.Parallel C R rest'
  | _, _ => False

variable {R : α → β → Prop} {S : γ → δ → Prop}

theorem Parallel.bind {p : Program α} {q : Program β} {f : α → Program γ} {g : β → Program δ}
    (h : p.Parallel C R q) (rest : ∀ a b, R a b → (f a).Parallel C S (g b)) :
    (p.bind f).Parallel C S (q.bind g) := by
  induction p generalizing q with
  | done a =>
    cases q with
    | done b => exact rest a b h
    | _ => exact h.elim
  | call c resume ih =>
    cases q with
    | call d resume' => exact ⟨h.1, fun answer => ih answer (h.2 answer)⟩
    | _ => exact h.elim
  | note entry more ih =>
    cases q with
    | note entry' more' => exact ih h
    | _ => exact h.elim

/-- Stores that answer corresponding calls alike serve both programs alike. -/
theorem Parallel.run {b : Backend σ} {b' : Backend τ} {p : Program α} {q : Program β}
    (h : p.Parallel C R q) (T : σ → τ → Prop)
    (answer : ∀ c d s t, C c d → T s t →
      (b.answer c s).1 = (b'.answer d t).1 ∧ T (b.answer c s).2 (b'.answer d t).2)
    (record : ∀ e e' s t, T s t → T (b.record e s) (b'.record e' t)) {s : σ} {t : τ}
    (hst : T s t) : R (p.run b s).1 (q.run b' t).1 ∧ T (p.run b s).2 (q.run b' t).2 := by
  induction p generalizing q s t with
  | done a =>
    cases q with
    | done a' => exact ⟨h, hst⟩
    | _ => exact h.elim
  | call c resume ih =>
    cases q with
    | call d resume' =>
      obtain ⟨same, next⟩ := answer c d s t h.1 hst
      simp only [Program.run]
      rw [same]
      exact ih _ (h.2 _) next
    | _ => exact h.elim
  | note entry rest ih =>
    cases q with
    | note entry' rest' => exact ih h (record entry entry' s t hst)
    | _ => exact h.elim

end Program

namespace Attempt

def Parallel (C : Call → Call → Prop) (R : α → β → Prop) (x : Attempt α) (y : Attempt β) : Prop :=
  (ExceptT.run x).Parallel C (Paired R) (ExceptT.run y)

variable {R : α → β → Prop} {S : γ → δ → Prop}

theorem parallel_pure {a : α} {b : β} (h : R a b) :
    (pure a : Attempt α).Parallel C R (pure b) := h

theorem parallel_call {c d : Call} (h : C c d) : (call c).Parallel C (· = ·) (call d) :=
  ⟨h, fun answer => paired_self answer⟩

theorem parallel_ofExcept {value : Except Failure α} {value' : Except Failure β}
    (h : Paired R value value') : (ofExcept value).Parallel C R (ofExcept value') := h

theorem parallel_log {level level' : LogLevel} {source source' : LogSource} {text text' : String} :
    (log level source text).Parallel C (· = ·) (log level' source' text') := rfl

theorem Parallel.bind {x : Attempt α} {y : Attempt β} {f : α → Attempt γ} {g : β → Attempt δ}
    (h : x.Parallel C R y) (rest : ∀ a b, R a b → (f a).Parallel C S (g b)) :
    (x >>= f).Parallel C S (y >>= g) := by
  refine Program.Parallel.bind h ?_
  intro outcome outcome' paired
  cases outcome <;> cases outcome'
  · exact paired
  · exact paired.elim
  · exact paired.elim
  · exact rest _ _ paired

/-- Parts with the same result. -/
theorem Parallel.bind_eq {x y : Attempt α} {f : α → Attempt γ} {g : α → Attempt δ}
    (h : x.Parallel C (· = ·) y) (rest : ∀ a, (f a).Parallel C S (g a)) :
    (x >>= f).Parallel C S (y >>= g) :=
  h.bind fun a _ same => same ▸ rest a

theorem Parallel.holds {x y : Attempt Value} (h : x.Parallel C (· = ·) y) :
    x.holds.Parallel C (· = ·) y.holds := by
  unfold Attempt.holds
  rw [map_eq_pure_bind, map_eq_pure_bind]
  exact h.bind_eq fun _ => parallel_pure rfl

theorem parallel_always {p : Program α} {q : Program β} (h : p.Parallel C R q) :
    (always p).Parallel C R (always q) :=
  Program.Parallel.bind h fun _ _ related => related

theorem parallel_ite {c : Prop} [Decidable c] {x x' : Attempt α} {y y' : Attempt β}
    (yes : x.Parallel C R y) (no : x'.Parallel C R y') :
    (if c then x else x').Parallel C R (if c then y else y') := by
  split
  · exact yes
  · exact no

theorem Parallel.catching {x : Attempt α} {y : Attempt β} {recover : Failure → Program α}
    {recover' : Failure → Program β} (h : x.Parallel C R y)
    (rest : ∀ failure, (recover failure).Parallel C R (recover' failure)) :
    (x.catching recover).Parallel C R (y.catching recover') := by
  refine Program.Parallel.bind h ?_
  intro outcome outcome' paired
  cases outcome <;> cases outcome'
  · obtain rfl := paired
    exact rest _
  · exact paired.elim
  · exact paired.elim
  · exact paired

end Attempt
end FollowGraph
