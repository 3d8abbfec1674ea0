import FollowGraph.Proofs.Program.Footprint
import FollowGraph.Proofs.Program.Outcome

/-!
# What holds of a program on any stores

A program hands the failure of a call on to whatever handles it, and nothing keeps it from putting
the failure's text into its result. `Program.Agrees` compares two programs call by call, where the
failures that two failing calls come back with need not be the same, nor the texts of log entries.
A program that agrees with itself shows no failure to its caller.

`Obeys P Q` is that self-agreement with two bounds: only calls that satisfy `P` are made, and all
results satisfy `Q`, whatever the stores answer. An attempt has a third one, whether it can fail. A
contract is proved from the text of a program, one lemma for each way of putting it together, and
says three things at once: the footprint (`Agrees.uses`), the result on every backend
(`Agrees.run_self`), and that two backends which fail at the same calls are served alike
(`Agrees.run`).
-/

set_option autoImplicit false

namespace FollowGraph

variable {σ τ α β γ δ : Type} {P : Call → Prop}

/-- Two outcomes that differ at most in what a failure says. A value satisfies `Q`, and there is a
failure only if `fails`. -/
def Settled (Q : α → Prop) (fails : Prop) : Except Failure α → Except Failure α → Prop
  | .ok a, .ok b => a = b ∧ Q a
  | .error _, .error _ => fails
  | _, _ => False

theorem Settled.mono {Q Q' : α → Prop} {fails fails' : Prop} {x y : Except Failure α}
    (h : Settled Q fails x y) (ok : ∀ a, Q a → Q' a) (error : fails → fails') :
    Settled Q' fails' x y := by
  cases x <;> cases y
  · exact error h
  · exact h
  · exact h
  · exact ⟨h.1, ok _ h.2⟩

theorem settled_self (x : Except Failure α) : Settled (fun _ => True) True x x := by
  cases x with
  | error _ => trivial
  | ok _ => exact ⟨rfl, trivial⟩

/-! ## Programs -/

namespace Program

/-- The two programs make the same calls, all of them in `P`, go on alike whatever comes back, and
end in results that `R` relates. -/
def Agrees (P : Call → Prop) (R : α → β → Prop) : Program α → Program β → Prop
  | .done a, .done b => R a b
  | .call c resume, .call d resume' =>
    c = d ∧ P c ∧ (∀ value, (resume (.ok value)).Agrees P R (resume' (.ok value))) ∧
      ∀ failure failure', (resume (.error failure)).Agrees P R (resume' (.error failure'))
  | .note _ rest, .note _ rest' => rest.Agrees P R rest'
  | _, _ => False

variable {R : α → β → Prop}

theorem Agrees.mono {S : α → β → Prop} {p : Program α} {q : Program β} (h : p.Agrees P R q)
    (le : ∀ a b, R a b → S a b) : p.Agrees P S q := by
  induction p generalizing q with
  | done a =>
    cases q with
    | done b => exact le a b h
    | _ => exact h
  | call c resume ih =>
    cases q with
    | call d resume' =>
      obtain ⟨same, allowed, ok, error⟩ := h
      exact ⟨same, allowed, fun value => ih _ (ok value),
        fun failure failure' => ih _ (error failure failure')⟩
    | _ => exact h
  | note entry rest ih =>
    cases q with
    | note entry' rest' => exact ih h
    | _ => exact h

theorem Agrees.bind {S : γ → δ → Prop} {p : Program α} {q : Program β} {f : α → Program γ}
    {g : β → Program δ} (h : p.Agrees P R q)
    (rest : ∀ a b, R a b → (f a).Agrees P S (g b)) : (p.bind f).Agrees P S (q.bind g) := by
  induction p generalizing q with
  | done a =>
    cases q with
    | done b => exact rest a b h
    | _ => exact h.elim
  | call c resume ih =>
    cases q with
    | call d resume' =>
      obtain ⟨same, allowed, ok, error⟩ := h
      exact ⟨same, allowed, fun value => ih _ (ok value),
        fun failure failure' => ih _ (error failure failure')⟩
    | _ => exact h.elim
  | note entry more ih =>
    cases q with
    | note entry' more' => exact ih h
    | _ => exact h.elim

/-- All calls of a program that agrees with another one are in the footprint. -/
theorem Agrees.uses {p : Program α} {q : Program β} (h : p.Agrees P R q) : p.Uses P := by
  induction p generalizing q with
  | done a => trivial
  | call c resume ih =>
    cases q with
    | call d resume' =>
      obtain ⟨-, allowed, ok, error⟩ := h
      refine ⟨allowed, fun
        | .ok value => ih _ (ok value)
        | .error failure => ih _ (error failure failure)⟩
    | _ => exact h.elim
  | note entry rest ih =>
    cases q with
    | note entry' rest' => exact ih h
    | _ => exact h.elim

/-- Two backends that fail at the same calls, in states that correspond, serve the two programs
alike. -/
theorem Agrees.run {b : Backend σ} {b' : Backend τ} {p : Program α} {q : Program β}
    (h : p.Agrees P R q) (T : σ → τ → Prop)
    (answer : ∀ c s t, P c → T s t →
      Settled (fun _ => True) True (b.answer c s).1 (b'.answer c t).1 ∧
        T (b.answer c s).2 (b'.answer c t).2)
    (record : ∀ e e' s t, T s t → T (b.record e s) (b'.record e' t)) {s : σ} {t : τ}
    (hst : T s t) : R (p.run b s).1 (q.run b' t).1 ∧ T (p.run b s).2 (q.run b' t).2 := by
  induction p generalizing q s t with
  | done a =>
    cases q with
    | done a' => exact ⟨h, hst⟩
    | _ => exact h.elim
  | call c resume ih =>
    cases q with
    | call d resume' =>
      obtain ⟨rfl, allowed, ok, error⟩ := h
      obtain ⟨settled, next⟩ := answer c s t allowed hst
      simp only [Program.run]
      revert settled
      cases (b.answer c s).1 with
      | ok value =>
        cases (b'.answer c t).1 with
        | ok value' =>
          rintro ⟨rfl, -⟩
          exact ih _ (ok value) next
        | error failure' => exact False.elim
      | error failure =>
        cases (b'.answer c t).1 with
        | ok value' => exact False.elim
        | error failure' => exact fun _ => ih _ (error failure failure') next
    | _ => exact h.elim
  | note entry rest ih =>
    cases q with
    | note entry' rest' => exact ih h (record entry entry' s t hst)
    | _ => exact h.elim

theorem Agrees.run_self {R : α → α → Prop} {p : Program α} (h : p.Agrees P R p) (b : Backend σ)
    (s : σ) : R (p.run b s).1 (p.run b s).1 := by
  induction p generalizing s with
  | done a => exact h
  | call c resume ih =>
    obtain ⟨-, -, ok, error⟩ := h
    simp only [Program.run]
    cases (b.answer c s).1 with
    | ok value => exact ih _ (ok value) _
    | error failure => exact ih _ (error failure failure) _
  | note entry rest ih => exact ih h _

/-- The program makes only calls in `P`, ends only in results that satisfy `Q`, and shows no
failure. -/
def Obeys (P : Call → Prop) (Q : α → Prop) (p : Program α) : Prop :=
  p.Agrees P (fun a b => a = b ∧ Q a) p

theorem obeys_done {Q : α → Prop} {a : α} (h : Q a) : (done a).Obeys P Q := ⟨rfl, h⟩

theorem Obeys.bind {Q : α → Prop} {Q' : β → Prop} {p : Program α} {f : α → Program β}
    (h : p.Obeys P Q) (rest : ∀ a, Q a → (f a).Obeys P Q') : (p.bind f).Obeys P Q' :=
  Agrees.bind h fun a _ same => same.1 ▸ rest a same.2

theorem Obeys.run {Q : α → Prop} {p : Program α} (h : p.Obeys P Q) (b : Backend σ) (s : σ) :
    Q (p.run b s).1 := (Agrees.run_self h b s).2

end Program

/-! ## Attempts -/

namespace Attempt

/-- As for programs; the attempt fails only if `fails`. -/
def Obeys (P : Call → Prop) (Q : α → Prop) (fails : Prop) (x : Attempt α) : Prop :=
  (ExceptT.run x).Agrees P (Settled Q fails) (ExceptT.run x)

/-- The contract of an attempt of which nothing matters but its calls. -/
abbrev Asks (P : Call → Prop) (x : Attempt α) : Prop := x.Obeys P (fun _ => True) True

variable {Q Q' : α → Prop} {fails : Prop} {x : Attempt α}

theorem obeys_pure {a : α} (h : Q a) : (pure a : Attempt α).Obeys P Q fails := ⟨rfl, h⟩

theorem asks_pure (a : α) : (pure a : Attempt α).Asks P := obeys_pure trivial

theorem asks_call {c : Call} (h : P c) : (call c).Asks P :=
  ⟨rfl, h, fun _ => ⟨rfl, trivial⟩, fun _ _ => trivial⟩

theorem obeys_ofExcept {value : Except Failure α} (ok : ∀ a, value = .ok a → Q a)
    (error : ∀ failure, value = .error failure → fails) :
    (ofExcept value).Obeys P Q fails := by
  cases value with
  | ok a => exact ⟨rfl, ok a rfl⟩
  | error failure => exact error failure rfl

theorem asks_ofExcept (value : Except Failure α) : (ofExcept value).Asks P :=
  obeys_ofExcept (fun _ _ => trivial) fun _ _ => trivial

theorem obeys_log (level : LogLevel) (source : LogSource) (text : String) :
    (log level source text).Obeys P (fun _ => True) fails := ⟨rfl, trivial⟩

theorem asks_log (level : LogLevel) (source : LogSource) (text : String) :
    (log level source text).Asks P := obeys_log level source text

theorem Obeys.mono (h : x.Obeys P Q fails) (le : ∀ a, Q a → Q' a) : x.Obeys P Q' fails :=
  Program.Agrees.mono h fun _ _ settled => settled.mono le id

theorem Obeys.asks (h : x.Obeys P Q fails) : x.Asks P :=
  Program.Agrees.mono h fun _ _ settled => settled.mono (fun _ _ => trivial) fun _ => trivial

theorem Obeys.bind {R : β → Prop} {f : α → Attempt β} (h : x.Obeys P Q fails)
    (rest : ∀ a, Q a → (f a).Obeys P R fails) : (x >>= f).Obeys P R fails :=
  Program.Agrees.bind h fun
    | .ok a, .ok _, same => same.1 ▸ rest a same.2
    | .error _, .error _, failed => failed
    | .ok _, .error _, differ => differ.elim
    | .error _, .ok _, differ => differ.elim

theorem Obeys.map {R : β → Prop} {f : α → β} (h : x.Obeys P Q fails)
    (le : ∀ a, Q a → R (f a)) : (f <$> x).Obeys P R fails := by
  rw [map_eq_pure_bind]
  exact h.bind fun a ha => obeys_pure (le a ha)

theorem Obeys.holds {x : Attempt Value} (h : x.Asks P) : x.holds.Asks P :=
  h.map fun _ _ => trivial

theorem obeys_always {p : Program α} (h : p.Obeys P Q) : (always p).Obeys P Q fails :=
  Program.Agrees.bind h fun _ _ same => same

theorem obeys_ite {c : Prop} [Decidable c] {x y : Attempt α} (hx : x.Obeys P Q fails)
    (hy : y.Obeys P Q fails) : (if c then x else y).Obeys P Q fails := by
  split
  · exact hx
  · exact hy

/-- What is done about a failure must not show it. -/
theorem Obeys.catching {recover : Failure → Program α} (h : x.Obeys P Q fails)
    (rest : ∀ failure failure',
      (recover failure).Agrees P (fun a b => a = b ∧ Q a) (recover failure')) :
    (x.catching recover).Obeys P Q :=
  Program.Agrees.bind h fun
    | .ok _, .ok _, same => same
    | .error failure, .error failure', _ => rest failure failure'
    | .ok _, .error _, differ => differ.elim
    | .error _, .ok _, differ => differ.elim

theorem Obeys.uses (h : x.Obeys P Q fails) : x.Uses P := Program.Agrees.uses h

variable (b : Backend σ) (s : σ)

theorem Obeys.of_ok (h : x.Obeys P Q fails) {a : α} (done : (x.on b s).1 = .ok a) : Q a := by
  have settled := Program.Agrees.run_self h b s
  change Settled Q fails (x.on b s).1 (x.on b s).1 at settled
  rw [done] at settled
  exact settled.2

/-- An attempt that cannot fail has a result. -/
theorem Obeys.exists_ok (h : x.Obeys P Q fails) (cannot : ¬ fails) :
    ∃ a, (x.on b s).1 = .ok a ∧ Q a := by
  have settled := Program.Agrees.run_self h b s
  change Settled Q fails (x.on b s).1 (x.on b s).1 at settled
  revert settled
  cases (x.on b s).1 with
  | ok a => exact fun settled => ⟨a, rfl, settled.2⟩
  | error failure => exact fun failed => absurd failed cannot

end Attempt
end FollowGraph
