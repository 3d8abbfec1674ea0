import FollowGraph.Proofs.Program.Contract

/-!
# Done, or nothing done

Most programs here read, then write once, and then say how it went. `Attempt.Commits b R Q` is what
such an attempt promises about its result: from every state it ends in a result that satisfies `Q`,
or it ends in a state that `R` relates to the one it began in, whether it has a result then or a
failure. With success for `Q` and no change for `R` it says that what did not succeed did nothing.

The promise comes from the order of things. In front of the write there are calls that keep `R`,
with any result; after it there is nothing that could still spoil the result, which is a matter of
contracts (`Obeys` with `False` for failing). Where a failure is caught, the failure came from
before the write.
-/

set_option autoImplicit false

namespace FollowGraph

variable {σ α β : Type} {b : Backend σ} {P : Call → Prop} {R : σ → σ → Prop} {Q : α → Prop}

def Program.Commits (b : Backend σ) (R : σ → σ → Prop) (Q : α → Prop) (p : Program α) : Prop :=
  ∀ s, Q (p.run b s).1 ∨ R s (p.run b s).2

/-- As for programs; a failure is not a result. -/
def Attempt.Commits (b : Backend σ) (R : σ → σ → Prop) (Q : α → Prop) (x : Attempt α) : Prop :=
  ∀ s, (∃ a, (x.on b s).1 = .ok a ∧ Q a) ∨ R s (x.on b s).2

namespace Program

theorem commits_done (keeps : b.Keeps P R) (a : α) : (done a).Commits b R Q :=
  fun s => .inr (keeps.refl s)

/-- After a part that was done nothing may spoil it; after one that was not, nothing may happen
unless it is done there. -/
theorem Commits.bind {Q' : β → Prop} {p : Program α} {f : α → Program β} (h : p.Commits b R Q)
    (keeps : b.Keeps P R) (done : ∀ a, Q a → (f a).Obeys (fun _ => True) Q')
    (rest : ∀ a, ¬ Q a → (f a).Commits b R Q') : (p.bind f).Commits b R Q' := by
  intro s
  have first := h s
  rw [run_bind]
  by_cases hq : Q (p.run b s).1
  · exact .inl ((done _ hq).run b _)
  · have kept := first.resolve_left hq
    exact (rest _ hq _).imp_right (keeps.trans kept)

end Program

namespace Attempt

theorem commits_of_uses {x : Attempt α} (h : x.Uses P) (keeps : b.Keeps P R) : x.Commits b R Q :=
  fun s => .inr (h.run_keeps keeps s)

theorem commits_of_obeys {x : Attempt α} (h : x.Obeys (fun _ => True) Q False) :
    x.Commits b R Q := fun s => .inl (h.exists_ok b s id)

theorem commits_pure (keeps : b.Keeps P R) (a : α) : (pure a : Attempt α).Commits b R Q :=
  fun s => .inr (keeps.refl s)

theorem commits_ite {c : Prop} [Decidable c] {x y : Attempt α} (hx : x.Commits b R Q)
    (hy : y.Commits b R Q) : (if c then x else y).Commits b R Q := by
  split
  · exact hx
  · exact hy

/-- A quiet part in front. What it found out can be used. -/
theorem Commits.after {Q : β → Prop} {x : Attempt α} {f : α → Attempt β} (h : x.Uses P)
    (keeps : b.Keeps P R)
    (rest : ∀ a, (∃ s, (x.on b s).1 = .ok a) → (f a).Commits b R Q) :
    (x >>= f).Commits b R Q := by
  intro s
  have quiet : R s (x.on b s).2 := h.run_keeps keeps s
  rw [on_bind]
  cases outcome : x.on b s with
  | mk result t =>
    rw [outcome] at quiet
    cases result with
    | error failure => exact .inr quiet
    | ok a => exact (rest a ⟨s, by rw [outcome]⟩ t).imp_right (keeps.trans quiet)

theorem Commits.bind {Q' : β → Prop} {x : Attempt α} {f : α → Attempt β} (h : x.Commits b R Q)
    (keeps : b.Keeps P R) (done : ∀ a, Q a → (f a).Obeys (fun _ => True) Q' False)
    (rest : ∀ a, ¬ Q a → (f a).Commits b R Q') : (x >>= f).Commits b R Q' := by
  intro s
  have first := h s
  rw [on_bind]
  cases outcome : x.on b s with
  | mk result t =>
    rw [outcome] at first
    cases result with
    | error failure =>
      refine .inr (first.resolve_left ?_)
      rintro ⟨a, differ, -⟩
      cases differ
    | ok a =>
      by_cases hq : Q a
      · exact .inl ((done a hq).exists_ok b t id)
      · have kept : R s t := by
          refine first.resolve_left ?_
          rintro ⟨a', same, hq'⟩
          cases same
          exact hq hq'
        exact (rest a hq t).imp_right (keeps.trans kept)

/-- A write that answers whether it did anything, and what is made of the answer. -/
theorem Commits.decide {x : Attempt Value} {yes no : Attempt α}
    (h : x.Commits b R fun v => v.isFalsy = false) (keeps : b.Keeps P R)
    (done : yes.Obeys (fun _ => True) Q False) (refused : no.Commits b R Q) :
    (do if ← x.holds then yes else no).Commits b R Q := by
  have held : x.holds.Commits b R (· = true) := by
    intro s
    rw [holds, on_map]
    refine (h s).imp_left ?_
    rintro ⟨v, answered, truthy⟩
    exact ⟨true, by rw [answered]; simp [Except.map, truthy], rfl⟩
  refine held.bind keeps ?_ ?_
  · rintro _ rfl
    exact done
  · intro found absent
    rw [if_neg absent]
    exact refused

/-- What is caught was not done. -/
theorem Commits.catching {x : Attempt α} {recover : Failure → Program α} (h : x.Commits b R Q)
    (keeps : b.Keeps P R) (rest : ∀ failure, (recover failure).Uses P) :
    (x.catching recover).Commits b R Q := by
  intro s
  have first := h s
  rw [run_catching]
  cases outcome : x.on b s with
  | mk result t =>
    rw [outcome] at first
    cases result with
    | error failure =>
      refine .inr (keeps.trans (first.resolve_left ?_) ((rest failure).run_keeps keeps t))
      rintro ⟨a, differ, -⟩
      cases differ
    | ok a =>
      refine first.imp_left ?_
      rintro ⟨a', same, hq⟩
      cases same
      exact hq

theorem commits_always {p : Program α} (h : p.Commits b R Q) : (always p).Commits b R Q := by
  intro s
  rw [on_always]
  exact (h s).imp_left fun hq => ⟨_, rfl, hq⟩

/-- What an attempt that has a result came through. -/
theorem of_on_bind_eq_ok {x : Attempt α} {f : α → Attempt β} {s : σ} {r : β}
    (h : ((x >>= f).on b s).1 = .ok r) :
    ∃ a, (x.on b s).1 = .ok a ∧ ((f a).on b (x.on b s).2).1 = .ok r := by
  rw [on_bind] at h
  cases outcome : x.on b s with
  | mk result t =>
    rw [outcome] at h
    cases result with
    | error failure => cases h
    | ok a => exact ⟨a, rfl, h⟩

end Attempt
end FollowGraph
