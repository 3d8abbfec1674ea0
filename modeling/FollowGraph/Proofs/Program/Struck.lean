import FollowGraph.Proofs.Program.History

/-!
# After a call to the graph has failed

Nearly every part of an operation stops at the first call that fails (`Attempt.Yields`). The others
go on with a value of their own in place of an answer: nothing, null, no users. `Tolerates Q` bounds
those values, and `Tolerates.bind` is the rule that keeps the two apart: the next part either goes
on from such a value, whatever it hears itself, or from a part that heard of no failure.

Failures of the cache and of the notification service are none of the graph.
-/

set_option autoImplicit false

namespace FollowGraph

variable {α β : Type}

/-- A graph call failed. -/
def History.Struck (h : History) : Prop :=
  ∃ call failure, (⟨.graph call, .error failure⟩ : Asked) ∈ h

namespace History

variable {s t : History} {c : Call}

@[simp] theorem struck_append : Struck (s ++ t) ↔ Struck s ∨ Struck t := by
  simp only [Struck, List.mem_append, exists_or]

@[simp] theorem not_struck_nil : ¬ Struck [] := by
  rintro ⟨_, _, there⟩
  cases there

@[simp] theorem not_struck_ok {v : Value} : ¬ Struck [⟨c, .ok v⟩] := by
  rintro ⟨_, _, there⟩
  cases List.mem_singleton.1 there

theorem not_struck_of_others (others : ∀ asked ∈ s, ∀ call, asked.call ≠ .graph call) :
    ¬ Struck s := by
  rintro ⟨call, failure, there⟩
  exact others _ there call rfl

end History

open History

namespace Program

/-- After a failed graph call the program has only results that `Q` allows. -/
def Tolerates (Q : α → Prop) (p : Program α) : Prop :=
  p.Guarded (fun _ _ => True) fun s a => Struck s → Q a

theorem guarded_any (p : Program α) : p.Guarded (fun _ _ => True) fun _ _ => True := by
  induction p with
  | done a => exact trivial
  | call c resume ih => exact ⟨trivial, fun answer => ih answer⟩
  | note entry rest ih => exact ih

/-- What is refused without a call has heard of no failure. -/
theorem tolerates_unless {c : Prop} [Decidable c] {refusal : α} {p : Program α} {Q : α → Prop}
    (h : p.Tolerates Q) : (if c then pure refusal else p).Tolerates Q := by
  split
  · exact fun struck => absurd struck not_struck_nil
  · exact h

/-- What is heard comes from the calls that a program can make. -/
theorem Uses.guarded {P : Call → Prop} {p : Program α} (h : p.Uses P) :
    p.Guarded (fun _ _ => True) fun s _ => ∀ asked ∈ s, P asked.call := by
  induction p with
  | done a => exact fun _ there => by cases there
  | call c resume ih =>
    refine ⟨trivial, fun answer => (ih answer (h.2 answer)).mono ?_⟩
    exact fun s _ all => List.forall_mem_cons.2 ⟨h.1, all⟩
  | note entry rest ih => exact ih h

end Program

namespace Attempt

/-- Whatever was heard, all results are as `Q` says. -/
def Returns (Q : α → Prop) (x : Attempt α) : Prop :=
  x.Guarded (fun _ _ => True) (fun _ a => Q a) fun _ => True

/-- After a failed graph call the attempt fails, or has a result that `Q` allows. -/
def Tolerates (Q : α → Prop) (x : Attempt α) : Prop :=
  x.Guarded (fun _ _ => True) (fun s a => Struck s → Q a) fun _ => True

/-- A failed graph call ends the attempt. -/
abbrev Yields (x : Attempt α) : Prop := x.Tolerates fun _ => False

variable {P Q : α → Prop} {R : β → Prop} {x : Attempt α}

theorem Uses.guarded {P : Call → Prop} (h : x.Uses P) :
    x.Guarded (fun _ _ => True) (fun s _ => ∀ asked ∈ s, P asked.call) fun _ => True :=
  Program.Guarded.mono (Program.Uses.guarded h) fun
    | _, .ok _, all => all
    | _, .error _, _ => trivial

theorem tolerates_pure (a : α) : (pure a : Attempt α).Tolerates Q :=
  guarded_pure fun struck => absurd struck not_struck_nil

theorem tolerates_ofExcept (value : Except Failure α) : (ofExcept value).Tolerates Q :=
  guarded_ofExcept (fun _ struck => absurd struck not_struck_nil) trivial

theorem yields_call (c : Call) : (call c).Yields :=
  guarded_call trivial (fun _ => not_struck_ok) fun _ => trivial

theorem yields_log (level : LogLevel) (source : LogSource) (text : String) :
    (log level source text).Yields := guarded_log not_struck_nil

theorem Tolerates.mono (h : x.Tolerates P) (le : ∀ a, P a → Q a) : x.Tolerates Q :=
  Guarded.mono h (fun _ a allowed struck => le a (allowed struck)) fun _ => id

/-- What comes after a failure that was passed over, and what comes after none. -/
theorem Tolerates.bind {f : α → Attempt β} (h : x.Tolerates P)
    (after : ∀ a, P a → (f a).Returns R) (rest : ∀ a, (f a).Tolerates R) :
    (x >>= f).Tolerates R := by
  refine Guarded.bind h ?_
  intro s a allowed
  by_cases struck : Struck s
  · exact Guarded.mono (after a (allowed struck)) (fun _ _ result _ => result) fun _ => id
  · refine Guarded.mono (rest a) ?_ fun _ => id
    intro t b tolerated both
    exact tolerated ((struck_append.1 both).resolve_left struck)

theorem Yields.bind {f : α → Attempt β} (h : x.Yields) (rest : ∀ a, (f a).Tolerates R) :
    (x >>= f).Tolerates R := Tolerates.bind h (fun _ none => none.elim) rest

theorem Yields.map (h : x.Yields) (f : α → β) : (f <$> x).Yields := by
  rw [map_eq_pure_bind]
  exact h.bind fun _ => tolerates_pure _

theorem Yields.holds {x : Attempt Value} (h : x.Yields) : x.holds.Yields := h.map _

theorem tolerates_ite {c : Prop} [Decidable c] {y : Attempt α} (yes : x.Tolerates Q)
    (no : y.Tolerates Q) : (if c then x else y).Tolerates Q :=
  guarded_ite (fun _ => yes) fun _ => no

theorem tolerates_always {p : Program α} (h : p.Tolerates Q) : (always p).Tolerates Q :=
  guarded_always h

/-- A failure that is only logged, and a result that takes its place. -/
theorem Tolerates.answering {a : α} (h : x.Tolerates Q) (entry : Failure → LogEntry) (ha : Q a) :
    (x.catching fun failure => .note (entry failure) (.done a)).Tolerates Q :=
  Guarded.answering (Guarded.mono h (fun _ _ allowed => allowed) fun _ _ _ => ha) entry

/-- A part that yields, whose failure is passed over. -/
theorem Yields.answering {a : α} (h : x.Yields) (entry : Failure → LogEntry) (ha : Q a) :
    (x.catching fun failure => .note (entry failure) (.done a)).Tolerates Q :=
  Tolerates.answering (h.mono fun _ none => none.elim) entry ha

end Attempt
end FollowGraph
