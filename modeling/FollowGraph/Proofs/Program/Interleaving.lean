import FollowGraph.Proofs.Program.History
import Mathlib.Logic.Function.Basic

/-!
# Two programs at once

Two clients run a program each against the same backend. A schedule says whose turn it is; in a turn
a program makes one call, or writes one log entry, and a call is answered at once by the state as
it is then. Nothing is assumed about a schedule, and a client whose program is done passes.

Each client hears only the answers to its own calls (`Race.heard`), so a guard of its program holds
along its part of the turns, whatever the other client does in between (`Race.Obeyed`). The state is
changed by the turns of both: `Race.run_related` is what a race has to be opened for, once.
-/

set_option autoImplicit false

namespace FollowGraph

variable {σ α : Type}

inductive Side where
  | left
  | right
  deriving DecidableEq

def Side.other : Side → Side
  | .left => .right
  | .right => .left

@[simp] theorem Side.other_other (x : Side) : x.other.other = x := by cases x <;> rfl

theorem Side.eq_other_of_ne {x y : Side} (differ : y ≠ x) : y = x.other := by
  match x, y with
  | .left, .right | .right, .left => rfl
  | .left, .left | .right, .right => exact absurd rfl differ

/-- A call that one of the clients made. -/
abbrev Ply := Side × Asked

/-- Two programs part of the way through, the state they share, and the calls made so far. -/
structure Race (σ α : Type) where
  state : σ
  programs : Side → Program α
  turns : List Ply

namespace Race

/-- What one client has heard. -/
def heard (who : Side) (turns : List Ply) : History :=
  turns.filterMap fun turn => if turn.1 = who then some turn.2 else none

section Heard

variable {who other : Side} {asked : Asked} {s t : List Ply}

@[simp] theorem heard_nil : heard who [] = [] := rfl

@[simp] theorem heard_append : heard who (s ++ t) = heard who s ++ heard who t :=
  List.filterMap_append

@[simp] theorem heard_own : heard who [(who, asked)] = [asked] := by simp [heard]

theorem heard_other (differ : other ≠ who) : heard who [(other, asked)] = [] := by
  simp [heard, differ]

theorem mem_heard : asked ∈ heard who s ↔ (who, asked) ∈ s := by
  unfold heard
  rw [List.mem_filterMap]
  constructor
  · rintro ⟨⟨x, asked'⟩, there, same⟩
    obtain ⟨rfl, rfl⟩ : x = who ∧ asked' = asked := by simpa using same
    exact there
  · intro there
    exact ⟨_, there, by simp⟩

/-- What a client has heard in two parts was said in two parts. -/
theorem heard_split {first second : History} (h : heard who s = first ++ second) :
    ∃ before after, s = before ++ after ∧ heard who before = first ∧ heard who after = second :=
  List.filterMap_eq_append_iff.1 h

end Heard

/-! ## Turns -/

/-- Each client made only calls that its guard allows after what it had heard. -/
def Obeyed (G : Side → History → Call → Prop) (turns : List Ply) : Prop :=
  ∀ before who asked after, turns = before ++ (who, asked) :: after →
    G who (heard who before) asked.call

section Obeyed

variable {G : Side → History → Call → Prop} {turns : List Ply} {who : Side} {asked : Asked}

theorem obeyed_nil : Obeyed G [] := by
  intro before who asked after split
  cases before <;> cases split

theorem Obeyed.append_left {later : List Ply} (obeyed : Obeyed G (turns ++ later)) :
    Obeyed G turns := by
  rintro before x asked after rfl
  exact obeyed before x asked (after ++ later) (by simp)

theorem obeyed_snoc :
    Obeyed G (turns ++ [(who, asked)]) ↔ Obeyed G turns ∧ G who (heard who turns) asked.call := by
  constructor
  · intro obeyed
    exact ⟨obeyed.append_left, obeyed turns who asked [] rfl⟩
  · rintro ⟨past, last⟩ before x asked' after split
    rcases List.eq_nil_or_concat after with rfl | ⟨after, final, rfl⟩
    · obtain ⟨rfl, same⟩ := List.append_inj' split rfl
      cases same
      exact last
    · rw [List.concat_eq_append, ← List.cons_append, ← List.append_assoc] at split
      exact past before x asked' after (List.append_inj' split rfl).1

/-- Along what one client has heard its guard holds by itself. -/
theorem Obeyed.own (obeyed : Obeyed G turns) {before after : History}
    (split : heard who turns = before ++ asked :: after) : G who before asked.call := by
  obtain ⟨s, t, rfl, rfl, rest⟩ := heard_split split
  obtain ⟨between, ⟨x, asked'⟩, later, rfl, others, same, -⟩ := List.filterMap_eq_cons_iff.1 rest
  obtain ⟨rfl, rfl⟩ : x = who ∧ asked' = asked := by simpa using same
  have silent : heard x between = [] := List.filterMap_eq_nil_iff.2 others
  have allowed := obeyed (s ++ between) x asked' later (by simp)
  rw [heard_append, silent, List.append_nil] at allowed
  exact allowed

end Obeyed

/-! ## Steps -/

variable (b : Backend σ)

def step (r : Race σ α) (who : Side) : Race σ α :=
  match r.programs who with
  | .done _ => r
  | .call c resume =>
    { state := (b.answer c r.state).2
      programs := Function.update r.programs who (resume (b.answer c r.state).1)
      turns := r.turns ++ [(who, ⟨c, (b.answer c r.state).1⟩)] }
  | .note entry rest =>
    { r with state := b.record entry r.state, programs := Function.update r.programs who rest }

def run (r : Race σ α) : List Side → Race σ α
  | [] => r
  | who :: rest => (r.step b who).run rest

variable {b} {G : Side → History → Call → Prop} {r : Race σ α}

/-- Each client is guarded for the rest of its program, after what it has heard. -/
def Guarded (G : Side → History → Call → Prop) (r : Race σ α) : Prop :=
  ∀ who, (r.programs who).Guarded (fun s => G who (heard who r.turns ++ s)) fun _ _ => True

/-- What a turn does: nothing, or a log entry, or a call that the guard of the client allows. -/
theorem Guarded.step_cases (guarded : r.Guarded G) (who : Side) :
    r.step b who = r ∨
    ((r.step b who).turns = r.turns ∧ ∃ entry, (r.step b who).state = b.record entry r.state) ∨
    ∃ c, G who (heard who r.turns) c ∧
      (r.step b who).turns = r.turns ++ [(who, ⟨c, (b.answer c r.state).1⟩)] ∧
      (r.step b who).state = (b.answer c r.state).2 := by
  have ahead := guarded who
  unfold Race.step
  cases next : r.programs who with
  | done a => exact .inl rfl
  | note entry rest => exact .inr (.inl ⟨rfl, entry, rfl⟩)
  | call c resume =>
    rw [next] at ahead
    have allowed : G who (heard who r.turns ++ []) c := ahead.1
    rw [List.append_nil] at allowed
    exact .inr (.inr ⟨c, allowed, rfl, rfl⟩)

theorem Guarded.step (guarded : r.Guarded G) (who : Side) : (r.step b who).Guarded G := by
  have ahead := guarded who
  intro x
  unfold Race.step
  cases next : r.programs who with
  | done a => exact guarded x
  | note entry rest =>
    rw [next] at ahead
    by_cases same : x = who
    · subst same
      simp only [Function.update_self]
      exact ahead
    · simp only [Function.update_of_ne same]
      exact guarded x
  | call c resume =>
    rw [next] at ahead
    by_cases same : x = who
    · subst same
      simp only [Function.update_self, heard_append, heard_own, List.append_assoc,
        List.cons_append, List.nil_append]
      exact ahead.2 (b.answer c r.state).1
    · simp only [Function.update_of_ne same, heard_append, heard_other (Ne.symm same),
        List.append_nil]
      exact guarded x

/-- What holds of the turns and the state, and is kept by every call that a client makes, holds
all the way; and the clients obey their guards. -/
theorem run_related {I : List Ply → σ → Prop}
    (answer : ∀ turns s who c, I turns s →
      I (turns ++ [(who, ⟨c, (b.answer c s).1⟩)]) (b.answer c s).2)
    (record : ∀ turns s entry, I turns s → I turns (b.record entry s)) (guarded : r.Guarded G)
    (obeyed : Obeyed G r.turns) (h : I r.turns r.state) (schedule : List Side) :
    Obeyed G (r.run b schedule).turns ∧ I (r.run b schedule).turns (r.run b schedule).state := by
  induction schedule generalizing r with
  | nil => exact ⟨obeyed, h⟩
  | cons who rest ih =>
    rcases guarded.step_cases (b := b) who with
      same | ⟨turns, entry, state⟩ | ⟨c, allowed, turns, state⟩
    · rw [run, same]
      exact ih guarded obeyed h
    · refine ih (guarded.step who) (turns ▸ obeyed) ?_
      rw [turns, state]
      exact record _ _ entry h
    · refine ih (guarded.step who) (turns ▸ obeyed_snoc.2 ⟨obeyed, allowed⟩) ?_
      rw [turns, state]
      exact answer _ _ who c h

end Race
end FollowGraph
