import FollowGraph.Proofs.Program.History

/-!
# What a program writes to the log

`Program.Guarded` passes over log entries. `Program.Notes` relates them to what was heard: whatever
the stores answer, calls, entries and result of the program are as `Q` says. It is closed under
doing one thing after another like a guard, and `Notes.run` brings it to the runs on a backend,
where `Program.entries` lists what was written.

One contract is used throughout. A part of an operation `Warns` when a failed call does not go
unnoticed in it: either the part fails itself, and leaves the failure to what it is part of, or it
has written a warning or an error. Only a part that catches failures has anything to show for that
(`Warns.answering`); all others hand them on.
-/

set_option autoImplicit false

namespace FollowGraph

variable {σ α β : Type}

open History

/-! ## Entries of note -/

/-- A warning or an error. -/
def LogEntry.Alarms (entry : LogEntry) : Prop := entry.level = .warning ∨ entry.level = .error

/-- An error was written. -/
def Reported (entries : List LogEntry) : Prop := ∃ entry ∈ entries, entry.level = .error

/-- No call failed, or a warning or an error was written. -/
def Warned (h : History) (entries : List LogEntry) : Prop :=
  h.Steady ∨ ∃ entry ∈ entries, entry.Alarms

section Entries

variable {h t : History} {first second : List LogEntry} {entry : LogEntry}

@[simp] theorem reported_append :
    Reported (first ++ second) ↔ Reported first ∨ Reported second := by
  simp only [Reported, List.mem_append, or_and_right, exists_or]

@[simp] theorem not_reported_nil : ¬ Reported [] := by
  rintro ⟨_, there, -⟩
  cases there

theorem reported_of_last (error : entry.level = .error) : Reported (first ++ [entry]) :=
  ⟨entry, List.mem_append_right _ (List.mem_singleton.2 rfl), error⟩

theorem warned_of_last (alarms : entry.Alarms) : Warned h (first ++ [entry]) :=
  .inr ⟨entry, List.mem_append_right _ (List.mem_singleton.2 rfl), alarms⟩

theorem warned_nil : Warned [] first := .inl steady_nil

theorem Warned.append (before : Warned h first) (after : Warned t second) :
    Warned (h ++ t) (first ++ second) := by
  rcases before with steady | ⟨entry, there, alarms⟩
  · rcases after with quiet | ⟨entry, there, alarms⟩
    · exact .inl (steady_append.2 ⟨steady, quiet⟩)
    · exact .inr ⟨entry, List.mem_append_right _ there, alarms⟩
  · exact .inr ⟨entry, List.mem_append_left _ there, alarms⟩

end Entries

namespace Program

/-- The log entries of a program on a backend, the first of them first. -/
def entries (b : Backend σ) : Program α → σ → List LogEntry
  | .done _, _ => []
  | .call c resume, s => (resume (b.answer c s).1).entries b (b.answer c s).2
  | .note entry rest, s => entry :: rest.entries b (b.record entry s)

/-- Whatever comes back, the calls, the log entries and the result are as `Q` says. -/
def Notes : Program α → (History → List LogEntry → α → Prop) → Prop
  | .done a, Q => Q [] [] a
  | .call c resume, Q =>
    ∀ answer, (resume answer).Notes fun h entries => Q (⟨c, answer⟩ :: h) entries
  | .note entry rest, Q => rest.Notes fun h entries => Q h (entry :: entries)

variable {Q : History → List LogEntry → α → Prop}

theorem Notes.mono {R : History → List LogEntry → α → Prop} {p : Program α} (h : p.Notes Q)
    (le : ∀ s entries a, Q s entries a → R s entries a) : p.Notes R := by
  induction p generalizing Q R with
  | done a => exact le [] [] a h
  | call c resume ih =>
    intro answer
    apply ih answer (h answer)
    intro s entries a
    exact le (⟨c, answer⟩ :: s) entries a
  | note entry rest ih =>
    apply ih h
    intro s entries a
    exact le s (entry :: entries) a

theorem Notes.bind {R : History → List LogEntry → β → Prop} {p : Program α} {f : α → Program β}
    (h : p.Notes Q)
    (rest : ∀ s first a, Q s first a →
      (f a).Notes fun t second => R (s ++ t) (first ++ second)) :
    (p.bind f).Notes R := by
  induction p generalizing Q R with
  | done a => exact rest [] [] a h
  | call c resume ih =>
    intro answer
    apply ih answer (h answer)
    intro s first a
    exact rest (⟨c, answer⟩ :: s) first a
  | note entry more ih =>
    apply ih h
    intro s first a
    exact rest s (entry :: first) a

/-- A result at the end of a longer program. -/
theorem notes_done_after {s : History} {first : List LogEntry} {a : α} (ha : Q s first a) :
    (done a).Notes fun t second => Q (s ++ t) (first ++ second) := by
  show Q (s ++ []) (first ++ []) a
  rw [List.append_nil, List.append_nil]
  exact ha

/-- What a program notes holds of each run. -/
theorem Notes.run {p : Program α} (h : p.Notes Q) (b : Backend σ) (s : σ) :
    Q (p.trace b s) (p.entries b s) (p.run b s).1 := by
  induction p generalizing Q s with
  | done a => exact h
  | call c resume ih => exact ih _ (h _) _
  | note entry rest ih => exact ih h _

/-- As long as `I` lasts calls write no entries; then the log grows by those of the program. -/
theorem run_log {b : Backend σ} (log : σ → List LogEntry) {I : σ → Prop}
    (answer : ∀ c s, I s → I (b.answer c s).2 ∧ log (b.answer c s).2 = log s)
    (record : ∀ entry s, I s → I (b.record entry s) ∧ log (b.record entry s) = log s ++ [entry])
    (p : Program α) {s : σ} (hs : I s) : log (p.run b s).2 = log s ++ p.entries b s := by
  induction p generalizing s with
  | done a => exact (List.append_nil _).symm
  | call c resume ih =>
    obtain ⟨lasts, same⟩ := answer c s hs
    exact (ih _ lasts).trans (by rw [same]; rfl)
  | note entry rest ih =>
    obtain ⟨lasts, more⟩ := record entry s hs
    exact (ih lasts).trans (by rw [more, List.append_assoc]; rfl)

/-- A failed call does not go unnoticed. -/
def Warns (p : Program α) : Prop := p.Notes fun h entries _ => Warned h entries

end Program

namespace Attempt

/-- As for programs; `E` is about an attempt that fails. -/
def Notes (x : Attempt α) (Q : History → List LogEntry → α → Prop)
    (E : History → List LogEntry → Prop) : Prop :=
  (ExceptT.run x).Notes fun s entries outcome =>
    match outcome with
    | .ok a => Q s entries a
    | .error _ => E s entries

/-- A failed call does not go unnoticed, unless the attempt fails itself. -/
def Warns (x : Attempt α) : Prop := x.Notes (fun h entries _ => Warned h entries) fun _ _ => True

variable {Q : History → List LogEntry → α → Prop} {E : History → List LogEntry → Prop}
  {x : Attempt α}

theorem notes_pure {a : α} (ha : Q [] [] a) : (pure a : Attempt α).Notes Q E := ha

/-- The same at the end of a longer attempt. -/
theorem notes_pure_after {F : History → List LogEntry → Prop} {s : History}
    {first : List LogEntry} {a : α} (ha : Q s first a) :
    (pure a : Attempt α).Notes (fun t second => Q (s ++ t) (first ++ second)) F :=
  notes_pure (by simpa using ha)

theorem Notes.bind {R : History → List LogEntry → β → Prop} {f : α → Attempt β}
    (h : x.Notes Q E)
    (rest : ∀ s first a, Q s first a →
      (f a).Notes (fun t second => R (s ++ t) (first ++ second))
        fun t second => E (s ++ t) (first ++ second)) :
    (x >>= f).Notes R E := by
  refine Program.Notes.bind h ?_
  intro s first outcome settled
  cases outcome with
  | ok a => exact rest s first a settled
  | error failure =>
    show E (s ++ []) (first ++ [])
    rw [List.append_nil, List.append_nil]
    exact settled

theorem Notes.mono {R : History → List LogEntry → α → Prop} {F : History → List LogEntry → Prop}
    (h : x.Notes Q E) (ok : ∀ s entries a, Q s entries a → R s entries a)
    (error : ∀ s entries, E s entries → F s entries) : x.Notes R F := by
  refine Program.Notes.mono h ?_
  intro s entries outcome settled
  cases outcome with
  | ok a => exact ok s entries a settled
  | error failure => exact error s entries settled

theorem notes_ite {c : Prop} [Decidable c] {y : Attempt α} (yes : c → x.Notes Q E)
    (no : ¬ c → y.Notes Q E) : (if c then x else y).Notes Q E := by
  by_cases now : c
  · rw [if_pos now]
    exact yes now
  · rw [if_neg now]
    exact no now

theorem notes_always {p : Program α} (h : p.Notes Q) : (always p).Notes Q E := by
  refine Program.Notes.bind h ?_
  intro s first a ha
  exact notes_pure_after ha

/-- A failure that is only logged, and a result that takes its place. -/
theorem Notes.answering {a : α} (h : x.Notes Q E) (entry : Failure → LogEntry)
    (rest : ∀ s first failure, E s first → Q s (first ++ [entry failure]) a) :
    (x.catching fun failure => .note (entry failure) (.done a)).Notes Q := by
  refine Program.Notes.bind h ?_
  intro s first outcome settled
  cases outcome with
  | ok a => exact Program.notes_done_after settled
  | error failure =>
    show Q (s ++ []) (first ++ [entry failure]) a
    rw [List.append_nil]
    exact rest s first failure settled

/-- The log entries of an attempt on a backend, the first of them first. -/
def entries (b : Backend σ) (x : Attempt α) (s : σ) : List LogEntry := (ExceptT.run x).entries b s

/-- What an attempt notes holds of each run that comes to a result. -/
theorem Notes.run (h : x.Notes Q E) {b : Backend σ} {s : σ} {a : α}
    (answered : (x.on b s).1 = .ok a) : Q (x.trace b s) (x.entries b s) a := by
  have noted := Program.Notes.run h b s
  change match (x.on b s).1 with
    | .ok a => Q (x.trace b s) (x.entries b s) a
    | .error _ => E (x.trace b s) (x.entries b s) at noted
  rw [answered] at noted
  exact noted

/-! ## Warnings -/

theorem warns_pure (a : α) : (pure a : Attempt α).Warns := notes_pure warned_nil

theorem warns_ofExcept (value : Except Failure α) : (ofExcept value).Warns := by
  cases value with
  | ok a => exact (warned_nil : Warned [] [])
  | error failure => exact trivial

theorem warns_call (c : Call) : (call c).Warns := by
  intro answer
  cases answer with
  | ok v => exact .inl steady_ok
  | error failure => exact trivial

theorem warns_log (level : LogLevel) (source : LogSource) (text : String) :
    (log level source text).Warns := warned_nil

theorem Warns.bind {f : α → Attempt β} (h : x.Warns) (rest : ∀ a, (f a).Warns) :
    (x >>= f).Warns := by
  refine Notes.bind h ?_
  intro s first a before
  exact Notes.mono (rest a) (fun _ _ _ after => before.append after) fun _ _ => id

theorem Warns.map (h : x.Warns) (f : α → β) : (f <$> x).Warns := by
  rw [map_eq_pure_bind]
  exact h.bind fun _ => warns_pure _

theorem Warns.holds {x : Attempt Value} (h : x.Warns) : x.holds.Warns := h.map _

theorem warns_ite {c : Prop} [Decidable c] {y : Attempt α} (yes : x.Warns) (no : y.Warns) :
    (if c then x else y).Warns := notes_ite (fun _ => yes) fun _ => no

theorem warns_always {p : Program α} (h : p.Warns) : (always p).Warns := notes_always h

/-- What is caught is written down. -/
theorem Warns.answering {a : α} (h : x.Warns) (entry : Failure → LogEntry)
    (alarms : ∀ failure, (entry failure).Alarms) :
    (x.catching fun failure => .note (entry failure) (.done a)).Warns :=
  Notes.answering h entry fun _ _ failure _ => warned_of_last (alarms failure)

end Attempt

namespace Program

theorem warns_done (a : α) : (done a).Warns := warned_nil

theorem Warns.bind {p : Program α} {f : α → Program β} (h : p.Warns) (rest : ∀ a, (f a).Warns) :
    (p.bind f).Warns := by
  refine Notes.bind h ?_
  intro s first a before
  exact Notes.mono (rest a) fun _ _ _ after => before.append after

end Program
end FollowGraph
