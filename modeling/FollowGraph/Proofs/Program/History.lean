import FollowGraph.Proofs.Program.Footprint

/-!
# What a program does after what it has heard

A program chooses its next call by what its calls so far came back with. `Program.Guarded` bounds
that choice: after every history the program makes only calls that `G` allows then, and it ends in
results that `Q` allows. Nothing is said about the stores. What comes back from a call is any value
at all or a failure, and the same call may answer one thing first and another later.

`G` and `Q` look at the program's own history and at nothing before it, so a program within another
one is guarded by what the outer one has heard already, put in front (`Guarded.bind`). The contract
of a function is proved once and holds wherever the function is called.

The histories are those of actual runs. `Program.trace` is the list of calls that a program makes
on a backend, each with its answer, and `Guarded.run` says that a guard holds along it, call by
call. `Program.run_related` is the other half: what each answer does to the state of a backend,
the whole trace does to it.
-/

set_option autoImplicit false

namespace FollowGraph

variable {σ α β : Type}

/-- A call and what came back. -/
structure Asked where
  call : Call
  answer : Except Failure Value

/-- Calls with their answers, the first of them first. -/
abbrev History := List Asked

namespace History

variable {h s t : History} {c d : Call} {Q : Value → Prop}

/-- The call was made, and answered with a value of some kind. -/
def Heard (h : History) (c : Call) (Q : Value → Prop) : Prop := ∃ v, (⟨c, .ok v⟩ : Asked) ∈ h ∧ Q v

abbrev Affirmed (h : History) (c : Call) : Prop := Heard h c fun v => v.isFalsy = false

abbrev Denied (h : History) (c : Call) : Prop := Heard h c fun v => v.isFalsy = true

/-- The call was made and did not fail. -/
abbrev Completed (h : History) (c : Call) : Prop := Heard h c fun _ => True

def Never (h : History) (c : Call) : Prop := ∀ asked ∈ h, asked.call ≠ c

/-- No call failed. -/
def Steady (h : History) : Prop := ∀ asked ∈ h, ∃ v, asked.answer = .ok v

/-- No other calls were made than some. -/
def Among (calls : List Call) (h : History) : Prop := ∀ asked ∈ h, asked.call ∈ calls

@[simp] theorem heard_append : Heard (s ++ t) c Q ↔ Heard s c Q ∨ Heard t c Q := by
  constructor
  · rintro ⟨v, there, hv⟩
    rcases List.mem_append.1 there with first | second
    · exact .inl ⟨v, first, hv⟩
    · exact .inr ⟨v, second, hv⟩
  · rintro (⟨v, there, hv⟩ | ⟨v, there, hv⟩)
    · exact ⟨v, List.mem_append_left _ there, hv⟩
    · exact ⟨v, List.mem_append_right _ there, hv⟩

@[simp] theorem heard_nil : ¬ Heard [] c Q := by
  rintro ⟨v, there, -⟩
  cases there

@[simp] theorem heard_ok {v : Value} : Heard [⟨d, .ok v⟩] c Q ↔ d = c ∧ Q v := by
  constructor
  · rintro ⟨w, there, hw⟩
    cases List.mem_singleton.1 there
    exact ⟨rfl, hw⟩
  · rintro ⟨rfl, hv⟩
    exact ⟨v, List.mem_singleton.2 rfl, hv⟩

@[simp] theorem heard_error {failure : Failure} : ¬ Heard [⟨d, .error failure⟩] c Q := by
  rintro ⟨v, there, -⟩
  cases List.mem_singleton.1 there

theorem Never.not_heard (h : Never s c) : ¬ Heard s c Q := by
  rintro ⟨v, there, -⟩
  exact h _ there rfl

@[simp] theorem steady_append : Steady (s ++ t) ↔ Steady s ∧ Steady t := List.forall_mem_append

@[simp] theorem steady_nil : Steady [] := fun _ there => by cases there

@[simp] theorem steady_ok {v : Value} : Steady [⟨c, .ok v⟩] := by
  intro asked there
  cases List.mem_singleton.1 there
  exact ⟨v, rfl⟩

@[simp] theorem not_steady_error {failure : Failure} : ¬ Steady [⟨c, .error failure⟩] := by
  intro steady
  obtain ⟨v, answered⟩ := steady _ (List.mem_singleton.2 rfl)
  cases answered

@[simp] theorem never_append : Never (s ++ t) c ↔ Never s c ∧ Never t c := List.forall_mem_append

@[simp] theorem never_nil : Never [] c := fun _ there => by cases there

theorem among_append {calls : List Call} : Among calls (s ++ t) ↔ Among calls s ∧ Among calls t :=
  List.forall_mem_append

theorem among_singleton {calls : List Call} {asked : Asked} :
    Among calls [asked] ↔ asked.call ∈ calls := by simp [Among]

theorem Among.mono {calls more : List Call} (h : Among calls s) (sub : calls ⊆ more) :
    Among more s := fun asked there => sub (h asked there)

theorem Among.never {calls : List Call} (h : Among calls s) (out : c ∉ calls) : Never s c := by
  rintro asked there rfl
  exact out (h asked there)

theorem Among.not_heard {calls : List Call} (h : Among calls s) (out : c ∉ calls) :
    ¬ Heard s c Q := (h.never out).not_heard

end History

open History

namespace Program

/-! ## Guards -/

/-- After every history the program makes only calls that `G` allows then, and it ends only in
results that `Q` allows after all that was heard. -/
def Guarded : Program α → (History → Call → Prop) → (History → α → Prop) → Prop
  | .done a, _, Q => Q [] a
  | .call c resume, G, Q =>
    G [] c ∧ ∀ answer, (resume answer).Guarded (fun s => G (⟨c, answer⟩ :: s))
      fun s => Q (⟨c, answer⟩ :: s)
  | .note _ rest, G, Q => rest.Guarded G Q

variable {G : History → Call → Prop} {Q : History → α → Prop}

theorem Guarded.mono {Q' : History → α → Prop} {p : Program α} (h : p.Guarded G Q)
    (le : ∀ s a, Q s a → Q' s a) : p.Guarded G Q' := by
  induction p generalizing G Q Q' with
  | done a => exact le [] a h
  | call c resume ih =>
    refine ⟨h.1, fun answer => ih answer (h.2 answer) ?_⟩
    intro s a
    exact le (⟨c, answer⟩ :: s) a
  | note entry rest ih => exact ih h le

theorem Guarded.bind {R : History → β → Prop} {p : Program α} {f : α → Program β}
    (h : p.Guarded G Q)
    (rest : ∀ s a, Q s a → (f a).Guarded (fun t => G (s ++ t)) fun t => R (s ++ t)) :
    (p.bind f).Guarded G R := by
  induction p generalizing G Q R with
  | done a => exact rest [] a h
  | call c resume ih =>
    refine ⟨h.1, fun answer => ih answer (h.2 answer) ?_⟩
    intro s a
    exact rest (⟨c, answer⟩ :: s) a
  | note entry more ih => exact ih h rest

/-! ## Runs -/

/-- The calls of a program on a backend, with their answers. -/
def trace (b : Backend σ) : Program α → σ → History
  | .done _, _ => []
  | .call c resume, s =>
    ⟨c, (b.answer c s).1⟩ :: (resume (b.answer c s).1).trace b (b.answer c s).2
  | .note entry rest, s => rest.trace b (b.record entry s)

theorem trace_bind (b : Backend σ) (p : Program α) (f : α → Program β) (s : σ) :
    (p.bind f).trace b s = p.trace b s ++ (f (p.run b s).1).trace b (p.run b s).2 := by
  induction p generalizing s with
  | done a => rfl
  | call c resume ih => exact congrArg (_ :: ·) (ih _ _)
  | note entry rest ih => exact ih _

theorem trace_map (b : Backend σ) (f : α → β) (p : Program α) (s : σ) :
    (f <$> p).trace b s = p.trace b s := by
  rw [map_eq_pure_bind]
  exact (trace_bind b p _ s).trans (List.append_nil _)

/-- The calls of a run are among those that the program can make. -/
theorem Uses.trace {P : Call → Prop} {p : Program α} (h : p.Uses P) (b : Backend σ) (s : σ) :
    ∀ asked ∈ p.trace b s, P asked.call := by
  induction p generalizing s with
  | done a => exact fun _ there => by cases there
  | call c resume ih => exact List.forall_mem_cons.2 ⟨h.1, ih _ (h.2 _) _⟩
  | note entry rest ih => exact ih h _

/-- A guard holds at each call of a run, and the bound on results at its end. -/
theorem Guarded.run {p : Program α} (h : p.Guarded G Q) (b : Backend σ) (s : σ) :
    (∀ before asked after, p.trace b s = before ++ asked :: after → G before asked.call) ∧
      Q (p.trace b s) (p.run b s).1 := by
  induction p generalizing G Q s with
  | done a =>
    refine ⟨?_, h⟩
    intro before asked after split
    cases before <;> cases split
  | call c resume ih =>
    obtain ⟨later, result⟩ := ih _ (h.2 _) (b.answer c s).2
    refine ⟨?_, result⟩
    intro before asked after split
    cases before with
    | nil =>
      cases split
      exact h.1
    | cons first before =>
      obtain ⟨rfl, rest⟩ := List.cons.inj split
      exact later before asked after rest
  | note entry rest ih => exact ih h _

/-- What holds of a history and a state, and is kept by every call and its answer, holds of the
whole trace of a run and the state that the run ends in. -/
theorem run_related {b : Backend σ} {I : History → σ → Prop}
    (answer : ∀ h s c, I h s → I (h ++ [⟨c, (b.answer c s).1⟩]) (b.answer c s).2)
    (record : ∀ h s entry, I h s → I h (b.record entry s)) (p : Program α) {h : History} {s : σ}
    (hs : I h s) : I (h ++ p.trace b s) (p.run b s).2 := by
  induction p generalizing h s with
  | done a =>
    rw [trace, List.append_nil]
    exact hs
  | call c resume ih =>
    have next := ih (b.answer c s).1 (answer h s c hs)
    rw [List.append_assoc] at next
    exact next
  | note entry rest ih => exact ih (record h s entry hs)

end Program

namespace Attempt

/-- As for programs; `E` bounds what was heard when the attempt fails. -/
def Guarded (x : Attempt α) (G : History → Call → Prop) (Q : History → α → Prop)
    (E : History → Prop) : Prop :=
  (ExceptT.run x).Guarded G fun s outcome =>
    match outcome with
    | .ok a => Q s a
    | .error _ => E s

variable {G : History → Call → Prop} {Q : History → α → Prop} {E : History → Prop}

theorem guarded_pure {a : α} (ha : Q [] a) : (pure a : Attempt α).Guarded G Q E := ha

/-- The same at the end of a longer attempt. -/
theorem guarded_pure_after {s : History} {a : α} (ha : Q s a) :
    (pure a : Attempt α).Guarded G (fun t => Q (s ++ t)) E := by
  refine guarded_pure ?_
  rw [List.append_nil]
  exact ha

theorem guarded_call {Q : History → Value → Prop} {c : Call} (allowed : G [] c)
    (ok : ∀ v, Q [⟨c, .ok v⟩] v) (error : ∀ failure, E [⟨c, .error failure⟩]) :
    (call c).Guarded G Q E :=
  ⟨allowed, fun
    | .ok v => ok v
    | .error failure => error failure⟩

theorem guarded_ofExcept {value : Except Failure α} (ok : ∀ a, Q [] a) (error : E []) :
    (ofExcept value).Guarded G Q E := by
  cases value with
  | ok a => exact ok a
  | error failure => exact error

theorem guarded_log {Q : History → Unit → Prop} {level : LogLevel} {source : LogSource}
    {text : String} (hq : Q [] ()) : (log level source text).Guarded G Q E := hq

theorem Guarded.bind {R : History → β → Prop} {x : Attempt α} {f : α → Attempt β}
    (h : x.Guarded G Q E)
    (rest : ∀ s a, Q s a →
      (f a).Guarded (fun t => G (s ++ t)) (fun t => R (s ++ t)) fun t => E (s ++ t)) :
    (x >>= f).Guarded G R E := by
  refine Program.Guarded.bind h ?_
  intro s outcome settled
  cases outcome with
  | ok a => exact rest s a settled
  | error failure =>
    show E (s ++ [])
    rw [List.append_nil]
    exact settled

theorem Guarded.mono {Q' : History → α → Prop} {E' : History → Prop} {x : Attempt α}
    (h : x.Guarded G Q E) (ok : ∀ s a, Q s a → Q' s a) (error : ∀ s, E s → E' s) :
    x.Guarded G Q' E' := by
  refine Program.Guarded.mono h ?_
  intro s outcome settled
  cases outcome with
  | ok a => exact ok s a settled
  | error failure => exact error s settled

theorem Guarded.holds {Q : History → Value → Prop} {x : Attempt Value} (h : x.Guarded G Q E) :
    x.holds.Guarded G (fun s found => ∃ v, Q s v ∧ found = !v.isFalsy) E := by
  unfold Attempt.holds
  rw [map_eq_pure_bind]
  refine h.bind ?_
  intro s v hv
  refine guarded_pure ?_
  rw [List.append_nil]
  exact ⟨v, hv, rfl⟩

/-- Going on with a value, if it is there. -/
theorem guarded_given {Q : History → β → Prop} {value : Except Failure α} {f : α → Attempt β}
    (ok : ∀ a, value = .ok a → (f a).Guarded G Q E) (error : E []) :
    (ofExcept value >>= f).Guarded G Q E := by
  cases value with
  | ok a => exact ok a rfl
  | error failure => exact error

theorem guarded_always {p : Program α} (h : p.Guarded G Q) : (always p).Guarded G Q E := by
  refine Program.Guarded.bind h ?_
  intro s a ha
  show Q (s ++ []) a
  rw [List.append_nil]
  exact ha

theorem guarded_ite {c : Prop} [Decidable c] {x y : Attempt α} (hx : c → x.Guarded G Q E)
    (hy : ¬ c → y.Guarded G Q E) : (if c then x else y).Guarded G Q E := by
  by_cases now : c
  · rw [if_pos now]
    exact hx now
  · rw [if_neg now]
    exact hy now

/-- What is done about a failure takes over what was heard. -/
theorem Guarded.catching {x : Attempt α} {recover : Failure → Program α} (h : x.Guarded G Q E)
    (rest : ∀ s failure, E s →
      (recover failure).Guarded (fun t => G (s ++ t)) fun t => Q (s ++ t)) :
    (x.catching recover).Guarded G Q := by
  refine Program.Guarded.bind h ?_
  intro s outcome settled
  cases outcome with
  | ok a =>
    show Q (s ++ []) a
    rw [List.append_nil]
    exact settled
  | error failure => exact rest s failure settled

/-- The calls of an attempt on a backend, with their answers. -/
def trace (b : Backend σ) (x : Attempt α) (s : σ) : History := (ExceptT.run x).trace b s

@[simp] theorem trace_pure (b : Backend σ) (a : α) (s : σ) : (pure a : Attempt α).trace b s = [] :=
  rfl

@[simp] theorem trace_ofExcept (b : Backend σ) (value : Except Failure α) (s : σ) :
    (ofExcept value).trace b s = [] := rfl

theorem trace_bind (b : Backend σ) (x : Attempt α) (f : α → Attempt β) (s : σ) :
    (x >>= f).trace b s = x.trace b s ++
      match x.on b s with
      | (.ok a, t) => (f a).trace b t
      | (.error _, _) => [] := by
  show ((ExceptT.run x).bind _).trace b s = _
  rw [Program.trace_bind]
  unfold on trace
  rcases (ExceptT.run x).run b s with ⟨failure | a, t⟩ <;> rfl

@[simp] theorem trace_map (b : Backend σ) (f : α → β) (x : Attempt α) (s : σ) :
    (f <$> x).trace b s = x.trace b s := by
  rw [map_eq_pure_bind, trace_bind]
  rcases x.on b s with ⟨failure | a, t⟩ <;> exact List.append_nil _

/-- For an attempt that cannot fail. -/
theorem Guarded.run {x : Attempt α} (h : x.Guarded G Q fun _ => False) (b : Backend σ) (s : σ) :
    (∀ before asked after, x.trace b s = before ++ asked :: after → G before asked.call) ∧
      ∃ a, (x.on b s).1 = .ok a ∧ Q (x.trace b s) a := by
  obtain ⟨calls, result⟩ := Program.Guarded.run h b s
  refine ⟨calls, ?_⟩
  change match (x.on b s).1 with | .ok a => Q (x.trace b s) a | .error _ => False at result
  cases outcome : (x.on b s).1 with
  | ok a =>
    rw [outcome] at result
    exact ⟨a, rfl, result⟩
  | error failure =>
    rw [outcome] at result
    exact result.elim

/-- A failure that is only logged, and a result that takes its place. -/
theorem Guarded.answering {x : Attempt α} {a : α} (h : x.Guarded G Q fun s => Q s a)
    (entry : Failure → LogEntry) :
    (x.catching fun failure => .note (entry failure) (.done a)).Guarded G Q := by
  refine h.catching ?_
  intro s failure ha
  show Q (s ++ []) a
  rw [List.append_nil]
  exact ha

end Attempt
end FollowGraph
