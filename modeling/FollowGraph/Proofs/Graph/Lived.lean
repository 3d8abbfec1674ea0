import FollowGraph.Proofs.Program.History
import FollowGraph.Proofs.Service.Effects

/-!
# What a history tells about the edges of a graph

A history that a graph has lived through: each call was answered by the graph as it was then, or
failed before it reached the graph, or was none of the graph's business. A client knows only its
own part of it. What it knows of an edge is what the edge was like when it asked, and what can have
happened to the edge since is what a history shows: an edge that comes to be there was created, with
an answer that says so (`Lived.created`), and one that is no longer there was deleted
(`Lived.deleted`).
-/

set_option autoImplicit false

namespace FollowGraph

open History

/-! ## Calls about an edge -/

namespace Edge

abbrev following (a b : UserId) : Edge := ⟨a, b, .following⟩

abbrev blocked (a b : UserId) : Edge := ⟨a, b, .blocked⟩

def query (e : Edge) : Call := .graph (.relationshipExists e.source e.target e.kind)

def creation (e : Edge) : Call := .graph (.createEdge e.source e.target e.kind)

def deletion (e : Edge) : Call := .graph (.deleteEdge e.source e.target e.kind)

variable {e f : Edge}

@[simp] theorem query_inj : e.query = f.query ↔ e = f := by
  cases e
  cases f
  simp [query]

@[simp] theorem creation_inj : e.creation = f.creation ↔ e = f := by
  cases e
  cases f
  simp [creation]

@[simp] theorem deletion_inj : e.deletion = f.deletion ↔ e = f := by
  cases e
  cases f
  simp [deletion]

@[simp] theorem query_ne_creation : e.query ≠ f.creation := fun same => by cases same

@[simp] theorem query_ne_deletion : e.query ≠ f.deletion := fun same => by cases same

@[simp] theorem creation_ne_query : e.creation ≠ f.query := fun same => by cases same

@[simp] theorem creation_ne_deletion : e.creation ≠ f.deletion := fun same => by cases same

@[simp] theorem deletion_ne_query : e.deletion ≠ f.query := fun same => by cases same

@[simp] theorem deletion_ne_creation : e.deletion ≠ f.creation := fun same => by cases same

@[simp] theorem query_ne_find {x : UserId} : e.query ≠ .graph (.findNode x) :=
  fun same => by cases same

@[simp] theorem creation_ne_find {x : UserId} : e.creation ≠ .graph (.findNode x) :=
  fun same => by cases same

@[simp] theorem deletion_ne_find {x : UserId} : e.deletion ≠ .graph (.findNode x) :=
  fun same => by cases same

end Edge

namespace Graph

variable {g m g' : Graph} {asked : Asked} {e : Edge}

/-! ## One call -/

/-- What a call is answered with, and what becomes of a graph. -/
inductive Answers (g : Graph) (asked : Asked) (g' : Graph) : Prop where
  | here {call : GraphCall} (made : asked.call = .graph call)
      (answered : g.answer call = (asked.answer, g'))
  | failed {failure : Failure} (broke : asked.answer = .error failure) (same : g' = g)
  | elsewhere (out : ∀ call, asked.call ≠ .graph call) (same : g' = g)

/-- A write that changes the graph says so. -/
theorem of_written {changed : Except Failure (Option Graph)} {answer : Except Failure Value}
    (h : g.written changed = (answer, g')) (differ : g' ≠ g) :
    answer = .ok (.bool true) ∧ changed = .ok (some g') := by
  match changed with
  | .ok (some _) =>
    cases h
    exact ⟨rfl, rfl⟩
  | .ok none =>
    cases h
    exact absurd rfl differ
  | .error _ =>
    cases h
    exact absurd rfl differ

/-- The edges are as they were, but for one that was added or taken away. -/
theorem Answers.edges_cases (h : Answers g asked g') :
    g'.edges = g.edges ∨
    (∃ e : Edge, asked = ⟨e.creation, .ok (.bool true)⟩ ∧ e ∉ g.edges ∧ g'.edges = g.edges ++ [e]) ∨
    ∃ e : Edge, asked = ⟨e.deletion, .ok (.bool true)⟩ ∧ e ∈ g.edges ∧
      g'.edges = g.edges.erase e := by
  cases h with
  | failed _ same | elsewhere _ same => exact .inl (congrArg edges same)
  | @here call made answered =>
    obtain ⟨c, answer⟩ := asked
    obtain rfl : c = .graph call := made
    have change := change_answer g call
    rw [answered] at change
    change Change g call g' at change
    cases change with
    | nothing => exact .inl rfl
    | upsert _ => exact .inl (edges_upsert ..)
    | setInterests _ _ => exact .inl (edges_setInterests ..)
    | @addEdge source target kind _ added =>
      obtain ⟨⟨-, -, absent⟩, made⟩ := addEdge?_eq_some_iff.1 added
      have edges : g'.edges = g.edges ++ [⟨source, target, kind⟩] := by rw [made, edges_count]
      have differ : g' ≠ g := by
        rintro rfl
        simpa using congrArg List.length edges
      obtain ⟨rfl, -⟩ := of_written answered differ
      exact .inr (.inl ⟨_, rfl, absent, edges⟩)
    | @removeEdge source target kind _ removed =>
      obtain ⟨there, made⟩ := removeEdge?_eq_some_iff.1 removed
      have edges : g'.edges = g.edges.erase ⟨source, target, kind⟩ := by rw [made, edges_count]
      have differ : g' ≠ g := by
        rintro rfl
        have shorter := congrArg List.length edges
        rw [List.length_erase_of_mem there] at shorter
        have := List.length_pos_of_mem there
        omega
      obtain ⟨rfl, -⟩ := of_written answered differ
      exact .inr (.inr ⟨_, rfl, there, edges⟩)

theorem Answers.created (h : Answers g asked g') (before : e ∉ g.edges) (after : e ∈ g'.edges) :
    asked = ⟨e.creation, .ok (.bool true)⟩ := by
  rcases h.edges_cases with same | ⟨f, made, -, edges⟩ | ⟨f, -, -, edges⟩
  · exact absurd (same ▸ after) before
  · rw [edges] at after
    rcases List.mem_append.1 after with old | new
    · exact absurd old before
    · rw [List.mem_singleton.1 new, made]
  · rw [edges] at after
    exact absurd (List.mem_of_mem_erase after) before

theorem Answers.deleted (h : Answers g asked g') (before : e ∈ g.edges) (after : e ∉ g'.edges) :
    asked = ⟨e.deletion, .ok (.bool true)⟩ := by
  rcases h.edges_cases with same | ⟨f, -, -, edges⟩ | ⟨f, made, -, edges⟩
  · exact absurd (same ▸ before) after
  · rw [edges] at after
    exact absurd (List.mem_append_left _ before) after
  · by_cases same : e = f
    · rw [same, made]
    · rw [edges] at after
      exact absurd ((List.mem_erase_of_ne same).2 before) after

theorem Answers.nodup (h : Answers g asked g') (nodup : g.edges.Nodup) : g'.edges.Nodup := by
  rcases h.edges_cases with same | ⟨f, -, absent, edges⟩ | ⟨f, -, -, edges⟩
  · exact same ▸ nodup
  · rw [edges]
    exact (List.perm_append_singleton f g.edges).nodup_iff.2 (List.nodup_cons.2 ⟨absent, nodup⟩)
  · rw [edges]
    exact nodup.erase f

/-- A question about an edge is answered by what is there. -/
theorem Answers.of_query {v : Value} (h : Answers g ⟨e.query, .ok v⟩ g') :
    v = .bool (g.hasEdge e) := by
  cases h with
  | failed broke _ => cases broke
  | elsewhere out _ => exact absurd rfl (out _)
  | here made answered =>
    cases made
    cases answered
    rfl

/-- An edge is there once its creation was answered with yes. -/
theorem Answers.of_creation {v : Value} (h : Answers g ⟨e.creation, .ok v⟩ g')
    (truthy : v.isFalsy = false) : e ∈ g'.edges := by
  cases h with
  | failed broke _ => cases broke
  | elsewhere out _ => exact absurd rfl (out _)
  | here made answered =>
    cases made
    change g.written (g.createEdge e) = _ at answered
    match created : g.createEdge e with
    | .ok (some _) =>
      obtain ⟨-, rfl⟩ := addEdge?_eq_some_iff.1 (createEdge_eq_some created)
      rw [created] at answered
      cases answered
      rw [edges_count]
      exact List.mem_append_right _ (List.mem_singleton.2 rfl)
    | .ok none =>
      rw [created] at answered
      cases answered
      cases truthy
    | .error _ =>
      rw [created] at answered
      cases answered

theorem Answers.of_deletion_affirmed {v : Value} (h : Answers g ⟨e.deletion, .ok v⟩ g')
    (truthy : v.isFalsy = false) : e ∈ g.edges := by
  cases h with
  | failed broke _ => cases broke
  | elsewhere out _ => exact absurd rfl (out _)
  | here made answered =>
    cases made
    change g.written (.ok (g.removeEdge? e)) = _ at answered
    cases removed : g.removeEdge? e with
    | none =>
      rw [removed] at answered
      cases answered
      cases truthy
    | some g' => exact (removeEdge?_eq_some_iff.1 removed).1

/-- An edge that was to be deleted is not there any more, whatever the answer was. -/
theorem Answers.of_deletion {v : Value} (h : Answers g ⟨e.deletion, .ok v⟩ g')
    (nodup : g.edges.Nodup) : e ∉ g'.edges := by
  cases h with
  | failed broke _ => cases broke
  | elsewhere out _ => exact absurd rfl (out _)
  | here made answered =>
    cases made
    change g.written (.ok (g.removeEdge? e)) = _ at answered
    by_cases there : e ∈ g.edges
    · have removed : g.removeEdge? e = some _ := removeEdge?_eq_some_iff.2 ⟨there, rfl⟩
      rw [removed] at answered
      cases answered
      rw [edges_count]
      exact nodup.not_mem_erase
    · have kept : g.removeEdge? e = none := by simp [removeEdge?, hasEdge_iff, there]
      rw [kept] at answered
      cases answered
      exact there

/-! ## Histories -/

/-- A graph lived through a history, call by call. -/
inductive Lived : Graph → History → Graph → Prop
  | nil (g : Graph) : Lived g [] g
  | cons {g m g' : Graph} {asked : Asked} {h : History} (first : Answers g asked m)
      (rest : Lived m h g') : Lived g (asked :: h) g'

variable {s t h : History}

theorem lived_append : Lived g (s ++ t) g' ↔ ∃ m, Lived g s m ∧ Lived m t g' := by
  constructor
  · intro lived
    induction s generalizing g with
    | nil => exact ⟨g, .nil g, lived⟩
    | cons asked s ih =>
      cases lived with
      | cons first rest =>
        obtain ⟨m, before, after⟩ := ih rest
        exact ⟨m, .cons first before, after⟩
  · rintro ⟨m, before, after⟩
    induction before with
    | nil => exact after
    | cons first _ ih => exact .cons first (ih after)

theorem lived_cons : Lived g (asked :: t) g' ↔ ∃ m, Answers g asked m ∧ Lived m t g' := by
  constructor
  · intro lived
    cases lived with
    | cons first rest => exact ⟨_, first, rest⟩
  · rintro ⟨m, first, rest⟩
    exact .cons first rest

theorem Lived.snoc (h : Lived g s m) (last : Answers m asked g') : Lived g (s ++ [asked]) g' :=
  lived_append.2 ⟨m, h, .cons last (.nil g')⟩

theorem Lived.nodup (h : Lived g s g') (nodup : g.edges.Nodup) : g'.edges.Nodup := by
  induction h with
  | nil => exact nodup
  | cons first _ ih => exact ih (first.nodup nodup)

theorem Lived.created (h : Lived g s g') (before : e ∉ g.edges) (after : e ∈ g'.edges) :
    (⟨e.creation, .ok (.bool true)⟩ : Asked) ∈ s := by
  induction h with
  | nil => exact absurd after before
  | @cons g m _ asked _ first _ ih =>
    by_cases between : e ∈ m.edges
    · rw [first.created before between]
      exact List.mem_cons_self
    · exact List.mem_cons_of_mem _ (ih between after)

theorem Lived.deleted (h : Lived g s g') (before : e ∈ g.edges) (after : e ∉ g'.edges) :
    (⟨e.deletion, .ok (.bool true)⟩ : Asked) ∈ s := by
  induction h with
  | nil => exact absurd before after
  | @cons g m _ asked _ first _ ih =>
    by_cases between : e ∈ m.edges
    · exact List.mem_cons_of_mem _ (ih between after)
    · rw [first.deleted before between]
      exact List.mem_cons_self

end Graph

/-! ## What a client heard -/

/-- An answer after which an edge is not there: a question about it answered with no, or its removal
whatever the answer. -/
inductive Asked.Misses (e : Edge) : Asked → Prop
  | absent {v : Value} (falsy : v.isFalsy = true) : Misses e ⟨e.query, .ok v⟩
  | deleted (v : Value) : Misses e ⟨e.deletion, .ok v⟩

/-- An answer before which an edge was there: yes to a question about it, or to its removal. -/
inductive Asked.Finds (e : Edge) : Asked → Prop
  | present {v : Value} (truthy : v.isFalsy = false) : Finds e ⟨e.query, .ok v⟩
  | taken {v : Value} (truthy : v.isFalsy = false) : Finds e ⟨e.deletion, .ok v⟩

namespace History

variable {h : History} {e : Edge}

theorem exists_misses_of_denied (denied : Denied h e.query) : ∃ asked ∈ h, asked.Misses e := by
  obtain ⟨v, there, falsy⟩ := denied
  exact ⟨_, there, .absent falsy⟩

theorem exists_misses_of_completed (completed : Completed h e.deletion) :
    ∃ asked ∈ h, asked.Misses e := by
  obtain ⟨v, there, -⟩ := completed
  exact ⟨_, there, .deleted v⟩

end History

namespace Graph

variable {g m g' : Graph} {asked : Asked} {e : Edge} {h : History}

theorem Answers.missed (answers : Answers g asked g') (nodup : g.edges.Nodup)
    (misses : asked.Misses e) : e ∉ g'.edges := by
  cases misses with
  | deleted v => exact answers.of_deletion nodup
  | absent falsy =>
    have told := answers.of_query
    intro there
    by_cases before : e ∈ g.edges
    · rw [told, hasEdge_iff.2 before] at falsy
      cases falsy
    · have differ := answers.created before there
      simp at differ

theorem Answers.found (answers : Answers g asked g') (finds : asked.Finds e) : e ∈ g.edges := by
  cases finds with
  | taken truthy => exact answers.of_deletion_affirmed truthy
  | present truthy =>
    rw [answers.of_query] at truthy
    by_cases there : e ∈ g.edges
    · exact there
    · have no : g.hasEdge e = false := by
        rw [Bool.eq_false_iff, ne_eq, hasEdge_iff]
        exact there
      rw [no] at truthy
      cases truthy

/-- A history around one of its calls. -/
theorem Lived.around (lived : Lived g h g') (told : asked ∈ h) :
    ∃ before after m m', h = before ++ asked :: after ∧ Lived g before m ∧ Answers m asked m' ∧
      Lived m' after g' := by
  obtain ⟨before, after, rfl⟩ := List.append_of_mem told
  obtain ⟨m, first, rest⟩ := lived_append.1 lived
  obtain ⟨m', answers, rest⟩ := lived_cons.1 rest
  exact ⟨before, after, m, m', rfl, first, answers, rest⟩

/-- What a client was told was missing is missing at the end, unless it was created since. -/
theorem Lived.missing (lived : Lived g h g') (nodup : g.edges.Nodup) (told : asked ∈ h)
    (misses : asked.Misses e) (uncreated : (⟨e.creation, .ok (.bool true)⟩ : Asked) ∉ h) :
    e ∉ g'.edges := by
  obtain ⟨before, after, m, m', rfl, first, answers, rest⟩ := lived.around told
  intro there
  have absent := answers.missed (first.nodup nodup) misses
  have created := rest.created absent there
  exact uncreated (List.mem_append_right _ (List.mem_cons_of_mem _ created))

/-- What a client found was there at the beginning, unless it was created before. -/
theorem Lived.found (lived : Lived g h g') (told : asked ∈ h) (finds : asked.Finds e)
    (uncreated : (⟨e.creation, .ok (.bool true)⟩ : Asked) ∉ h) : e ∈ g.edges := by
  obtain ⟨before, after, m, m', rfl, first, answers, -⟩ := lived.around told
  by_cases there : e ∈ g.edges
  · exact there
  · have created := first.created there (answers.found finds)
    exact absurd (List.mem_append_left _ created) uncreated

/-- An edge that was there and that nobody deleted is never said to be absent. -/
theorem Lived.not_denied (lived : Lived g h g') (there : e ∈ g.edges)
    (undeleted : (⟨e.deletion, .ok (.bool true)⟩ : Asked) ∉ h) : ¬ Denied h e.query := by
  rintro ⟨v, told, falsy⟩
  obtain ⟨before, after, m, m', rfl, first, answers, -⟩ := lived.around told
  by_cases still : e ∈ m.edges
  · rw [answers.of_query, hasEdge_iff.2 still] at falsy
    cases falsy
  · exact undeleted (List.mem_append_left _ (first.deleted there still))

end Graph

/-! ## The stores -/

namespace World

theorem answers (c : Call) (w : World) :
    w.graph.Answers ⟨c, (w.answer c).1⟩ (w.answer c).2.graph := by
  cases c with
  | graph call => exact .here rfl rfl
  | presetMutualCount _ _ => exact .elsewhere nofun rfl
  | cacheGet _ | cacheSet _ _ _ | cacheDelete _ | publish _ _ =>
    refine .elsewhere nofun ((answered_answer _ w).graph_eq ?_)
    rintro _ ⟨⟩ ⟨⟩

end World
end FollowGraph
