import FollowGraph.Proofs.Pair.Conduct
import FollowGraph.Proofs.Pair.Permitted
import FollowGraph.Proofs.Program.Interleaving

/-!
# Two operations on pairs at once

No operation locks anything: it asks about the edges of its pair, call by call, and then writes. So
between a question and the write that it was asked for, another client can write too. This module
says what that does to exclusivity.

Only one thing breaks it (`PairOperation.Overtaken`): a client is told that an edge is not there,
the other client then adds that edge, and the first one adds an edge of its own that excludes it.
As long as that has not happened blocks stand alone, whatever else the two do
(`PairOperation.Shared.alone_or_overtaken`, by induction over the turns), and where it has happened
neither client takes its edge away again (`PairOperation.Shared.not_alone_of_overtaken`).
-/

set_option autoImplicit false

namespace FollowGraph

open History Race

/-! ## Edges that exclude one another -/

/-- Beside a block there is no other edge between its two users. -/
def Graph.Alone (g : Graph) : Prop :=
  ∀ a b, Edge.blocked a b ∈ g.edges →
    Edge.following a b ∉ g.edges ∧ Edge.following b a ∉ g.edges ∧ Edge.blocked b a ∉ g.edges

/-- Two edges between the same two users, one of them a block. -/
structure Edge.Opposes (e f : Edge) : Prop where
  between : f.Between e.source e.target
  blocks : e.kind = .blocked ∨ f.kind = .blocked
  differ : e ≠ f

theorem Edge.Opposes.symm {e f : Edge} (h : e.Opposes f) : f.Opposes e where
  between := by
    rcases h.between with ⟨source, target⟩ | ⟨source, target⟩
    · exact .inl ⟨source.symm, target.symm⟩
    · exact .inr ⟨target.symm, source.symm⟩
  blocks := h.blocks.symm
  differ := h.differ.symm

theorem Graph.alone_iff {g : Graph} :
    g.Alone ↔ (∀ a, Edge.blocked a a ∉ g.edges) ∧
      ∀ e ∈ g.edges, ∀ f ∈ g.edges, ¬ e.Opposes f := by
  constructor
  · intro alone
    have unopposed {a b : UserId} {f : Edge} (block : Edge.blocked a b ∈ g.edges)
        (there : f ∈ g.edges) : ¬ (Edge.blocked a b).Opposes f := by
      intro opposes
      obtain ⟨out, back, other⟩ := alone a b block
      obtain ⟨source, target, kind⟩ := f
      rcases opposes.between with ⟨rfl, rfl⟩ | ⟨rfl, rfl⟩ <;> cases kind
      · exact out there
      · exact opposes.differ rfl
      · exact back there
      · exact other there
    refine ⟨fun a own => (alone a a own).2.2 own, ?_⟩
    rintro ⟨a, b, kind⟩ he ⟨c, d, kind'⟩ hf opposes
    rcases opposes.blocks with rfl | rfl
    · exact unopposed he hf opposes
    · exact unopposed hf he opposes.symm
  · rintro ⟨noSelf, unopposed⟩ a b block
    refine ⟨?_, ?_, ?_⟩
    · exact fun out => unopposed _ block _ out ⟨.inl ⟨rfl, rfl⟩, .inl rfl, nofun⟩
    · exact fun back => unopposed _ block _ back ⟨.inr ⟨rfl, rfl⟩, .inl rfl, nofun⟩
    · intro other
      by_cases same : a = b
      · subst same
        exact noSelf a other
      · refine unopposed _ block _ other ⟨.inr ⟨rfl, rfl⟩, .inl rfl, ?_⟩
        exact fun h => same (congrArg Edge.source h)

theorem Graph.Alone.mono {g g' : Graph} (alone : g.Alone) (sub : g'.edges ⊆ g.edges) :
    g'.Alone := by
  intro a b block
  obtain ⟨out, back, other⟩ := alone a b (sub block)
  exact ⟨fun there => out (sub there), fun there => back (sub there),
    fun there => other (sub there)⟩

theorem Graph.Alone.snoc {g g' : Graph} {e : Edge} (alone : g.Alone)
    (edges : g'.edges = g.edges ++ [e]) (differ : e.source ≠ e.target)
    (unopposed : ∀ f ∈ g.edges, ¬ e.Opposes f) : g'.Alone := by
  obtain ⟨noSelf, old⟩ := Graph.alone_iff.1 alone
  have cases_of_mem {f : Edge} (there : f ∈ g'.edges) : f ∈ g.edges ∨ f = e := by
    rw [edges] at there
    simpa using there
  refine Graph.alone_iff.2 ⟨?_, ?_⟩
  · intro a own
    rcases cases_of_mem own with there | rfl
    · exact noSelf a there
    · exact differ rfl
  · intro p hp q hq opposes
    rcases cases_of_mem hp with hp | rfl <;> rcases cases_of_mem hq with hq | rfl
    · exact old p hp q hq opposes
    · exact unopposed p hp opposes.symm
    · exact unopposed q hq opposes
    · exact opposes.differ rfl

namespace PairOperation

/-! ## Two clients -/

/-- The two clients are at their beginning. -/
def race (ops : Side → PairOperation) (w : World) : Race World (Except Failure Response) where
  state := w
  programs who := ExceptT.run (ops who).operation.program
  turns := []

/-- A client is told that an edge is not there; then the other client adds it; then the first one
adds an edge of its own that the other one excludes. -/
inductive Overtaken (ops : Side → PairOperation) (turns : List Ply) : Prop
  | intro {who : Side} {e f : Edge} {missed : Asked} (opposes : e.Opposes f)
      (own : (ops who).adds? = some e) (other : (ops who.other).adds? = some f)
      (misses : missed.Misses f)
      (order : [(who, missed), (who.other, ⟨f.creation, .ok (.bool true)⟩),
        (who, ⟨e.creation, .ok (.bool true)⟩)].Sublist turns) : Overtaken ops turns

variable {ops : Side → PairOperation} {turns s t : List Ply} {g g' : Graph} {e f : Edge}
  {who x : Side} {answer : Except Failure Value}

theorem Overtaken.append (h : Overtaken ops s) (t : List Ply) : Overtaken ops (s ++ t) := by
  obtain ⟨opposes, own, other, misses, order⟩ := h
  exact ⟨opposes, own, other, misses, order.trans (List.sublist_append_left s t)⟩

/-- The turns of two clients and a graph that lived through them. -/
structure Shared (ops : Side → PairOperation) (g : Graph) (turns : List Ply) (g' : Graph) :
    Prop where
  obeyed : Obeyed (fun who => (ops who).Permits) turns
  lived : g.Lived (turns.map Prod.snd) g'
  unflawed : ¬ Flawed (turns.map Prod.snd)

theorem shared_run (ops : Side → PairOperation) (w : World) (schedule : List Side) :
    Shared ops w.graph ((race ops w).run World.backend schedule).turns
      ((race ops w).run World.backend schedule).state.graph := by
  have guarded : (race ops w).Guarded fun who => (ops who).Permits :=
    fun who => Program.Guarded.mono (ops who).guarded fun _ _ _ => trivial
  have begun : w.graph.Lived [] w.graph ∧ ¬ Flawed [] := by
    refine ⟨.nil _, ?_⟩
    rintro ⟨e, failure, there | there⟩ <;> cases there
  have related := run_related (b := World.backend) (r := race ops w)
    (I := fun turns s => w.graph.Lived (turns.map Prod.snd) s.graph ∧ ¬ Flawed (turns.map Prod.snd))
    ?_ ?_ guarded obeyed_nil begun schedule
  · exact ⟨related.1, related.2.1, related.2.2⟩
  · rintro turns s who c ⟨lived, unflawed⟩
    rw [List.map_append]
    refine ⟨lived.snoc (World.answers c s), ?_⟩
    intro flawed
    rcases flawed_append.1 flawed with old | new
    · exact unflawed old
    · exact s.not_flawed_answer c new
  · exact fun _ _ _ h => h

namespace Shared

theorem snoc_cases {turn : Ply} (h : Shared ops g (turns ++ [turn]) g') :
    ∃ m, Shared ops g turns m ∧ Graph.Answers m turn.2 g' ∧
      (ops turn.1).Permits (heard turn.1 turns) turn.2.call := by
  obtain ⟨obeyed, lived, unflawed⟩ := h
  obtain ⟨past, last⟩ := obeyed_snoc.1 obeyed
  rw [List.map_append] at lived unflawed
  obtain ⟨m, before, after⟩ := Graph.lived_append.1 lived
  obtain ⟨m', answers, rest⟩ := Graph.lived_cons.1 after
  cases rest
  exact ⟨m, ⟨past, before, fun flawed => unflawed (flawed_append.2 (.inl flawed))⟩, answers, last⟩

theorem permitted (h : Shared ops g turns g') (who : Side) :
    (ops who).Permitted (heard who turns) := fun _ _ _ split => h.obeyed.own split

theorem append_left (h : Shared ops g (s ++ t) g') :
    ∃ m, Shared ops g s m ∧ m.Lived (t.map Prod.snd) g' := by
  obtain ⟨obeyed, lived, unflawed⟩ := h
  rw [List.map_append] at lived unflawed
  obtain ⟨m, first, rest⟩ := Graph.lived_append.1 lived
  have unflawed_first : ¬ Flawed (s.map Prod.snd) :=
    fun flawed => unflawed (flawed_append.2 (.inl flawed))
  exact ⟨m, ⟨obeyed.append_left, first, unflawed_first⟩, rest⟩

theorem adds_of_mem (h : Shared ops g turns g') (made : (who, ⟨e.creation, answer⟩) ∈ turns) :
    (ops who).adds? = some e ∧ e.source ≠ e.target := by
  obtain ⟨adds, differ, -⟩ := (h.permitted who).created (mem_heard.2 made)
  exact ⟨adds, differ⟩

theorem unflawed_heard (h : Shared ops g turns g') (who : Side) : ¬ Flawed (heard who turns) := by
  have told {asked : Asked} (there : asked ∈ heard who turns) : asked ∈ turns.map Prod.snd :=
    List.mem_map.2 ⟨_, mem_heard.1 there, rfl⟩
  rintro ⟨e, failure, there⟩
  exact h.unflawed ⟨e, failure, there.imp told told⟩

/-- An edge that is there although a client was told that it was missing was created since. -/
theorem created_since {missed : Asked} (h : Shared ops g turns g') (nodup : g.edges.Nodup)
    (told : (who, missed) ∈ turns) (misses : missed.Misses e) (there : e ∈ g'.edges) :
    ∃ x, [(who, missed), (x, ⟨e.creation, .ok (.bool true)⟩)].Sublist turns := by
  obtain ⟨before, after, rfl⟩ := List.append_of_mem told
  obtain ⟨m, first, rest⟩ := h.append_left
  obtain ⟨m', answers, later⟩ := Graph.lived_cons.1 rest
  have absent := answers.missed (first.lived.nodup nodup) misses
  obtain ⟨⟨x, -⟩, made, rfl⟩ := List.mem_map.1 (later.created absent there)
  refine ⟨x, List.Sublist.trans ?_ (List.sublist_append_right before _)⟩
  exact (List.singleton_sublist.2 made).cons_cons _

/-- A client that was told that an edge was missing and then found it. -/
theorem found_since (h : Shared ops g turns g') (turned : Turned (heard who turns) e.query) :
    ∃ s t m missed, turns = s ++ t ∧ Shared ops g s m ∧ m.Lived (t.map Prod.snd) g' ∧
      e ∈ m.edges ∧ (who, missed) ∈ s ∧ missed.Misses e := by
  obtain ⟨first, second, split, denied, affirmed⟩ := turned
  obtain ⟨s, t, rfl, rfl, rfl⟩ := heard_split split
  obtain ⟨missed, told, misses⟩ := exists_misses_of_denied denied
  obtain ⟨v, found, truthy⟩ := affirmed
  obtain ⟨u, v, rfl⟩ := List.append_of_mem (mem_heard.1 found)
  rw [← List.append_assoc] at h
  obtain ⟨m, before, after⟩ := h.append_left
  obtain ⟨m', answers, -⟩ := Graph.lived_cons.1 after
  exact ⟨s ++ u, _, m, missed, (List.append_assoc ..).symm, before, after,
    answers.found (.present truthy), List.mem_append_left _ (mem_heard.1 told), misses⟩

/-- An edge stays that neither client takes away any more. -/
theorem lasts {m : Graph} (h : Shared ops g (s ++ t) g') (lived : m.Lived (t.map Prod.snd) g')
    (there : e ∈ m.edges) (past : ∀ x, (ops x).PastTaking (heard x s) e) : e ∈ g'.edges := by
  by_contra gone
  obtain ⟨⟨x, -⟩, made, rfl⟩ := List.mem_map.1 (lived.deleted there gone)
  obtain ⟨u, v, rfl⟩ := List.append_of_mem made
  rw [← List.append_assoc] at h
  have permits := h.obeyed _ _ _ _ rfl
  rw [Race.heard_append] at permits
  exact (past x).not_permits permits

/-- So does one that was just added. -/
theorem added_lasts {who : Side}
    (h : Shared ops g (s ++ [(who, ⟨e.creation, .ok (.bool true)⟩)] ++ t) g')
    (past : ∀ x, (ops x).PastTaking (heard x (s ++ [(who, ⟨e.creation, .ok (.bool true)⟩)])) e) :
    e ∈ g'.edges := by
  obtain ⟨m, first, rest⟩ := h.append_left
  obtain ⟨before, past_first, answers, permits⟩ := first.snoc_cases
  exact h.lasts rest (answers.of_creation rfl) past

end Shared

/-! ## Only what was overtaken breaks the rule -/

/-- A client that was told that an edge was missing when now it is there, and that adds an edge
which excludes it, was overtaken. -/
theorem overtaken_of_missed {missed : Asked} (h : Shared ops g s g') (nodup : g.edges.Nodup)
    (opposes : e.Opposes f) (own : (ops who).adds? = some e) (told : (who, missed) ∈ s)
    (misses : missed.Misses f) (there : f ∈ g'.edges)
    (adds : (who, ⟨e.creation, .ok (.bool true)⟩) ∈ t) : Overtaken ops (s ++ t) := by
  obtain ⟨x, order⟩ := h.created_since nodup told misses there
  obtain ⟨other, -⟩ := h.adds_of_mem (order.subset (List.mem_cons_of_mem _ List.mem_cons_self))
  have differ : x ≠ who := by
    rintro rfl
    rw [own] at other
    exact opposes.differ (Option.some.inj other)
  obtain rfl := Side.eq_other_of_ne differ
  exact ⟨opposes, own, other, misses, order.append (List.singleton_sublist.2 adds)⟩

theorem block_of_adds {op : PairOperation} (adds : op.adds? = some e) (kind : e.kind = .blocked) :
    ∃ a b, op = .block a b ∧ e = .blocked (.str a) (.str b) := by
  cases op with
  | block a b =>
    cases adds
    exact ⟨a, b, rfl, rfl⟩
  | follow =>
    cases adds
    cases kind
  | unfollow | removeFollower | unblock => cases adds

/-- A block that was told of no block and then found one was overtaken. The one that it found is the
other client's: the same one, and then it would still be there, or the one in the other
direction. -/
theorem overtaken_of_turned {a b : UserId} (h : Shared ops g turns g') (nodup : g.edges.Nodup)
    (own : (ops who).adds? = some (.blocked a b)) (differ : a ≠ b)
    (once : Never (heard who turns) (Edge.blocked a b).creation)
    (new : Edge.blocked a b ∉ g'.edges)
    (turned : Turned (heard who turns) (Edge.blocked a b).query ∨
      Turned (heard who turns) (Edge.blocked b a).query) :
    Overtaken ops (turns ++ [(who, ⟨(Edge.blocked a b).creation, .ok (.bool true)⟩)]) := by
  rcases turned with same | back
  · obtain ⟨s, t, m, missed, rfl, first, rest, found, told, misses⟩ := h.found_since same
    obtain ⟨x, order⟩ := first.created_since nodup told misses found
    have made := order.subset (List.mem_cons_of_mem _ List.mem_cons_self)
    have other : x ≠ who := by
      rintro rfl
      exact once _ (mem_heard.2 (List.mem_append_left t made)) rfl
    have both : ∀ y, (ops y).adds? = some (.blocked a b) := by
      intro y
      by_cases mine : y = who
      · exact mine ▸ own
      · rw [Side.eq_other_of_ne mine, ← Side.eq_other_of_ne other]
        exact (first.adds_of_mem made).1
    exact absurd (h.lasts rest found fun y => ⟨_, both y, .inl rfl⟩) new
  · obtain ⟨s, t, m, missed, rfl, first, -, found, told, misses⟩ := h.found_since back
    have opposed : (Edge.blocked a b).Opposes (.blocked b a) :=
      ⟨.inr ⟨rfl, rfl⟩, .inl rfl, fun same => differ (congrArg Edge.source same)⟩
    rw [List.append_assoc]
    exact overtaken_of_missed first nodup opposed own told misses found
      (List.mem_append_right t (List.mem_singleton.2 rfl))

/-- **An edge that is added beside one that it excludes was overtaken.** -/
theorem overtaken_of_creation (h : Shared ops g turns g') (nodup : g.edges.Nodup)
    (permits : (ops who).Permits (heard who turns) e.creation) (new : e ∉ g'.edges)
    (opposes : e.Opposes f) (there : f ∈ g'.edges) :
    Overtaken ops (turns ++ [(who, ⟨e.creation, .ok (.bool true)⟩)]) := by
  obtain ⟨own, differ, free⟩ := permits.of_creation rfl
  have last : (who, (⟨e.creation, .ok (.bool true)⟩ : Asked)) ∈
      [(who, (⟨e.creation, .ok (.bool true)⟩ : Asked))] := List.mem_singleton.2 rfl
  have of_missed (missed : ∃ asked ∈ heard who turns, asked.Misses f) :
      Overtaken ops (turns ++ [(who, ⟨e.creation, .ok (.bool true)⟩)]) := by
    obtain ⟨asked, told, misses⟩ := missed
    exact overtaken_of_missed h nodup opposes own (mem_heard.1 told) misses there last
  cases kind : f.kind with
  | blocked => exact of_missed (exists_misses_of_denied (free.denied kind opposes.between))
  | following =>
    have blocks : e.kind = .blocked := opposes.blocks.resolve_right (by rw [kind]; nofun)
    obtain ⟨a, b, op, rfl⟩ := block_of_adds own blocks
    rw [op] at permits
    obtain ⟨once, gone⟩ := permits.of_block rfl
    cases gone f kind opposes.between with
    | absent denied => exact of_missed (exists_misses_of_denied denied)
    | deleted completed => exact of_missed (exists_misses_of_completed completed)
    | failed flawed => exact absurd flawed (h.unflawed_heard who)
    | limited turned => exact overtaken_of_turned h nodup own differ once new turned

theorem Shared.alone_or_overtaken (h : Shared ops g turns g') (nodup : g.edges.Nodup)
    (alone : g.Alone) : g'.Alone ∨ Overtaken ops turns := by
  induction turns using List.reverseRecOn generalizing g' with
  | nil =>
    cases h.lived
    exact .inl alone
  | append_singleton turns turn ih =>
    obtain ⟨m, before, answers, permits⟩ := h.snoc_cases
    rcases ih before with still | overtaken
    · rcases answers.edges_cases with same | ⟨e, made, new, edges⟩ | ⟨e, -, -, edges⟩
      · exact .inl (still.mono (same ▸ List.Subset.refl _))
      · obtain ⟨who, asked⟩ := turn
        obtain rfl : asked = ⟨e.creation, .ok (.bool true)⟩ := made
        by_cases opposed : ∃ f ∈ m.edges, e.Opposes f
        · obtain ⟨f, there, opposes⟩ := opposed
          exact .inr (overtaken_of_creation before nodup permits new opposes there)
        · refine .inl (still.snoc edges (permits.of_creation rfl).2.1 ?_)
          intro f there opposes
          exact opposed ⟨f, there, opposes⟩
      · exact .inl (still.mono (edges ▸ List.erase_subset))
    · exact .inr (overtaken.append _)

theorem rivals_of_opposed (own : (ops who).adds? = some e) (other : (ops who.other).adds? = some f)
    (opposes : e.Opposes f) (blocks : e.kind = .blocked) :
    ∃ a b, ops who = .block a b ∧
      (ops who.other = .follow a b ∨ ops who.other = .follow b a ∨ ops who.other = .block b a) := by
  obtain ⟨a, b, op, rfl⟩ := block_of_adds own blocks
  refine ⟨a, b, op, ?_⟩
  cases rival : ops who.other with
  | unfollow | removeFollower | unblock =>
    rw [rival] at other
    cases other
  | follow c d =>
    rw [rival] at other
    cases other
    rcases opposes.between with ⟨⟨⟩, ⟨⟩⟩ | ⟨⟨⟩, ⟨⟩⟩
    · exact .inl rfl
    · exact .inr (.inl rfl)
  | block c d =>
    rw [rival] at other
    cases other
    rcases opposes.between with ⟨⟨⟩, ⟨⟩⟩ | ⟨⟨⟩, ⟨⟩⟩
    · exact absurd rfl opposes.differ
    · exact .inr (.inr rfl)

/-- Only a block can overtake or be overtaken: by a follow of its two users, one way or the other,
or by the block in the other direction. -/
theorem Overtaken.rivals (h : Overtaken ops turns) :
    ∃ x a b, ops x = .block a b ∧
      (ops x.other = .follow a b ∨ ops x.other = .follow b a ∨ ops x.other = .block b a) := by
  obtain @⟨who, e, f, missed, opposes, own, other, misses, order⟩ := h
  rcases opposes.blocks with mine | theirs
  · exact ⟨who, rivals_of_opposed own other opposes mine⟩
  · rw [← Side.other_other who] at own
    exact ⟨who.other, rivals_of_opposed other own opposes.symm theirs⟩

/-! ## What was overtaken stays so -/

theorem Shared.not_alone_of_overtaken (h : Shared ops g turns g')
    (overtaken : Overtaken ops turns) : ¬ g'.Alone := by
  obtain @⟨who, e, f, missed, opposes, own, other, misses, order⟩ := overtaken
  obtain ⟨first, rest, rfl, told, later⟩ := List.cons_sublist_iff.1 order
  obtain ⟨second, third, rfl, theirs, last⟩ := List.cons_sublist_iff.1 later
  have each {P : Side → Prop} (mine : P who) (others : P who.other) : ∀ x, P x := by
    intro x
    by_cases same : x = who
    · exact same ▸ mine
    · exact Side.eq_other_of_ne same ▸ others
  have theirs_stays : f ∈ g'.edges := by
    obtain ⟨p, q, parts⟩ := List.append_of_mem theirs
    have split : first ++ (second ++ third) =
        first ++ p ++ [(who.other, ⟨f.creation, .ok (.bool true)⟩)] ++ (q ++ third) := by
      simp [parts]
    rw [split] at h
    refine h.added_lasts (each ⟨e, own, .inr (.inl ⟨missed, ?_, misses⟩)⟩ ⟨f, other, .inl rfl⟩)
    exact mem_heard.2 (List.mem_append_left _ (List.mem_append_left p told))
  have mine_stays : e ∈ g'.edges := by
    obtain ⟨p, q, parts⟩ := List.append_of_mem (List.singleton_sublist.1 last)
    have split : first ++ (second ++ third) =
        first ++ second ++ p ++ [(who, ⟨e.creation, .ok (.bool true)⟩)] ++ q := by simp [parts]
    rw [split] at h
    refine h.added_lasts (each ⟨e, own, .inl rfl⟩ ⟨f, other, .inr (.inr
      ⟨⟨f.creation, .ok (.bool true)⟩, mem_heard.2 ?_, rfl⟩)⟩)
    exact List.mem_append_left _ (List.mem_append_left p (List.mem_append_right first theirs))
  intro alone
  exact (Graph.alone_iff.1 alone).2 e mine_stays f theirs_stays opposes

/-- **Exclusivity of two operations at once.** Let two clients run one operation each, call by call
in any order, on a graph where every block stands alone and where, as in every graph that calls have
made, no edge is listed twice. At every moment of every schedule blocks stand alone, if and only if
neither client has been overtaken by the other; and that takes a block on one side and, on the
other, a follow of the same two users or the block in return. -/
theorem alone_iff_not_overtaken (w : World) (nodup : w.graph.edges.Nodup) (alone : w.graph.Alone)
    (ops : Side → PairOperation) (schedule : List Side) :
    let raced := (race ops w).run World.backend schedule
    (raced.state.graph.Alone ↔ ¬ Overtaken ops raced.turns) ∧
    (Overtaken ops raced.turns → ∃ x a b, ops x = .block a b ∧
      (ops x.other = .follow a b ∨ ops x.other = .follow b a ∨ ops x.other = .block b a)) := by
  intro raced
  have shared := shared_run ops w schedule
  refine ⟨⟨?_, ?_⟩, Overtaken.rivals⟩
  · intro still overtaken
    exact shared.not_alone_of_overtaken overtaken still
  · intro fair
    exact (shared.alone_or_overtaken nodup alone).resolve_right fair

/-! ## A race -/

/-- Ann follows Bob while he blocks her. -/
def atOnce : Side → PairOperation
  | .left => .follow "ann" "bob"
  | .right => .block "bob" "ann"

/-- Two users and no edge. -/
def strangers : World := { World.empty with graph := .ofFollows ["ann", "bob"] [] }

theorem alone_strangers : strangers.graph.Alone := fun _ _ there => by cases there

/-- Ann makes her five checks, Bob makes all his calls, and then she makes hers. -/
def crossed : List Side :=
  List.replicate 5 .left ++ List.replicate 12 .right ++ List.replicate 8 .left

theorem edges_crossed : ((race atOnce strangers).run World.backend crossed).state.graph.edges =
    [.blocked (.str "bob") (.str "ann"), .following (.str "ann") (.str "bob")] := by rfl

theorem not_alone_crossed :
    ¬ ((race atOnce strangers).run World.backend crossed).state.graph.Alone := by
  intro alone
  have beside := alone (.str "bob") (.str "ann") (edges_crossed ▸ List.mem_cons_self)
  exact beside.2.1 (edges_crossed ▸ List.mem_cons_of_mem _ List.mem_cons_self)

/-- Ann was told of no block, Bob added his, and she added her following edge. -/
theorem alone_iff_not_overtaken_crossed :
    Overtaken atOnce ((race atOnce strangers).run World.backend crossed).turns := by
  by_contra fair
  obtain ⟨exclusive, -⟩ :=
    alone_iff_not_overtaken strangers List.nodup_nil alone_strangers atOnce crossed
  exact not_alone_crossed (exclusive.2 fair)

/-- Both requests come to their ends, and the graph is not exclusive any more. -/
theorem not_exclusive_crossed :
    strangers.graph.Alone ∧
    (∀ who, ∃ r, r.success = true ∧
      ((race atOnce strangers).run World.backend crossed).programs who = .done (.ok r)) ∧
    ¬ ((race atOnce strangers).run World.backend crossed).state.graph.Alone := by
  refine ⟨alone_strangers, ?_, not_alone_crossed⟩
  rintro (_ | _)
  · exact ⟨.ok "User followed successfully" .null, rfl, rfl⟩
  · exact ⟨.ok "User blocked successfully" .null, rfl, rfl⟩

end PairOperation
end FollowGraph
