import FollowGraph.Proofs.Pair.Permits

/-!
# What an operation does to a graph that it is told the truth about

The permissions of an operation (`PairOperation.Permits`) speak of what it was told. Here the
answers come from a graph, or not at all where calls fail: the graph has lived through a history of
which every call was permitted. What was told was true then, and the only edges that have changed
since are those of the operation itself.

A block between two users shuts out every change between them but its own removal
(`Permitted.kept_while_blocked`), and a block that found no answer missing stands alone afterwards
(`Permitted.cleared_by_block`).
-/

set_option autoImplicit false

namespace FollowGraph

open History

/-! ## The edges of a pair -/

/-- The edge leads from one of two users to the other. -/
def Edge.Between (a b : UserId) (e : Edge) : Prop :=
  e.source = a ∧ e.target = b ∨ e.source = b ∧ e.target = a

namespace Edge

variable {a b : UserId} {e f : Edge}

theorem between_ends (e : Edge) : e.Between e.source e.target := .inl ⟨rfl, rfl⟩

theorem Between.swap (h : e.Between a b) : e.Between b a := Or.symm h

theorem Between.trans (he : e.Between a b) (hf : f.Between a b) : f.Between e.source e.target := by
  rcases he with ⟨rfl, rfl⟩ | ⟨rfl, rfl⟩
  · exact hf
  · exact hf.swap

end Edge

theorem History.Free.denied {h : History} {a b : UserId} {e : Edge} (free : Free h a b)
    (kind : e.kind = .blocked) (between : e.Between a b) : Denied h e.query := by
  obtain ⟨source, target, _⟩ := e
  obtain rfl := kind
  rcases between with ⟨rfl, rfl⟩ | ⟨rfl, rfl⟩
  · exact free.1
  · exact free.2

/-- A question is not answered with no and then with yes unless the edge was created. -/
theorem Graph.Lived.not_turned {g g' : Graph} {h : History} {e : Edge} (lived : g.Lived h g')
    (nodup : g.edges.Nodup) (uncreated : (⟨e.creation, .ok (.bool true)⟩ : Asked) ∉ h) :
    ¬ Turned h e.query := by
  rintro ⟨first, second, rfl, denied, affirmed⟩
  obtain ⟨m, before, after⟩ := lived_append.1 lived
  obtain ⟨asked, told, misses⟩ := exists_misses_of_denied denied
  have absent := before.missing nodup told misses fun made =>
    uncreated (List.mem_append_left _ made)
  obtain ⟨v, found, truthy⟩ := affirmed
  exact absent (after.found found (.present truthy) fun made =>
    uncreated (List.mem_append_right _ made))

namespace PairOperation

variable {op : PairOperation} {h : History} {e f : Edge} {answer : Except Failure Value}

/-! ## What a permission implies -/

/-- An edge is added only by the operation that adds it, and between two users who do not block one
another. -/
theorem Permits.of_creation {c : Call} (permits : op.Permits h c) (made : c = e.creation) :
    op.adds? = some e ∧ e.source ≠ e.target ∧ Free h e.source e.target := by
  cases permits with
  | read reads => rw [made] at reads; cases reads
  | announce _ _ => cases made
  | unfollow | removeFollower | detach | unblock | unblockBack => exact absurd made (by simp)
  | follow differ once target source absent free =>
    obtain rfl := Edge.creation_inj.1 made
    exact ⟨rfl, fun same => differ (Json.str.inj same), free⟩
  | block differ once target source free out back =>
    obtain rfl := Edge.creation_inj.1 made
    exact ⟨rfl, fun same => differ (Json.str.inj same), free⟩

/-- What an edge that is taken away says of the operation: a block goes only with an unblock, a
following edge only between two users who do not block one another. -/
inductive Removes (op : PairOperation) (h : History) (e : Edge) : Prop where
  | following (kind : e.kind = .following) (free : Free h e.source e.target)
      (other : ∀ a b, op ≠ .unblock a b)
  | blocked {a b : String} (unblock : op = .unblock a b) (kind : e.kind = .blocked)
      (between : e.Between (.str a) (.str b))

theorem Removes.append_right (h' : Removes op h e) (t : History) : Removes op (h ++ t) e := by
  cases h' with
  | following kind free other => exact .following kind (free.append_right t) other
  | blocked unblock kind between => exact .blocked unblock kind between

theorem Permits.of_deletion {c : Call} (permits : op.Permits h c) (made : c = e.deletion) :
    Removes op h e := by
  cases permits with
  | read reads => rw [made] at reads; cases reads
  | announce _ _ => cases made
  | follow | block => exact absurd made (by simp)
  | unfollow differ once there free =>
    obtain rfl := Edge.deletion_inj.1 made
    exact .following rfl free nofun
  | removeFollower differ once there free =>
    obtain rfl := Edge.deletion_inj.1 made
    exact .following rfl free.symm nofun
  | detach differ between once before there undenied free =>
    obtain rfl := Edge.deletion_inj.1 made
    rcases between with rfl | rfl
    · exact .following rfl free nofun
    · exact .following rfl free.symm nofun
  | unblock differ once there =>
    obtain rfl := Edge.deletion_inj.1 made
    exact .blocked rfl rfl (.inl ⟨rfl, rfl⟩)
  | unblockBack differ once notOwn there =>
    obtain rfl := Edge.deletion_inj.1 made
    exact .blocked rfl rfl (.inr ⟨rfl, rfl⟩)

/-- What a block knows of its pair when it adds its edge. -/
theorem Permits.of_block {a b : String} {c : Call}
    (permits : (PairOperation.block a b).Permits h c)
    (made : c = (Edge.blocked (.str a) (.str b)).creation) :
    Never h c ∧ ∀ e : Edge, e.kind = .following → e.Between (.str a) (.str b) →
      Gone h (.str a) (.str b) e := by
  cases permits with
  | read reads => rw [made] at reads; cases reads
  | detach => exact absurd made (by simp)
  | block differ once target source free out back =>
    refine ⟨once, ?_⟩
    rintro ⟨source, target, _⟩ rfl (⟨rfl, rfl⟩ | ⟨rfl, rfl⟩)
    · exact out
    · exact back

/-- An operation that adds an edge takes another one away only before that, and only if it has not
been told that there is none. -/
theorem Permits.of_deletion_of_adds {c : Call} (permits : op.Permits h c) (made : c = e.deletion)
    (adds : op.adds? = some f) :
    f ≠ e ∧ Never h f.creation ∧ ∀ asked ∈ h, ¬ asked.Misses e := by
  cases permits with
  | read reads => rw [made] at reads; cases reads
  | announce _ _ => cases made
  | follow | block => exact absurd made (by simp)
  | unfollow | removeFollower | unblock | unblockBack => cases adds
  | detach differ between once before there undenied free =>
    obtain rfl := Edge.deletion_inj.1 made
    cases adds
    refine ⟨?_, before, ?_⟩
    · rintro rfl
      rcases between with same | same <;> cases same
    · rintro _ told (⟨falsy⟩ | v)
      · exact undenied ⟨_, told, falsy⟩
      · exact once _ told rfl

/-- An operation that adds an edge does not take another one away any more: the other one is that
edge itself, or the operation was told that it is missing, or it has added its own. -/
def PastTaking (op : PairOperation) (h : History) (e : Edge) : Prop :=
  ∃ own, op.adds? = some own ∧
    (own = e ∨ (∃ asked ∈ h, asked.Misses e) ∨ ∃ asked ∈ h, asked.call = own.creation)

theorem PastTaking.not_permits {t : History} (past : op.PastTaking h e) :
    ¬ op.Permits (h ++ t) e.deletion := by
  intro permits
  obtain ⟨own, adds, clash⟩ := past
  obtain ⟨differ, uncreated, unmissed⟩ := permits.of_deletion_of_adds rfl adds
  rcases clash with same | ⟨asked, told, misses⟩ | ⟨asked, told, created⟩
  · exact differ same
  · exact unmissed asked (List.mem_append_left t told) misses
  · exact uncreated asked (List.mem_append_left t told) created

/-! ## Permitted histories -/

/-- Each call of a history is one that the earlier answers permit. -/
def Permitted (op : PairOperation) (h : History) : Prop :=
  ∀ before asked after, h = before ++ asked :: after → op.Permits before asked.call

theorem Permitted.created (permitted : op.Permitted h) (made : ⟨e.creation, answer⟩ ∈ h) :
    op.adds? = some e ∧ e.source ≠ e.target ∧ Free h e.source e.target := by
  obtain ⟨before, after, rfl⟩ := List.append_of_mem made
  obtain ⟨adds, differ, free⟩ := (permitted before _ after rfl).of_creation rfl
  exact ⟨adds, differ, free.append_right _⟩

theorem Permitted.deleted (permitted : op.Permitted h) (made : ⟨e.deletion, answer⟩ ∈ h) :
    Removes op h e := by
  obtain ⟨before, after, rfl⟩ := List.append_of_mem made
  exact ((permitted before _ after rfl).of_deletion rfl).append_right _

theorem Permitted.not_created (permitted : op.Permitted h) (adds : op.adds? = some e)
    (differ : f ≠ e) : (⟨f.creation, answer⟩ : Asked) ∉ h := by
  intro made
  have other := (permitted.created made).1
  rw [adds] at other
  exact differ (Option.some.inj other).symm

/-- A block between two users is taken away by an unblock of the two, which answers for it. -/
theorem Permitted.unblocks {a b : String} (permitted : op.Permitted h)
    (made : (⟨e.deletion, .ok (.bool true)⟩ : Asked) ∈ h) (kind : e.kind = .blocked)
    (pair : e.Between (.str a) (.str b)) :
    (op = .unblock a b ∨ op = .unblock b a) ∧ op.Wrote h := by
  have taken : Affirmed h e.deletion := ⟨_, made, rfl⟩
  cases permitted.deleted made with
  | following other _ _ => rw [kind] at other; cases other
  | @blocked a' b' unblock _ between =>
    subst unblock
    obtain ⟨source, target, _⟩ := e
    obtain rfl := kind
    rcases between with ⟨rfl, rfl⟩ | ⟨rfl, rfl⟩ <;> rcases pair with ⟨⟨⟩, ⟨⟩⟩ | ⟨⟨⟩, ⟨⟩⟩
    · exact ⟨.inl rfl, .inl taken⟩
    · exact ⟨.inr rfl, .inl taken⟩
    · exact ⟨.inr rfl, .inr taken⟩
    · exact ⟨.inl rfl, .inr taken⟩

/-- An unblock that answers for its write has taken a block of its two users away. -/
theorem exists_deletion_of_unblock {a b : String} (lifts : op = .unblock a b ∨ op = .unblock b a)
    (wrote : op.Wrote h) :
    ∃ d : Edge, d.kind = .blocked ∧ d.Between (.str a) (.str b) ∧ Affirmed h d.deletion := by
  rcases lifts with rfl | rfl <;> rcases wrote with own | other
  · exact ⟨_, rfl, .inl ⟨rfl, rfl⟩, own⟩
  · exact ⟨_, rfl, .inr ⟨rfl, rfl⟩, other⟩
  · exact ⟨_, rfl, .inr ⟨rfl, rfl⟩, own⟩
  · exact ⟨_, rfl, .inl ⟨rfl, rfl⟩, other⟩

theorem Permitted.unblock_creates_none {a b : String}
    (permitted : (PairOperation.unblock a b).Permitted h) (e : Edge) :
    (⟨e.creation, answer⟩ : Asked) ∉ h := by
  intro made
  cases (permitted.created made).1

/-! ## On a graph -/

section OnGraph

variable {g g' : Graph} {q : Edge}

/-- As long as a block is there, nobody hears that it is not. -/
theorem Permitted.not_free (permitted : op.Permitted h) (lived : g.Lived h g')
    (limited : q ∈ g.edges) (kind : q.kind = .blocked) (between : q.Between e.source e.target)
    (other : ∀ a b, op ≠ .unblock a b) : ¬ Free h e.source e.target := by
  intro free
  refine lived.not_denied limited ?_ (free.denied kind between)
  intro made
  cases permitted.deleted made with
  | following differ _ _ => rw [kind] at differ; cases differ
  | blocked unblock _ _ => exact other _ _ unblock

theorem not_unblock_of_adds (adds : op.adds? = some e) (a b : String) : op ≠ .unblock a b := by
  rintro rfl
  cases adds

/-- **A block shuts everything out but its own removal.** Between two users of whom one has blocked
the other no edge is added, and none is taken away but a block, by an unblock. -/
theorem Permitted.kept_while_blocked (permitted : op.Permitted h) (lived : g.Lived h g')
    {a b : UserId} (limited : q ∈ g.edges) (kind : q.kind = .blocked) (pair : q.Between a b)
    (unfreed : ∀ f : Edge, f.kind = .blocked → f.Between a b →
      (⟨f.deletion, .ok (.bool true)⟩ : Asked) ∉ h) (between : e.Between a b) :
    e ∈ g'.edges ↔ e ∈ g.edges := by
  constructor
  · intro after
    by_contra before
    obtain ⟨adds, -, free⟩ := permitted.created (lived.created before after)
    exact permitted.not_free lived limited kind (between.trans pair) (not_unblock_of_adds adds) free
  · intro before
    by_contra after
    have made := lived.deleted before after
    cases permitted.deleted made with
    | following _ free other =>
      exact permitted.not_free lived limited kind (between.trans pair) other free
    | blocked _ kind _ => exact unfreed e kind between made

theorem Permitted.no_self (permitted : op.Permitted h) (lived : g.Lived h g')
    (before : ∀ e ∈ g.edges, e.source ≠ e.target) : ∀ e ∈ g'.edges, e.source ≠ e.target := by
  intro e after
  by_cases old : e ∈ g.edges
  · exact before e old
  · exact (permitted.created (lived.created old after)).2.1

/-- Two users do not come to block one another. -/
theorem Permitted.one_block (permitted : op.Permitted h) (lived : g.Lived h g')
    (nodup : g.edges.Nodup)
    (before : ∀ a b, Edge.blocked a b ∈ g.edges → Edge.blocked b a ∉ g.edges) :
    ∀ a b, Edge.blocked a b ∈ g'.edges → Edge.blocked b a ∉ g'.edges := by
  intro a b own other
  by_cases old : Edge.blocked a b ∈ g.edges
  · have new := lived.created (before a b old) other
    obtain ⟨adds, -, free⟩ := permitted.created new
    exact permitted.not_free lived old rfl (.inr ⟨rfl, rfl⟩) (not_unblock_of_adds adds) free
  · obtain ⟨adds, differ, free⟩ := permitted.created (lived.created old own)
    obtain ⟨asked, told, misses⟩ := exists_misses_of_denied free.2
    refine lived.missing nodup told misses (permitted.not_created adds ?_) other
    exact fun same => differ (congrArg Edge.target same)

/-- A block that was told each time whether there is an edge leaves nothing beside it. -/
theorem Permitted.cleared_by_block {a b : String}
    (permitted : (PairOperation.block a b).Permitted h) (lived : g.Lived h g') (nodup : g.edges.Nodup)
    (made : ⟨(Edge.blocked (.str a) (.str b)).creation, answer⟩ ∈ h) (unflawed : ¬ Flawed h)
    (kind : e.kind = .following) (between : e.Between (.str a) (.str b)) : e ∉ g'.edges := by
  have uncreated : (⟨e.creation, .ok (.bool true)⟩ : Asked) ∉ h :=
    permitted.not_created rfl fun same => by rw [same] at kind; cases kind
  obtain ⟨before, after, rfl⟩ := List.append_of_mem made
  obtain ⟨m, first, -⟩ := Graph.lived_append.1 lived
  have told {asked : Asked} (there : asked ∈ before) (misses : asked.Misses e) : e ∉ g'.edges :=
    lived.missing nodup (List.mem_append_left _ there) misses uncreated
  obtain ⟨once, gone⟩ := (permitted before _ after rfl).of_block rfl
  cases gone e kind between with
  | absent denied =>
    obtain ⟨asked, there, misses⟩ := exists_misses_of_denied denied
    exact told there misses
  | deleted completed =>
    obtain ⟨asked, there, misses⟩ := exists_misses_of_completed completed
    exact told there misses
  | limited turned =>
    -- Neither block was there at first, and the block itself has not added one yet.
    rcases turned with own | other
    · exact absurd own (first.not_turned nodup fun made => once _ made rfl)
    · refine absurd other (first.not_turned nodup fun made => ?_)
      have same := (permitted.created (List.mem_append_left _ made)).1
      have adds := permitted.created (e := .blocked (.str a) (.str b))
        (List.mem_append_right _ List.mem_cons_self)
      exact adds.2.1 (congrArg Edge.source (Option.some.inj same))
  | failed flawed => exact absurd (flawed_append.2 (.inl flawed)) unflawed

/-- An unblock leaves the following edges as they are. -/
theorem Permitted.following_kept_by_unblock {a b : String}
    (permitted : (PairOperation.unblock a b).Permitted h) (lived : g.Lived h g')
    (kind : e.kind = .following) : e ∈ g'.edges ↔ e ∈ g.edges := by
  constructor
  · intro after
    by_contra new
    exact permitted.unblock_creates_none e (lived.created new after)
  · intro before
    by_contra gone
    cases permitted.deleted (lived.deleted before gone) with
    | blocked _ blocks _ => rw [kind] at blocks; cases blocks
    | following _ _ other => exact other a b rfl

end OnGraph
end PairOperation

/-- The stores themselves answer every question about an edge, and every removal of one. -/
theorem World.not_flawed_answer (w : World) (c : Call) : ¬ Flawed [⟨c, (w.answer c).1⟩] := by
  rintro ⟨e, failure, there | there⟩
  · cases List.mem_singleton.1 there
  · have same := List.mem_singleton.1 there
    obtain rfl : e.deletion = c := congrArg Asked.call same
    have failed : .error failure = (w.graph.written (.ok (w.graph.removeEdge? e))).1 :=
      congrArg Asked.answer same
    cases removed : w.graph.removeEdge? e with
    | none => rw [removed] at failed; cases failed
    | some g => rw [removed] at failed; cases failed
end FollowGraph
