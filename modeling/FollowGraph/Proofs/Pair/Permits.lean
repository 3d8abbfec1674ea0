import FollowGraph.Proofs.Graph.Lived
import FollowGraph.Proofs.Pair.Machine
import FollowGraph.Proofs.Service.Untouched

/-!
# When an operation may write

What the five operations on a pair of users make sure of before they write: `PairOperation.Permits`
lists, for each write that an operation can make, what the operation has been told by then. It is
a matter of the answers to its own calls and of nothing else, so it makes sense on any stores,
those that change under the operation's hands or contradict themselves too.
-/

set_option autoImplicit false

namespace FollowGraph

open History

namespace History

variable {h s t : History} {a b : UserId} {c : Call}

/-- A user was found. -/
abbrev Found (h : History) (x : UserId) : Prop :=
  Heard h (.graph (.findNode x)) fun v => v.isNull = false

/-- Neither of two users was said to have blocked the other. -/
def Free (h : History) (a b : UserId) : Prop :=
  Denied h (Edge.blocked a b).query ∧ Denied h (Edge.blocked b a).query

/-- A question was answered first with no and later with yes. -/
def Turned (h : History) (c : Call) : Prop :=
  ∃ first second, h = first ++ second ∧ Denied first c ∧ Affirmed second c

theorem turned_of_append (before : Denied s c) (after : Affirmed t c) : Turned (s ++ t) c :=
  ⟨s, t, rfl, before, after⟩

theorem Turned.append_left (h : Turned t c) (s : History) : Turned (s ++ t) c := by
  obtain ⟨first, second, rfl, denied, affirmed⟩ := h
  exact ⟨s ++ first, second, by rw [List.append_assoc], heard_append.2 (.inr denied), affirmed⟩

theorem Turned.append_right (h : Turned s c) (t : History) : Turned (s ++ t) c := by
  obtain ⟨first, second, rfl, denied, affirmed⟩ := h
  exact ⟨first, second ++ t, List.append_assoc .., denied, heard_append.2 (.inl affirmed)⟩

/-- A question about an edge failed, or the removal of one. -/
def Flawed (h : History) : Prop :=
  ∃ e : Edge, ∃ failure, (⟨e.query, .error failure⟩ : Asked) ∈ h ∨ ⟨e.deletion, .error failure⟩ ∈ h

theorem flawed_append : Flawed (s ++ t) ↔ Flawed s ∨ Flawed t := by
  constructor
  · rintro ⟨e, failure, there⟩
    rw [List.mem_append, List.mem_append, or_or_or_comm] at there
    exact there.imp (⟨e, failure, ·⟩) (⟨e, failure, ·⟩)
  · rintro (⟨e, failure, there⟩ | ⟨e, failure, there⟩)
    · exact ⟨e, failure, there.imp (List.mem_append_left t) (List.mem_append_left t)⟩
    · exact ⟨e, failure, there.imp (List.mem_append_right s) (List.mem_append_right s)⟩

theorem flawed_of_not_steady {calls : List Call} (among : Among calls s)
    (about : ∀ c ∈ calls, ∃ e : Edge, c = e.query ∨ c = e.deletion) (unsteady : ¬ Steady s) :
    Flawed s := by
  simp only [Steady, not_forall, not_exists] at unsteady
  obtain ⟨⟨c, answer⟩, there, failed⟩ := unsteady
  cases answer with
  | ok v => exact absurd rfl (failed v)
  | error failure =>
    obtain ⟨e, rfl | rfl⟩ := about c (among _ there)
    · exact ⟨e, failure, .inl there⟩
    · exact ⟨e, failure, .inr there⟩

/-- It was heard that an edge is gone, or why that was not found out. -/
inductive Gone (h : History) (a b : UserId) (e : Edge) : Prop where
  | absent (denied : Denied h e.query)
  | deleted (completed : Completed h e.deletion)
  | limited (turned : Turned h (Edge.blocked a b).query ∨ Turned h (Edge.blocked b a).query)
  | failed (flawed : Flawed h)

theorem Free.append_left (h : Free t a b) (s : History) : Free (s ++ t) a b :=
  ⟨heard_append.2 (.inr h.1), heard_append.2 (.inr h.2)⟩

theorem Free.append_right (h : Free s a b) (t : History) : Free (s ++ t) a b :=
  ⟨heard_append.2 (.inl h.1), heard_append.2 (.inl h.2)⟩

theorem Free.symm (h : Free s a b) : Free s b a := ⟨h.2, h.1⟩

theorem Gone.append_right {e : Edge} (h : Gone s a b e) (t : History) : Gone (s ++ t) a b e := by
  cases h with
  | absent denied => exact .absent (heard_append.2 (.inl denied))
  | deleted completed => exact .deleted (heard_append.2 (.inl completed))
  | limited turned =>
    exact .limited (turned.imp (Turned.append_right · t) (Turned.append_right · t))
  | failed flawed => exact .failed (flawed_append.2 (.inl flawed))

end History

/-! ## What each write waits for -/

open Edge in
/-- The calls that an operation can make after what it has heard. Each write is made once, and a
block adds its edge last. -/
inductive PairOperation.Permits : PairOperation → History → Call → Prop
  | read {op : PairOperation} {h : History} {c : Call} (reads : c.Reads) : Permits op h c
  | follow {a b : String} {h : History} (differ : a ≠ b)
      (once : Never h (following (.str a) (.str b)).creation)
      (target : Found h (.str b)) (source : Found h (.str a))
      (absent : Denied h (following (.str a) (.str b)).query) (free : Free h (.str a) (.str b)) :
      Permits (.follow a b) h (following (.str a) (.str b)).creation
  | announce {a b : String} {h : History} {event payload : Json}
      (once : ∀ event payload, Never h (.publish event payload))
      (followed : Affirmed h (following (.str a) (.str b)).creation) :
      Permits (.follow a b) h (.publish event payload)
  | unfollow {a b : String} {h : History} (differ : a ≠ b)
      (once : Never h (following (.str a) (.str b)).deletion)
      (there : Affirmed h (following (.str a) (.str b)).query)
      (free : Free h (.str a) (.str b)) :
      Permits (.unfollow a b) h (following (.str a) (.str b)).deletion
  | removeFollower {a b : String} {h : History} (differ : a ≠ b)
      (once : Never h (following (.str b) (.str a)).deletion)
      (there : Affirmed h (following (.str b) (.str a)).query)
      (free : Free h (.str a) (.str b)) :
      Permits (.removeFollower a b) h (following (.str b) (.str a)).deletion
  | detach {a b : String} {h : History} {e : Edge} (differ : a ≠ b)
      (between : e = following (.str a) (.str b) ∨ e = following (.str b) (.str a))
      (once : Never h e.deletion) (before : Never h (blocked (.str a) (.str b)).creation)
      (there : Affirmed h e.query) (undenied : ¬ Denied h e.query)
      (free : Free h (.str a) (.str b)) :
      Permits (.block a b) h e.deletion
  | block {a b : String} {h : History} (differ : a ≠ b)
      (once : Never h (blocked (.str a) (.str b)).creation)
      (target : Found h (.str b)) (source : Found h (.str a)) (free : Free h (.str a) (.str b))
      (out : Gone h (.str a) (.str b) (following (.str a) (.str b)))
      (back : Gone h (.str a) (.str b) (following (.str b) (.str a))) :
      Permits (.block a b) h (blocked (.str a) (.str b)).creation
  | unblock {a b : String} {h : History} (differ : a ≠ b)
      (once : ∀ e : Edge, Never h e.deletion)
      (there : Affirmed h (blocked (.str a) (.str b)).query) :
      Permits (.unblock a b) h (blocked (.str a) (.str b)).deletion
  | unblockBack {a b : String} {h : History} (differ : a ≠ b)
      (once : ∀ e : Edge, Never h e.deletion)
      (notOwn : Denied h (blocked (.str a) (.str b)).query)
      (there : Affirmed h (blocked (.str b) (.str a)).query) :
      Permits (.unblock a b) h (blocked (.str b) (.str a)).deletion

/-- The edge that an operation adds. -/
def PairOperation.adds? : PairOperation → Option Edge
  | .follow a b => some (.following (.str a) (.str b))
  | .block a b => some (.blocked (.str a) (.str b))
  | .unfollow .. | .removeFollower .. | .unblock .. => none

/-- The following edge that an operation takes away. -/
def PairOperation.takes? : PairOperation → Option Edge
  | .unfollow a b => some (.following (.str a) (.str b))
  | .removeFollower a b => some (.following (.str b) (.str a))
  | .follow .. | .block .. | .unblock .. => none

/-- The write that an operation answers for went through. -/
def PairOperation.Wrote (h : History) : PairOperation → Prop
  | .follow a b => Affirmed h (Edge.following (.str a) (.str b)).creation
  | .unfollow a b => Affirmed h (Edge.following (.str a) (.str b)).deletion
  | .removeFollower a b => Affirmed h (Edge.following (.str b) (.str a)).deletion
  | .block a b => Affirmed h (Edge.blocked (.str a) (.str b)).creation
  | .unblock a b => Affirmed h (Edge.blocked (.str a) (.str b)).deletion ∨
    Affirmed h (Edge.blocked (.str b) (.str a)).deletion

end FollowGraph
