import FollowGraph.Proofs.Graph.Texts
import FollowGraph.Proofs.Service.Flaky
import FollowGraph.Proofs.Store.Silent

/-!
# Operations as a boundary for failures

Whatever calls fail in an operation, its caller gets a response, and the response says nothing of
what they failed with. The second half is a statement about two runs: under two schedules that make
the same calls fail, each with failures of its own, an operation answers the same and leaves the
same stores behind. Only the log tells the two runs apart.

Both follow from the contracts, for any stores at all, but for the tags of a user: these are sorted
outside of everything that is caught, and texts always sort. `Graph.TextTags` is kept by all
operations, so in a run that begins with it nothing has to be known of the tags
(`Flaky.readsTexts_performAll`).

The boundary is around operations, and around the one question that is answered by yes or no,
whether a user is stored. The parts of an operation hand failures on to it:
`Suggestions.fetchCandidates` does, and `Suggestions.getSuggestions` catches them.
-/

set_option autoImplicit false

namespace FollowGraph

open Attempt

/-! ## The tags of a user -/

/-- The tags of a user are sorted without a failure when the stores answer with texts. -/
theorem Interests.on_get {σ : Type} (b : Backend σ) (s : σ) (userId : UserId)
    (texts : ∀ v, (b.answer (.graph (.listUserInterests userId)) s).1 = .ok v →
      ∃ tags, v = .plain (.arr tags) ∧ ∀ tag ∈ tags, tag.isText = true) :
    ∃ r, ((get userId).on b s).1 = .ok r := by
  simp only [get, stored, on_bind, on_always, run_catching, on_map, Ask.listUserInterests, on_call]
  cases answered : (b.answer (.graph (.listUserInterests userId)) s).1 with
  | error failure => exact ⟨_, rfl⟩
  | ok v =>
    obtain ⟨tags, rfl, all⟩ := texts v answered
    simp only [Except.map, on_ite, on_pure, on_bind, on_ofExcept, ascending_of_texts all]
    split <;> exact ⟨_, rfl⟩

/-- The stores answer an operation with no tags but texts. -/
def Operation.HearsTexts {σ : Type} (b : Backend σ) (s : σ) : Operation → Prop
  | .getInterests userId =>
    ∀ v, (b.answer (.graph (.listUserInterests (.str userId))) s).1 = .ok v →
      ∃ tags, v = .plain (.arr tags) ∧ ∀ tag ∈ tags, tag.isText = true
  | _ => True

/-- An operation has a response on any stores. -/
theorem Operation.exists_response {σ : Type} (b : Backend σ) (s : σ) {op : Operation}
    (texts : op.HearsTexts b s) : ∃ r, (op.program.on b s).1 = .ok r := by
  by_cases getter : ∃ userId, op = .getInterests userId
  · obtain ⟨userId, rfl⟩ := getter
    exact Interests.on_get b s (.str userId) texts
  · obtain ⟨r, answered, -⟩ := op.obeys.exists_ok b s getter
    exact ⟨r, answered⟩

/-- The tags that an operation sorts are texts, as stored tags are meant to be. -/
def Operation.ReadsTexts (g : Graph) : Operation → Prop
  | .getInterests userId => ∀ tag ∈ g.interestsOf (.str userId), tag.isText = true
  | _ => True

theorem Graph.TextTags.readsTexts {g : Graph} (h : g.TextTags) (op : Operation) :
    op.ReadsTexts g := by
  cases op with
  | getInterests userId => exact h.interestsOf (.str userId)
  | _ => trivial

/-- Whether the calls that fail under two schedules are the same. -/
def Schedule.Alike (schedule schedule' : Schedule) : Prop :=
  ∀ total c, (schedule total c).isSome = (schedule' total c).isSome

namespace Flaky

variable (schedule : Schedule) {schedule' : Schedule} {s t : Flaky}

/-- Whether a user is stored, as the users' service says. -/
def check (s : Flaky) (userId : String) : Bool × Flaky :=
  (Users.isStored (.str userId)).run (backend schedule) { s with calls := [] }

/-! ## Every operation answers -/

theorem exists_ok_perform {op : Operation} (texts : op.ReadsTexts s.world.graph) :
    ∃ r, (s.perform schedule op).1 = .ok r := by
  refine op.exists_response (backend schedule) { s with calls := [] } ?_
  cases op with
  | getInterests userId =>
    intro v answered
    let s' : Flaky := { s with calls := [] }
    cases hf : schedule s'.total (.graph (.listUserInterests (.str userId))) with
    | some failure =>
      rw [answer_of_failing schedule hf] at answered
      cases answered
    | none =>
      rw [answer_of_passing schedule hf] at answered
      cases answered
      exact ⟨_, rfl, texts⟩
  | _ => trivial

/-- A call of an operation gives a user no tags but texts. -/
theorem givesTextTags_of_makes {op : Operation} {call : GraphCall}
    (made : op.Makes (.graph call)) : Graph.GivesTextTags call := by
  cases call with
  | setUserInterests userId given =>
    rcases made with read | writes
    · cases read
    · cases writes with
      | setInterests _ _ texts =>
        intro tags read tag there
        obtain ⟨items, same, rest⟩ := of_bind_eq_ok read
        obtain ⟨_, -, rest⟩ := of_bind_eq_ok rest
        cases same
        cases rest
        obtain ⟨text, -, rfl⟩ := List.mem_map.1 there
        rfl
  | _ => trivial

/-- The tags that are stored stay texts, whatever operations run and whatever fails in them. -/
theorem textTags_perform (s : Flaky) (tags : s.world.graph.TextTags) (op : Operation) :
    (s.perform schedule op).2.world.graph.TextTags := by
  have keeps : World.backend.Keeps op.Makes fun w v : World =>
      w.graph.TextTags → v.graph.TextTags :=
    { refl := fun _ h => h
      trans := fun first second h => second (first h)
      answer := fun c w made h => by
        rcases (World.answered_answer c w).graph_change with same | ⟨call, rfl, changed⟩
        · exact same.symm ▸ h
        · exact h.change (givesTextTags_of_makes made) changed
      record := fun _ _ h => h }
  exact op.uses_makes.run_keeps (keeps_worlds schedule keeps) { s with calls := [] } tags

/-- The stores after some operations, the first of them first. -/
def performAll (s : Flaky) : List Operation → Flaky
  | [] => s
  | op :: rest => (s.perform schedule op).2.performAll rest

theorem textTags_performAll (ops : List Operation) (tags : s.world.graph.TextTags) :
    (s.performAll schedule ops).world.graph.TextTags := by
  induction ops generalizing s with
  | nil => exact tags
  | cons op rest ih => exact ih (textTags_perform schedule s tags op)

/-- Wherever a run has got to that began with texts for tags, and whatever has failed on the way:
the tags that an operation sorts are texts. -/
theorem readsTexts_performAll (ops : List Operation) (tags : s.world.graph.TextTags)
    (op : Operation) : op.ReadsTexts (s.performAll schedule ops).world.graph :=
  (textTags_performAll schedule ops tags).readsTexts op

/-! ## What failures say is seen by no one -/

/-- The same stores but for the log, and the same calls made to them. -/
structure Alike (s t : Flaky) : Prop where
  world : s.world.unlogged = t.world.unlogged
  total : s.total = t.total
  calls : s.calls = t.calls

variable {schedule}

theorem Alike.made (h : Alike s t) (c : Call) (failed : Bool) {w v : World}
    (same : w.unlogged = v.unlogged) : Alike (s.made c failed w) (t.made c failed v) where
  world := same
  total := congrArg (· + 1) h.total
  calls := congrArg (fun calls => calls ++ [(⟨c, failed⟩ : Made)]) h.calls

theorem Alike.answer (h : Alike s t) (same : schedule.Alike schedule') (c : Call) :
    Settled (fun _ => True) True (answer schedule c s).1 (answer schedule' c t).1 ∧
      Alike (answer schedule c s).2 (answer schedule' c t).2 := by
  have both := same s.total c
  unfold Flaky.answer
  rw [← h.total]
  cases hf : schedule s.total c with
  | some failure =>
    cases hf' : schedule' s.total c with
    | some failure' => exact ⟨trivial, h.made c true h.world⟩
    | none =>
      rw [hf, hf'] at both
      cases both
  | none =>
    cases hf' : schedule' s.total c with
    | some failure' =>
      rw [hf, hf'] at both
      cases both
    | none =>
      obtain ⟨answer, world⟩ := World.answer_congr (c := c) h.world
      dsimp only
      rw [answer]
      exact ⟨settled_self _, h.made c false world⟩

/-- A program that shows no failure comes to the same on both, and so do the stores. -/
theorem Alike.run {α : Type} {P : Call → Prop} {R : α → α → Prop} {p : Program α}
    (agrees : p.Agrees P R p) (same : schedule.Alike schedule') (h : Alike s t) :
    R (p.run (backend schedule) s).1 (p.run (backend schedule') t).1 ∧
      Alike (p.run (backend schedule) s).2 (p.run (backend schedule') t).2 :=
  agrees.run Alike (fun c _ _ _ h => h.answer same c)
    (fun _ _ _ _ h => ⟨h.world, h.total, h.calls⟩) h

theorem perform_alike (same : schedule.Alike schedule') {op : Operation}
    (texts : op.ReadsTexts s.world.graph) :
    (s.perform schedule op).1 = (s.perform schedule' op).1 ∧
      Alike (s.perform schedule op).2 (s.perform schedule' op).2 := by
  obtain ⟨settled, alike⟩ := Alike.run op.obeys same
    (⟨rfl, rfl, rfl⟩ : Alike { s with calls := [] } { s with calls := [] })
  refine ⟨?_, alike⟩
  obtain ⟨r, answered⟩ := exists_ok_perform schedule texts
  obtain ⟨r', answered'⟩ := exists_ok_perform schedule' texts
  change Settled _ _ (s.perform schedule op).1 (s.perform schedule' op).1 at settled
  rw [answered, answered'] at settled ⊢
  exact congrArg Except.ok settled.1

theorem check_alike (same : schedule.Alike schedule') (s : Flaky) (userId : String) :
    (s.check schedule userId).1 = (s.check schedule' userId).1 ∧
      Alike (s.check schedule userId).2 (s.check schedule' userId).2 := by
  have contract : (Users.isStored (.str userId)).Obeys (fun _ => True) (fun _ => True) :=
    Users.obeys_isStored (.str userId)
  obtain ⟨answer, alike⟩ := Alike.run contract same
    (⟨rfl, rfl, rfl⟩ : Alike { s with calls := [] } { s with calls := [] })
  exact ⟨answer.1, alike⟩

/-- A look-up that fails finds no one. -/
theorem check_of_failing {userId : String}
    (fails : (schedule s.total (.graph (.findNode (.str userId)))).isSome = true) :
    (s.check schedule userId).1 = false := by
  obtain ⟨failure, fails⟩ := Option.isSome_iff_exists.1 fails
  let s' : Flaky := { s with calls := [] }
  change schedule s'.total _ = _ at fails
  unfold check Users.isStored
  rw [run_catching, on_map, Ask.findNode, on_call, answer_of_failing schedule fails]
  rfl

/-- **Every operation is a boundary for failures, and none shows through it.** On any stores, with
any calls made to fail: an operation answers, with success and code 200 or with no success and one
of the codes 400, 403, 404 and 500; the question whether a user is stored has the answer no when
the look-up fails; and with other failures of the same calls, answers and stores are the same, all
but the log. -/
theorem bounded (schedule : Schedule) (s : Flaky) :
    (∀ op : Operation, op.ReadsTexts s.world.graph →
      (∃ r, (s.perform schedule op).1 = .ok r ∧ r.Proper) ∧
      ∀ schedule', schedule.Alike schedule' →
        (s.perform schedule op).1 = (s.perform schedule' op).1 ∧
        (s.perform schedule op).2.world.unlogged = (s.perform schedule' op).2.world.unlogged) ∧
    ∀ userId,
      ((schedule s.total (.graph (.findNode (.str userId)))).isSome = true →
        (s.check schedule userId).1 = false) ∧
      ∀ schedule', schedule.Alike schedule' →
        (s.check schedule userId).1 = (s.check schedule' userId).1 ∧
        (s.check schedule userId).2.world.unlogged =
          (s.check schedule' userId).2.world.unlogged := by
  refine ⟨fun op texts => ⟨?_, fun schedule' same => ?_⟩, fun userId => ⟨check_of_failing, ?_⟩⟩
  · obtain ⟨r, answered⟩ := exists_ok_perform schedule texts
    exact ⟨r, answered, op.obeys.of_ok (backend schedule) _ answered⟩
  · obtain ⟨answer, alike⟩ := perform_alike same texts
    exact ⟨answer, alike.world⟩
  · intro schedule' same
    obtain ⟨answer, alike⟩ := check_alike same s userId
    exact ⟨answer, alike.world⟩

/-- One user with one tag. -/
def tagged : Flaky :=
  ofWorld { World.empty with
    graph := (Graph.ofFollows ["ann"] []).after
      [.setUserInterests (.str "ann") (.arr [.str "music"])] }

/-- Every call fails, with a message of one's choice. -/
def outage (message : String) : Schedule := fun _ _ => some (.external "ConnectionError" message)

/-- With nothing working the tags of a user cannot be told, nor why. -/
theorem bounded_tagged :
    (∃ r, (tagged.perform (outage "graph down") (.getInterests "ann")).1 = .ok r ∧ r.Proper) ∧
    (tagged.perform (outage "graph down") (.getInterests "ann")).1 =
      (tagged.perform (outage "password: 1234") (.getInterests "ann")).1 ∧
    (tagged.check (outage "graph down") "ann").1 = false := by
  have all := bounded (outage "graph down") tagged
  have texts : (Operation.getInterests "ann").ReadsTexts tagged.world.graph := by
    show ∀ tag ∈ tagged.world.graph.interestsOf (.str "ann"), tag.isText = true
    decide +kernel
  have same : (outage "graph down").Alike (outage "password: 1234") := fun _ _ => rfl
  obtain ⟨answers, masked⟩ := all.1 _ texts
  exact ⟨answers, (masked _ same).1, (all.2 "ann").1 rfl⟩

end Flaky
end FollowGraph
