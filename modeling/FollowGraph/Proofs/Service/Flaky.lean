import FollowGraph.Proofs.Service.Run
import FollowGraph.Proofs.Service.Seen

/-!
# Runs in which calls fail

A `Schedule` makes calls fail, whichever it likes: it is given each call and how many were made
before, so every pattern of failures along a run is a schedule. A call that is made to fail leaves
the stores as they are. `Flaky` are stores that follow a schedule, and remember the calls of the
last step with what became of each.

A request for suggestions makes at most two calls that touch what its viewer has been shown, and
either of the two can fail. `Flaky.Requested` is what all four outcomes have in common with a
request that never got so far.
-/

set_option autoImplicit false

namespace FollowGraph

/-- Which calls fail, and with what, given how many calls came before. -/
abbrev Schedule := Nat → Call → Option Failure

/-- A call that was made, and whether it was made to fail. -/
structure Made where
  call : Call
  failed : Bool
  deriving DecidableEq

structure Flaky where
  world : World
  /-- How many calls were made so far. -/
  total : Nat
  /-- The calls of the last step, in order. -/
  calls : List Made

namespace Flaky

def ofWorld (world : World) : Flaky := { world, total := 0, calls := [] }

/-- The stores after a call, and what was left of the world. -/
def made (s : Flaky) (c : Call) (failed : Bool) (world : World) : Flaky :=
  { world, total := s.total + 1, calls := s.calls ++ [⟨c, failed⟩] }

variable (schedule : Schedule)

def answer (c : Call) (s : Flaky) : Except Failure Value × Flaky :=
  match schedule s.total c with
  | some failure => (.error failure, s.made c true s.world)
  | none => ((s.world.answer c).1, s.made c false (s.world.answer c).2)

def backend : Backend Flaky :=
  { answer := answer schedule
    record := fun entry s => { s with world := s.world.record entry } }

theorem answer_of_failing {s : Flaky} {c : Call} {failure : Failure}
    (h : schedule s.total c = some failure) :
    (backend schedule).answer c s = (.error failure, s.made c true s.world) := by
  show answer schedule c s = _
  rw [answer, h]

theorem answer_of_passing {s : Flaky} {c : Call} (h : schedule s.total c = none) :
    (backend schedule).answer c s =
      ((s.world.answer c).1, s.made c false (s.world.answer c).2) := by
  show answer schedule c s = _
  rw [answer, h]

/-- What the stores keep is kept also where calls fail. -/
theorem keeps_worlds {P : Call → Prop} {S : World → World → Prop} (h : World.backend.Keeps P S) :
    (backend schedule).Keeps P fun s t : Flaky => S s.world t.world where
  refl s := h.refl s.world
  trans := h.trans
  answer c s allowed := by
    cases hf : schedule s.total c with
    | some failure =>
      rw [answer_of_failing schedule hf]
      exact h.refl s.world
    | none =>
      rw [answer_of_passing schedule hf]
      exact h.answer c s.world allowed
  record entry s := h.record entry s.world

def perform (s : Flaky) (op : Operation) : Except Failure Response × Flaky :=
  op.program.on (backend schedule) { s with calls := [] }

def step (s : Flaky) : Step → Flaky
  | .perform op => (s.perform schedule op).2
  | .wait seconds => { s with world := s.world.step (.wait seconds), calls := [] }

def after (s : Flaky) : List Step → Flaky
  | [] => s
  | first :: rest => (s.step schedule first).after rest

theorem after_keeps {P : Flaky → Prop} (step : ∀ s next, P s → P (s.step schedule next))
    {s : Flaky} (h : P s) (steps : List Step) : P (s.after schedule steps) := by
  induction steps generalizing s with
  | nil => exact h
  | cons next rest ih => exact ih (step s next h)

theorem after_append (s : Flaky) (first second : List Step) :
    s.after schedule (first ++ second) = (s.after schedule first).after schedule second := by
  induction first generalizing s with
  | nil => rfl
  | cons next rest ih => exact ih (s.step schedule next)

/-- The stores after each of some steps. -/
def moments (s : Flaky) : List Step → List Flaky
  | [] => []
  | first :: rest => s.step schedule first :: (s.step schedule first).moments rest

theorem moments_append (s : Flaky) (first second : List Step) :
    s.moments schedule (first ++ second) =
      s.moments schedule first ++ (s.after schedule first).moments schedule second := by
  induction first generalizing s with
  | nil => rfl
  | cons next rest ih => exact congrArg (s.step schedule next :: ·) (ih (s.step schedule next))

/-- A run in which no call was made to fail is one of the stores alone. -/
theorem run_of_unfailed {α : Type} (p : Program α) {s : Flaky}
    (unfailed : ∀ m ∈ (p.run (backend schedule) s).2.calls, m.failed = false) :
    (p.run (backend schedule) s).1 = (p.run World.backend s.world).1 ∧
      (p.run (backend schedule) s).2.world = (p.run World.backend s.world).2 := by
  have grows : (backend schedule).Keeps (fun _ => True) fun s t : Flaky => s.calls ⊆ t.calls :=
    { refl := fun _ => List.Subset.refl _
      trans := List.Subset.trans
      answer := fun c s _ => by
        cases hf : schedule s.total c with
        | some failure =>
          rw [answer_of_failing schedule hf]
          exact List.subset_append_left _ _
        | none =>
          rw [answer_of_passing schedule hf]
          exact List.subset_append_left _ _
      record := fun _ _ => List.Subset.refl _ }
  induction p generalizing s with
  | done a => exact ⟨rfl, rfl⟩
  | note entry rest ih => exact ih unfailed
  | call c resume ih =>
    have run (t : Flaky) : (Program.call c resume).run (backend schedule) t =
        (resume ((backend schedule).answer c t).1).run (backend schedule)
          ((backend schedule).answer c t).2 := rfl
    rw [run] at unfailed ⊢
    cases hf : schedule s.total c with
    | some failure =>
      rw [answer_of_failing schedule hf] at unfailed
      have kept := (Program.uses_any (resume (.error failure))).run_keeps grows
        (s.made c true s.world)
      have broke := unfailed ⟨c, true⟩ (kept (List.mem_append_right _ (List.mem_singleton.2 rfl)))
      cases broke
    | none =>
      rw [answer_of_passing schedule hf] at unfailed ⊢
      exact ih _ unfailed

/-! ## What is left alone -/

variable {engine : Engine} {viewer : String} {s t u : Flaky}

/-- Nothing happened to what a viewer has been shown, and no call about it was made. -/
structure Same (engine : Engine) (viewer : String) (s t : Flaky) : Prop where
  clock : t.world.clock = s.world.clock
  wiring : t.world.wiring = s.world.wiring
  entry : t.world.cache.entry? (engine.key viewer) = s.world.cache.entry? (engine.key viewer)
  calls : ∀ m : Made, ¬ engine.Avoids viewer m.call → (m ∈ t.calls ↔ m ∈ s.calls)

theorem Same.trans (first : Same engine viewer s t) (second : Same engine viewer t u) :
    Same engine viewer s u where
  clock := second.clock.trans first.clock
  wiring := second.wiring.trans first.wiring
  entry := second.entry.trans first.entry
  calls m hm := (second.calls m hm).trans (first.calls m hm)

theorem mem_calls_made {c : Call} {failed : Bool} {world : World} {m : Made} :
    m ∈ (s.made c failed world).calls ↔ m ∈ s.calls ∨ m = ⟨c, failed⟩ := by
  simp [made]

theorem same_answer {c : Call} (avoids : engine.Avoids viewer c) (s : Flaky) :
    Same engine viewer s (answer schedule c s).2 := by
  have other {m : Made} {failed : Bool} {world : World} (hm : ¬ engine.Avoids viewer m.call) :
      m ∈ (s.made c failed world).calls ↔ m ∈ s.calls := by
    refine mem_calls_made.trans (or_iff_left fun same => hm ?_)
    rw [same]
    exact avoids
  unfold answer
  split
  · exact ⟨rfl, rfl, rfl, fun m => other⟩
  · have answered := World.answered_answer c s.world
    exact ⟨answered.fixed.1, answered.fixed.2, answered.entry_eq avoids, fun m => other⟩

theorem keeps_same (engine : Engine) (viewer : String) :
    (backend schedule).Keeps (engine.Avoids viewer) (Same engine viewer) where
  refl _ := ⟨rfl, rfl, rfl, fun _ _ => Iff.rfl⟩
  trans := Same.trans
  answer _ s avoids := same_answer schedule avoids s
  record _ _ := ⟨rfl, rfl, rfl, fun _ _ => Iff.rfl⟩

/-! ## The two calls of a request -/

/-- The ids were read: those that are live, unless the call was made to fail. -/
structure Read (engine : Engine) (viewer : String) (s : Flaky) (seen : List UserId) (t : Flaky)
    (failed : Bool) : Prop where
  calls : t.calls = s.calls ++ [⟨.cacheGet (engine.key viewer), failed⟩]
  clock : t.world.clock = s.world.clock
  wiring : t.world.wiring = s.world.wiring
  cache : t.world.cache =
    if failed then s.world.cache else s.world.cache.touch s.world.clock (engine.key viewer)
  ids : failed = false → seen = s.world.seen engine viewer

/-- Ids were written, unless the call was made to fail. -/
structure Wrote (engine : Engine) (viewer : String) (s : Flaky) (shown : Json) (t : Flaky)
    (failed : Bool) : Prop where
  calls : t.calls = s.calls ++ [⟨.cacheSet (engine.key viewer) shown engine.window.ttl, failed⟩]
  clock : t.world.clock = s.world.clock
  wiring : t.world.wiring = s.world.wiring
  cache : t.world.cache =
    if failed then s.world.cache
    else s.world.cache.set (engine.key viewer) shown (s.world.clock + engine.seconds)

section Calls

variable {window : SeenWindow} {viewer : UserId} {shown : Json} {seconds : Int}

/-- What a call that is not made to fail reads of a window. -/
theorem run_seenIds_of_passing (memory : s.world.wiring.cacheOnServer = false)
    (passing : schedule s.total (.cacheGet (window.key viewer)) = none) :
    (window.seenIds viewer).run (backend schedule) s =
      (SeenWindow.idsOf
        (.plain ((s.world.cache.live? s.world.clock (window.key viewer)).getD .null)),
      s.made (.cacheGet (window.key viewer)) false
        { s.world with
          cache := s.world.cache.touch s.world.clock (window.key viewer) }) := by
  unfold SeenWindow.seenIds
  rw [Attempt.run_catching, Attempt.on_map, Ask.cacheGet, Attempt.on_call,
    answer_of_passing schedule passing, World.answer_cacheGet memory (window.requireHashable_key viewer)]
  rfl

theorem run_write_of_passing (memory : s.world.wiring.cacheOnServer = false)
    (ttl : window.ttl = .int seconds) (new : Nat)
    (passing : schedule s.total (.cacheSet (window.key viewer) shown window.ttl) = none) :
    ∃ log, ((window.write viewer shown new).run (backend schedule) s).2 =
      s.made (.cacheSet (window.key viewer) shown window.ttl) false
        { s.world with
          cache := s.world.cache.set (window.key viewer) shown (s.world.clock + seconds)
          log } := by
  unfold SeenWindow.write
  rw [Attempt.run_catching, Attempt.on_bind, Ask.cacheSet, Attempt.on_call,
    answer_of_passing schedule passing, ttl, World.answer_cacheSet memory (window.requireHashable_key viewer)]
  exact ⟨_, rfl⟩

/-- A window that cannot be written is left as it is. -/
theorem run_write_of_failing {failure : Failure} (new : Nat)
    (failing : schedule s.total (.cacheSet (window.key viewer) shown window.ttl) =
      some failure) :
    ∃ log, ((window.write viewer shown new).run (backend schedule) s).2 =
      s.made (.cacheSet (window.key viewer) shown window.ttl) true
        { s.world with log } := by
  unfold SeenWindow.write
  rw [Attempt.run_catching, Attempt.on_bind, Ask.cacheSet, Attempt.on_call,
    answer_of_failing schedule failing]
  exact ⟨_, rfl⟩

end Calls

theorem run_seenIds (engine : Engine) (viewer : String)
    (memory : s.world.wiring.cacheOnServer = false) :
    ∃ seen t failed,
      (engine.window.seenIds (.str viewer)).run (backend schedule) s = (seen, t) ∧
        Read engine viewer s seen t failed := by
  cases hf : schedule s.total (.cacheGet (engine.window.key (.str viewer))) with
  | some failure =>
    unfold SeenWindow.seenIds
    rw [Attempt.run_catching, Attempt.on_map, Ask.cacheGet, Attempt.on_call,
      answer_of_failing schedule hf]
    refine ⟨_, _, true, rfl, ⟨rfl, rfl, rfl, rfl, ?_⟩⟩
    intro passed
    cases passed
  | none =>
    exact ⟨_, _, false, run_seenIds_of_passing schedule memory hf,
      ⟨rfl, rfl, rfl, rfl, fun _ => rfl⟩⟩

theorem run_write (engine : Engine) (viewer : String) (shown : Json) (new : Nat)
    (memory : s.world.wiring.cacheOnServer = false) :
    ∃ failed, Wrote engine viewer s shown
      ((engine.window.write (.str viewer) shown new).run (backend schedule) s).2 failed := by
  cases hf : schedule s.total
    (.cacheSet (engine.window.key (.str viewer)) shown engine.window.ttl) with
  | some failure =>
    obtain ⟨log, left⟩ := run_write_of_failing schedule new hf
    rw [left]
    exact ⟨true, ⟨rfl, rfl, rfl, rfl⟩⟩
  | none =>
    obtain ⟨log, left⟩ := run_write_of_passing schedule memory engine.ttl_window new hf
    rw [left]
    exact ⟨false, ⟨rfl, rfl, rfl, rfl⟩⟩

theorem Read.of_entry {seen : List UserId} {failed : Bool} {entry : CacheEntry}
    (h : Read engine viewer s seen t failed)
    (there : t.world.cache.entry? (engine.key viewer) = some entry) :
    s.world.cache.entry? (engine.key viewer) = some entry := by
  rw [h.cache] at there
  cases failed with
  | true => exact there
  | false => exact Cache.entry?_of_touch there

/-- Reading drops no live entry. -/
theorem Read.entry {seen : List UserId} {failed : Bool} {entry : CacheEntry}
    (h : Read engine viewer s seen t failed)
    (there : s.world.cache.entry? (engine.key viewer) = some entry)
    (alive : s.world.clock < entry.expiresAt) :
    t.world.cache.entry? (engine.key viewer) = some entry := by
  rw [h.cache]
  cases failed with
  | true => exact there
  | false =>
    show Cache.entry? (s.world.cache.touch _ _) _ = _
    rw [Cache.touch_eq_self there alive]
    exact there

/-! ## Whole requests -/

/-- None of the last calls was about what a viewer has been shown. -/
def Clean (engine : Engine) (viewer : String) (s : Flaky) : Prop :=
  ∀ m ∈ s.calls, engine.Avoids viewer m.call

/-- No write went through. A live entry is as it was; one that had expired may be gone. -/
structure Unwritten (engine : Engine) (viewer : String) (s t : Flaky) : Prop where
  of_entry : ∀ entry, t.world.cache.entry? (engine.key viewer) = some entry →
    s.world.cache.entry? (engine.key viewer) = some entry
  entry : ∀ entry, s.world.cache.entry? (engine.key viewer) = some entry →
    s.world.clock < entry.expiresAt → t.world.cache.entry? (engine.key viewer) = some entry
  none_written : ∀ shown ttl, ⟨.cacheSet (engine.key viewer) shown ttl, false⟩ ∉ t.calls

/-- One write went through. What it wrote holds all that was remembered, unless the read before it
was made to fail. -/
structure Written (engine : Engine) (viewer : String) (s : Flaky) (shown : Json) (t : Flaky) :
    Prop where
  entry : t.world.cache.entry? (engine.key viewer) =
    some ⟨shown, s.world.clock + engine.seconds⟩
  written : ⟨.cacheSet (engine.key viewer) shown engine.window.ttl, false⟩ ∈ t.calls
  only : ∀ other ttl, ⟨.cacheSet (engine.key viewer) other ttl, false⟩ ∈ t.calls → other = shown
  keeps : ⟨.cacheGet (engine.key viewer), true⟩ ∈ t.calls ∨
    ∀ x ∈ s.world.seen engine viewer, x ∈ SeenWindow.idsOf (.plain shown)

/-- What a request does to the ids shown to its viewer. -/
structure Requested (engine : Engine) (viewer : String) (s t : Flaky) : Prop where
  clock : t.world.clock = s.world.clock
  wiring : t.world.wiring = s.world.wiring
  outcome : Unwritten engine viewer s t ∨ ∃ shown, Written engine viewer s shown t

theorem not_avoids_get : ¬ engine.Avoids viewer (.cacheGet (engine.key viewer)) :=
  fun h => h rfl

theorem not_avoids_set {shown ttl : Json} :
    ¬ engine.Avoids viewer (.cacheSet (engine.key viewer) shown ttl) := fun h => h rfl

/-- Nothing that concerns the ids is a request that did not get to them. -/
theorem Requested.of_same (clean : s.Clean engine viewer) (h : Same engine viewer s t) :
    Requested engine viewer s t where
  clock := h.clock
  wiring := h.wiring
  outcome := by
    refine .inl ⟨fun entry there => h.entry ▸ there, fun entry there _ => h.entry.trans there, ?_⟩
    intro shown ttl there
    exact not_avoids_set (clean _ ((h.calls _ not_avoids_set).1 there))

theorem Requested.after_same (first : Same engine viewer s t)
    (rest : Requested engine viewer t u) : Requested engine viewer s u where
  clock := rest.clock.trans first.clock
  wiring := rest.wiring.trans first.wiring
  outcome := by
    rcases rest.outcome with un | ⟨shown, wr⟩
    · refine .inl ⟨?_, ?_, un.none_written⟩
      · intro entry there
        exact first.entry.symm.trans (un.of_entry entry there)
      · intro entry there alive
        exact un.entry entry (first.entry.trans there) (first.clock ▸ alive)
    · refine .inr ⟨shown, ?_, wr.written, wr.only, ?_⟩
      · rw [wr.entry, first.clock]
      · rw [← World.seen_congr first.clock first.entry]
        exact wr.keeps

theorem Requested.before_same (first : Requested engine viewer s t)
    (rest : Same engine viewer t u) : Requested engine viewer s u where
  clock := rest.clock.trans first.clock
  wiring := rest.wiring.trans first.wiring
  outcome := by
    have same_sets {shown ttl : Json} := rest.calls
      ⟨.cacheSet (engine.key viewer) shown ttl, false⟩ not_avoids_set
    rcases first.outcome with un | ⟨shown, wr⟩
    · refine .inl ⟨?_, ?_, ?_⟩
      · intro entry there
        exact un.of_entry entry (rest.entry.symm.trans there)
      · intro entry there alive
        exact rest.entry.trans (un.entry entry there alive)
      · intro shown ttl there
        exact un.none_written shown ttl (same_sets.1 there)
    · refine .inr ⟨shown, rest.entry.trans wr.entry, same_sets.2 wr.written, ?_, ?_⟩
      · exact fun other ttl there => wr.only other ttl (same_sets.1 there)
      · exact wr.keeps.imp_left (rest.calls _ not_avoids_get).2

theorem mem_append_made {calls : List Made} {made m : Made} (h : m ∈ calls ++ [made]) :
    m ∈ calls ∨ m = made := by
  simpa using h

/-- One filtering of candidates, with the read and the write failing or not. -/
theorem requested_of_filters (clean : s.Clean engine viewer)
    (memory : s.world.wiring.cacheOnServer = false)
    (h : engine.Filters (backend schedule) viewer s t) : Requested engine viewer s t := by
  obtain ⟨candidates, rfl⟩ := h
  obtain ⟨seen, r, readFailed, hr, read⟩ := run_seenIds schedule engine viewer memory
  have unread {shown ttl : Json} :
      (⟨.cacheSet (engine.key viewer) shown ttl, false⟩ : Made) ∉ r.calls := by
    intro there
    rw [read.calls] at there
    rcases mem_append_made there with old | new
    · exact not_avoids_set (clean _ old)
    · cases new
  rcases engine.window.filterUnseen_cases (backend schedule) (.str viewer) candidates hr with
    final | ⟨ids, shown, new, merged, final⟩
  · rw [final]
    refine ⟨read.clock, read.wiring, .inl ⟨fun entry => read.of_entry, fun entry => read.entry, ?_⟩⟩
    exact fun shown ttl => unread
  · rw [final]
    obtain ⟨writeFailed, wrote⟩ :=
      run_write schedule engine viewer shown new (read.wiring ▸ memory)
    generalize ((engine.window.write (.str viewer) shown new).run (backend schedule) r).2 = f
      at wrote ⊢
    refine ⟨wrote.clock.trans read.clock, wrote.wiring.trans read.wiring, ?_⟩
    -- A failed write leaves things as the read did; a failed read matters only without it.
    cases writeFailed with
    | true =>
      refine .inl ⟨?_, ?_, ?_⟩
      · intro entry there
        exact read.of_entry (by rw [← there, wrote.cache]; rfl)
      · intro entry there alive
        rw [wrote.cache]
        exact read.entry there alive
      · intro other ttl there
        rw [wrote.calls] at there
        rcases mem_append_made there with old | new
        · exact unread old
        · cases new
    | false =>
      refine .inr ⟨shown, ?_, ?_, ?_, ?_⟩
      · rw [wrote.cache, ← read.clock]
        exact Cache.entry?_set_self
      · rw [wrote.calls]
        exact List.mem_append_right _ (List.mem_singleton.2 rfl)
      · intro other ttl there
        rw [wrote.calls] at there
        rcases mem_append_made there with old | new
        · exact absurd old unread
        · cases new
          rfl
      · cases readFailed with
        | true =>
          left
          rw [wrote.calls, read.calls]
          exact List.mem_append_left _ (List.mem_append_right _ (List.mem_singleton.2 rfl))
        | false =>
          right
          intro x hx
          rw [← read.ids rfl] at hx
          have text : x.asText = x := by
            rw [read.ids rfl] at hx
            exact SeenWindow.asText_of_mem_idsOf hx
          exact SeenWindow.mem_idsOf_merged merged text hx

/-- **A request of one viewer for one kind of suggestions**, on stores that fail as they like. -/
theorem requested_of_request (engine : Engine) (viewer : String) (page limit : Int) (s : Flaky)
    (memory : s.world.wiring.cacheOnServer = false) :
    Requested engine viewer { s with calls := [] }
      (s.perform schedule (engine.request viewer page limit)).2 := by
  have clean : Clean engine viewer { s with calls := [] } := fun m hm => by cases hm
  have moves := engine.request_moves viewer page limit (keeps_same schedule engine viewer)
    { s with calls := [] }
  cases moves with
  | quiet all => exact .of_same clean all
  | @once u v before middle after =>
    have clean_u : Clean engine viewer u := by
      intro m hm touches
      have old := (before.calls m fun avoids => avoids touches).1 hm
      cases old
    have filtered := requested_of_filters schedule clean_u (before.wiring ▸ memory) middle
    exact (filtered.before_same after).after_same before

end Flaky
end FollowGraph
