import FollowGraph.Proofs.Service.Flaky

/-!
# When a shown id is forgotten early

The ids shown to a viewer are meant to stay until their entry expires. They do as long as reads
succeed. A read that fails counts as a read of nothing, and the write after it then replaces what
was there by the new ids alone: that is the one way in which an id goes early, and
`Flaky.kept_iff` says so exactly. `Flaky.forgotten_after_failed_read` is a run in which it happens.
-/

set_option autoImplicit false

namespace FollowGraph.Flaky

variable (schedule : Schedule) {engine : Engine} {viewer : String} {x : UserId} {s t : Flaky}

/-! ## Time -/

theorem fixed_perform (s : Flaky) (op : Operation) :
    (s.perform schedule op).2.world.clock = s.world.clock ∧
      (s.perform schedule op).2.world.wiring = s.world.wiring := by
  have keeps : (backend schedule).Keeps (fun _ => True) fun s t : Flaky =>
      t.world.clock = s.world.clock ∧ t.world.wiring = s.world.wiring :=
    { refl := fun _ => ⟨rfl, rfl⟩
      trans := fun first second => ⟨second.1.trans first.1, second.2.trans first.2⟩
      answer := fun c s _ => by
        cases hf : schedule s.total c with
        | some failure =>
          rw [answer_of_failing schedule hf]
          exact ⟨rfl, rfl⟩
        | none =>
          rw [answer_of_passing schedule hf]
          exact (World.answered_answer c s.world).fixed
      record := fun _ _ => ⟨rfl, rfl⟩ }
  exact (Program.uses_any _).run_keeps keeps { s with calls := [] }

theorem clock_le_step (s : Flaky) (next : Step) :
    s.world.clock ≤ (s.step schedule next).world.clock := by
  cases next with
  | perform op => exact Int.le_of_eq (fixed_perform schedule s op).1.symm
  | wait seconds => exact Int.le_add_of_nonneg_right (Int.natCast_nonneg seconds)

theorem wiring_step (s : Flaky) (next : Step) :
    (s.step schedule next).world.wiring = s.world.wiring := by
  cases next with
  | perform op => exact (fixed_perform schedule s op).2
  | wait seconds => rfl

/-- Time does not go back along a run. -/
theorem clock_le_of_mem_moments {steps : List Step} (h : t ∈ s.moments schedule steps) :
    s.world.clock ≤ t.world.clock := by
  induction steps generalizing s with
  | nil => cases h
  | cons next rest ih =>
    have now := clock_le_step schedule s next
    rcases List.mem_cons.1 h with rfl | later
    · exact now
    · exact Int.le_trans now (ih later)

/-! ## One step -/

/-- What an operation does to the ids shown to a viewer: a request of that viewer something, any
other operation nothing. -/
theorem requested_of_perform (engine : Engine) (viewer : String) (s : Flaky) (op : Operation)
    (memory : s.world.wiring.cacheOnServer = false) :
    Requested engine viewer { s with calls := [] } (s.perform schedule op).2 := by
  rcases engine.request_or_avoids viewer op with ⟨page, limit, rfl⟩ | avoids
  · exact requested_of_request schedule engine viewer page limit s memory
  · have clean : Clean engine viewer { s with calls := [] } := fun m hm => by cases hm
    refine .of_same clean ?_
    exact (op.uses_effects.mono (Engine.avoids_of_within avoids)).moves
      (keeps_same schedule engine viewer) { s with calls := [] }

/-- Every entry expires within one window from now. -/
def Fresh (engine : Engine) (viewer : String) (s : Flaky) : Prop :=
  ∀ entry, s.world.cache.entry? (engine.key viewer) = some entry →
    entry.expiresAt ≤ s.world.clock + engine.seconds

theorem Fresh.step (h : Fresh engine viewer s) (memory : s.world.wiring.cacheOnServer = false)
    (next : Step) : Fresh engine viewer (s.step schedule next) := by
  intro entry there
  cases next with
  | wait seconds =>
    have := h entry there
    show _ ≤ s.world.clock + seconds + engine.seconds
    omega
  | perform op =>
    have requested := requested_of_perform schedule engine viewer s op memory
    show _ ≤ (s.perform schedule op).2.world.clock + engine.seconds
    rw [requested.clock]
    rcases requested.outcome with un | ⟨shown, wr⟩
    · exact h entry (un.of_entry entry there)
    · cases (wr.entry.symm.trans there)
      exact Int.le_refl _

/-- The ids of a viewer were read in vain, and then written without `x`. -/
structure Forgets (engine : Engine) (viewer : String) (x : UserId) (t : Flaky) : Prop where
  unread : ⟨.cacheGet (engine.key viewer), true⟩ ∈ t.calls
  overwritten : ∃ shown ttl, ⟨.cacheSet (engine.key viewer) shown ttl, false⟩ ∈ t.calls ∧
    x ∉ SeenWindow.idsOf (.plain shown)

/-- `x` is remembered up to some time, which lies within one window from now. -/
structure Remembers (engine : Engine) (viewer : String) (x : UserId) (time : Int) (s : Flaky) :
    Prop where
  memory : s.world.wiring.cacheOnServer = false
  soon : time ≤ s.world.clock + engine.seconds
  entry : ∃ entry, s.world.cache.entry? (engine.key viewer) = some entry ∧
    time ≤ entry.expiresAt ∧ x ∈ SeenWindow.idsOf (.plain entry.value)

variable {time : Int}

theorem Remembers.mem_seen (h : Remembers engine viewer x time s) (early : s.world.clock < time) :
    x ∈ s.world.seen engine viewer := by
  obtain ⟨entry, there, late, hx⟩ := h.entry
  rw [World.seen_of_entry there (by omega)]
  exact hx

theorem not_forgets_of_unwritten (un : Unwritten engine viewer s t) :
    ¬ Forgets engine viewer x t := by
  rintro ⟨-, shown, ttl, written, -⟩
  exact un.none_written shown ttl written

/-- After a step the id is still remembered, or it was forgotten in that step. -/
theorem Remembers.step (h : Remembers engine viewer x time s) (next : Step)
    (early : (s.step schedule next).world.clock < time) :
    (Remembers engine viewer x time (s.step schedule next) ∧
      ¬ Forgets engine viewer x (s.step schedule next)) ∨
    (x ∉ (s.step schedule next).world.seen engine viewer ∧
      Forgets engine viewer x (s.step schedule next)) := by
  have memory := (congrArg Wiring.cacheOnServer (wiring_step schedule s next)).trans h.memory
  have onward := clock_le_step schedule s next
  have soon : time ≤ (s.step schedule next).world.clock + engine.seconds := by
    have := h.soon
    omega
  obtain ⟨entry, there, late, hx⟩ := h.entry
  cases next with
  | wait seconds =>
    refine .inl ⟨⟨memory, soon, entry, there, late, hx⟩, ?_⟩
    intro forgets
    cases forgets.unread
  | perform op =>
    have requested := requested_of_perform schedule engine viewer s op h.memory
    change Requested engine viewer _ (s.step schedule (.perform op)) at requested
    have clock : (s.step schedule (.perform op)).world.clock = s.world.clock := requested.clock
    rcases requested.outcome with un | ⟨shown, wr⟩
    · have kept := un.entry entry there (by show s.world.clock < _; omega)
      exact .inl ⟨⟨memory, soon, entry, kept, late, hx⟩, not_forgets_of_unwritten un⟩
    · by_cases again : x ∈ SeenWindow.idsOf (.plain shown)
      · refine .inl ⟨⟨memory, soon, _, wr.entry, h.soon, again⟩, ?_⟩
        rintro ⟨-, other, ttl, written, missing⟩
        exact missing (wr.only other ttl written ▸ again)
      · refine .inr ⟨?_, ?_, shown, _, wr.written, again⟩
        · rw [World.seen_of_entry wr.entry (by have := h.soon; show _ < s.world.clock + _; omega)]
          exact again
        · refine wr.keeps.resolve_right fun keeps => again (keeps x ?_)
          rw [World.seen_of_entry there (by show s.world.clock < _; omega)]
          exact hx

/-! ## Runs -/

/-- Along a run the id stays just as long as no step forgets it. -/
theorem Remembers.run (h : Remembers engine viewer x time s) (steps : List Step) :
    (∀ t ∈ s.moments schedule steps, t.world.clock < time → x ∈ t.world.seen engine viewer) ↔
      ∀ t ∈ s.moments schedule steps, t.world.clock < time → ¬ Forgets engine viewer x t := by
  induction steps generalizing s with
  | nil => simp [moments]
  | cons next rest ih =>
    simp only [moments, List.forall_mem_cons]
    by_cases early : (s.step schedule next).world.clock < time
    · rcases h.step schedule next early with ⟨still, not_forgets⟩ | ⟨lost, forgets⟩
      · have here := still.mem_seen early
        exact and_congr ⟨fun _ _ => not_forgets, fun _ _ => here⟩ (ih still)
      · exact ⟨fun all => absurd (all.1 early) lost, fun all => absurd forgets (all.1 early)⟩
    · -- Time has passed, and stays passed at all later moments.
      have late {t : Flaky} (ht : t ∈ (s.step schedule next).moments schedule rest) :
          ¬ t.world.clock < time := by
        have := clock_le_of_mem_moments schedule ht
        omega
      exact ⟨fun _ => ⟨fun now => absurd now early, fun t ht now => absurd now (late ht)⟩,
        fun _ => ⟨fun now => absurd now early, fun t ht now => absurd now (late ht)⟩⟩

/-- From an empty cache on, every entry expires within one window. -/
theorem fresh_after (w : World) (memory : w.wiring.cacheOnServer = false) (steps : List Step)
    (engine : Engine) (viewer : String) :
    let s := (ofWorld { w with cache := .empty }).after schedule steps
    s.world.wiring.cacheOnServer = false ∧ Fresh engine viewer s := by
  let P (s : Flaky) : Prop := s.world.wiring.cacheOnServer = false ∧ Fresh engine viewer s
  have step (s : Flaky) (next : Step) (h : P s) : P (s.step schedule next) :=
    ⟨(congrArg Wiring.cacheOnServer (wiring_step schedule s next)).trans h.1,
      h.2.step schedule h.1 next⟩
  have begun : P (ofWorld { w with cache := .empty }) :=
    ⟨memory, fun entry there => by cases there⟩
  exact after_keeps schedule step begun steps

/-- **A shown id is kept until its entry expires, except when a failed read is followed by a
write.** Let stores begin with an empty cache in memory, and let any calls fail along any run. When
an id is in the entry of a viewer at some moment, then it is in that viewer's live entry at all
later moments before the time of that entry if and only if at none of these moments a request of
the viewer has just had its read of the ids fail and its write, without that id, succeed. -/
theorem kept_iff (w : World) (memory : w.wiring.cacheOnServer = false) (before later : List Step)
    (engine : Engine) (viewer : String) (x : UserId) (entry : CacheEntry) :
    let s := (ofWorld { w with cache := .empty }).after schedule before
    s.world.cache.entry? (engine.key viewer) = some entry →
    x ∈ SeenWindow.idsOf (.plain entry.value) →
    ((∀ t ∈ s.moments schedule later, t.world.clock < entry.expiresAt →
        x ∈ t.world.seen engine viewer) ↔
      ∀ t ∈ s.moments schedule later, t.world.clock < entry.expiresAt →
        ¬ Forgets engine viewer x t) := by
  intro s there shown
  obtain ⟨memory, fresh⟩ := fresh_after schedule w memory before engine viewer
  have remembers : Remembers engine viewer x entry.expiresAt s :=
    ⟨memory, fresh entry there, entry, there, Int.le_refl _, shown⟩
  exact remembers.run schedule later

/-- A viewer follows one user, who follows two others. -/
def suggestible : World :=
  { World.empty with
    graph := Graph.empty.after
      [.upsertUserNode ⟨.str "viewer", .unknown, .int 0, .int 0, rfl⟩,
       .upsertUserNode ⟨.str "hub", .unknown, .int 0, .int 0, rfl⟩,
       .upsertUserNode ⟨.str "c1", .unknown, .int 0, .int 0, rfl⟩,
       .upsertUserNode ⟨.str "c2", .unknown, .int 0, .int 0, rfl⟩,
       .createEdge (.str "viewer") (.str "hub") .following,
       .createEdge (.str "hub") (.str "c1") .following,
       .createEdge (.str "hub") (.str "c2") .following] }

/-- The cache cannot be read any more once ten calls were made. -/
def cacheDown : Schedule := fun total c =>
  match c with
  | .cacheGet _ => if total < 10 then none else some (.external "ConnectionError" "cache down")
  | _ => none

/-- Two pages of one suggestion each. -/
def firstPage : List Step := [.perform (.getSuggestions "viewer" 0 1)]

def secondPage : List Step := [.perform (.getSuggestions "viewer" 1 1)]

def healthy : Schedule := fun _ _ => none

/-- On a healthy cache the user of the first page is still remembered after the second; on one that
cannot be read then, not. -/
theorem kept_iff_suggestible :
    (∀ t ∈ ((ofWorld suggestible).after healthy firstPage).moments healthy secondPage,
      t.world.clock < 300 → .str "c1" ∈ t.world.seen .friends "viewer") ∧
    ¬ ∀ t ∈ ((ofWorld suggestible).after cacheDown firstPage).moments cacheDown secondPage,
      t.world.clock < 300 → .str "c1" ∈ t.world.seen .friends "viewer" := by
  have read := kept_iff healthy suggestible rfl firstPage secondPage .friends "viewer" (.str "c1")
    ⟨.arr [.str "c1"], 300⟩ (by decide +kernel) (by decide +kernel)
  have unread := kept_iff cacheDown suggestible rfl firstPage secondPage .friends "viewer"
    (.str "c1") ⟨.arr [.str "c1"], 300⟩ (by decide +kernel) (by decide +kernel)
  refine ⟨read.2 ?_, ?_⟩
  · intro t ht _ forgets
    rw [List.mem_singleton.1 ht] at forgets
    exact absurd forgets.unread (by decide +kernel)
  · intro kept
    refine unread.1 kept _ (List.mem_singleton.2 rfl) (by decide +kernel) ⟨by decide +kernel, ?_⟩
    exact ⟨.arr [.str "c2"], .int 300, by decide +kernel, by decide +kernel⟩

/-- **The second page forgets the first** when the ids cannot be read for it: what was shown a
moment ago is gone, although its entry had five minutes left. -/
theorem forgotten_after_failed_read :
    let s := (ofWorld suggestible).after cacheDown firstPage
    let t := s.after cacheDown secondPage
    s.world.cache.entry? (Engine.friends.key "viewer") = some ⟨.arr [.str "c1"], 300⟩ ∧
    t.world.clock < 300 ∧
    t.world.seen .friends "viewer" = [.str "c2"] := by
  decide +kernel

end FollowGraph.Flaky
