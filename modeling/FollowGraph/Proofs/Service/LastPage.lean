import FollowGraph.Proofs.Service.Paging

/-!
# Whether paging through suggestions comes to an end

A page says that it is the last when it asks for fewer users than the limit. Second-degree pages are
full but for the last of them, and that one is full as well when the limit divides the number of
second-degree users. From then on every page asks for one and the same slice of the third tier. So
a last page is met on the page after the full second-degree ones or never: if neither that page nor
the slice falls short of the limit, no page ever does (`World.meets_lastPage_iff`).

What a page says of itself is a matter of the graph alone. It does not depend on where, or whether,
the ids shown are kept, so nothing is asked here of the cache.
-/

set_option autoImplicit false

namespace FollowGraph

-- Powers of integers are the core library's, whatever other powers are in scope.
attribute [local instance (2000)] instPowNat

/-- The response is a page that says of itself that it is the last. -/
def Response.IsLastPage (r : Response) : Prop :=
  r.pageMeta.map PageMeta.isLastPage = some (.bool true)

namespace Graph

variable {g : Graph} {viewer : String} {limit start : Nat}

/-! ## Pages that are not full -/

theorem tierPageFrom_short_iff (pos : 0 < limit) (page : Nat) :
    (g.tierPageFrom viewer limit start page).length < limit ↔
      if page < start then (g.secondDegreeIds (.str viewer)).length < (page + 1) * limit
      else (g.thirdDegreeIds (.str viewer)).length < (start + 1) * limit := by
  unfold tierPageFrom
  rw [Nat.succ_mul, Nat.succ_mul]
  split <;> rw [List.length_take, List.length_drop] <;> omega

/-- Some page is not full just when the second-degree pages have room left, or the one slice of the
third tier is not full. -/
theorem exists_short_iff (pos : 0 < limit) (start : Nat) :
    (∃ page, (g.tierPageFrom viewer limit start page).length < limit) ↔
      (g.secondDegreeIds (.str viewer)).length < start * limit ∨
        (g.thirdDegreeIds (.str viewer)).length < (start + 1) * limit := by
  constructor
  · rintro ⟨page, short⟩
    rw [tierPageFrom_short_iff pos] at short
    split at short
    · rename_i early
      exact .inl (Nat.lt_of_lt_of_le short (Nat.mul_le_mul_right limit early))
    · exact .inr short
  · rintro (room | short)
    · obtain ⟨last, rfl⟩ : ∃ last, start = last + 1 :=
        Nat.exists_eq_succ_of_ne_zero fun none_there => by simp [none_there] at room
      exact ⟨last, tierPageFrom_short_iff pos last |>.2 (by rwa [if_pos (Nat.lt_succ_self last)])⟩
    · exact ⟨start, tierPageFrom_short_iff pos start |>.2 (by rwa [if_neg (Nat.lt_irrefl start)])⟩

theorem lt_thirdTierStart_mul_iff (pos : 0 < limit) :
    (g.secondDegreeIds (.str viewer)).length < g.thirdTierStart viewer limit * limit ↔
      ¬ limit ∣ (g.secondDegreeIds (.str viewer)).length := by
  generalize counted : (g.secondDegreeIds (.str viewer)).length = count
  have enough : count ≤ g.thirdTierStart viewer limit * limit :=
    counted ▸ (ceilDiv_le_iff pos).1 (Nat.le_refl _)
  have least (pages : Nat) (h : count ≤ pages * limit) : g.thirdTierStart viewer limit ≤ pages :=
    (ceilDiv_le_iff pos).2 (counted ▸ h)
  constructor
  · rintro room ⟨pages, rfl⟩
    have fewest := least pages (Nat.le_of_eq (Nat.mul_comm limit pages))
    have := Nat.mul_le_mul_right limit fewest
    rw [Nat.mul_comm limit pages] at room
    omega
  · intro no_divisor
    refine Nat.lt_of_le_of_ne enough fun full => no_divisor ⟨g.thirdTierStart viewer limit, ?_⟩
    rw [full, Nat.mul_comm]

/-- Where the third tier begins right after the second-degree users. -/
theorem exists_short_tierPage_iff (pos : 0 < limit) :
    (∃ page, (g.tierPage viewer limit page).length < limit) ↔
      ¬ limit ∣ (g.secondDegreeIds (.str viewer)).length ∨
        (g.thirdDegreeIds (.str viewer)).length <
          (g.secondDegreeIds (.str viewer)).length + limit := by
  refine (exists_short_iff pos (g.thirdTierStart viewer limit)).trans ?_
  rw [Nat.succ_mul, lt_thirdTierStart_mul_iff pos]
  by_cases divides : limit ∣ (g.secondDegreeIds (.str viewer)).length
  · -- All second-degree pages are full then.
    have no_room := mt (lt_thirdTierStart_mul_iff pos).1 (Classical.not_not.2 divides)
    have enough : (g.secondDegreeIds (.str viewer)).length ≤ g.thirdTierStart viewer limit * limit :=
      (ceilDiv_le_iff pos).1 (Nat.le_refl _)
    rw [Nat.le_antisymm (Nat.not_lt.1 no_room) enough]
  · simp only [divides, not_false_eq_true, true_or]

/-- The first page that is not full, if there is one, is the one after all full pages of
second-degree users. -/
theorem short_tierPage_of_short (pos : 0 < limit) {page : Nat}
    (short : (g.tierPage viewer limit page).length < limit) :
    (g.secondDegreeIds (.str viewer)).length / limit ≤ page ∧
      (g.tierPage viewer limit ((g.secondDegreeIds (.str viewer)).length / limit)).length <
        limit := by
  have short_iff (page : Nat) :=
    @tierPageFrom_short_iff g viewer limit (g.thirdTierStart viewer limit) pos page
  change (g.tierPageFrom viewer limit (g.thirdTierStart viewer limit) page).length < limit at short
  show _ ∧ (g.tierPageFrom viewer limit (g.thirdTierStart viewer limit) _).length < limit
  rw [short_iff] at short ⊢
  have begins : (g.secondDegreeIds (.str viewer)).length / limit ≤ g.thirdTierStart viewer limit :=
    Nat.div_le_div_right (Nat.le_add_right _ _)
  have next_full : (g.secondDegreeIds (.str viewer)).length <
      ((g.secondDegreeIds (.str viewer)).length / limit + 1) * limit :=
    (Nat.div_lt_iff_lt_mul pos).1 (Nat.lt_succ_self _)
  generalize g.thirdTierStart viewer limit = start at short begins ⊢
  split at short
  · rename_i early
    have here := Nat.lt_succ_iff.1 ((Nat.div_lt_iff_lt_mul pos).2 short)
    exact ⟨here, by rwa [if_pos (Nat.lt_of_le_of_lt here early)]⟩
  · rename_i late
    refine ⟨Nat.le_trans begins (Nat.not_lt.1 late), ?_⟩
    split
    · exact next_full
    · exact short

end Graph

/-! ## What a page says of itself -/

/-- The number of pages of a size that there is, if there is one, is a natural number. -/
theorem Json.pageCount_natCast (count : Nat) {limit : Nat} (pos : 0 < limit) :
    (∃ pages : Nat, pageCount (.int count) (.int limit) = .ok pages) ∨
      ∃ failure, pageCount (.int count) (.int limit) = .error failure := by
  have some_limit : ¬ (limit : Int) = 0 := by omega
  have same_sign : (count : Int) < 0 ↔ (limit : Int) < 0 := by omega
  simp only [pageCount, index?, ceilQuotient, if_neg some_limit]
  cases Binary64.nearest (count : Int).natAbs (limit : Int).natAbs with
  | none => exact .inr ⟨_, rfl⟩
  | some found =>
    obtain ⟨significand, exponent⟩ := found
    simp only [if_pos same_sign]
    exact .inl ⟨_, rfl⟩

/-- A turn that leaves every graph as it is. -/
def Turn.Still (turn : Turn) : Prop := ∀ w : World, (w.take turn).graph = w.graph

theorem Turn.still_perform {op : Operation} (out : ∀ e ∈ op.effects, ¬ e.InGraph) :
    (Turn.perform op).Still :=
  World.run_graph op.uses_effects out

namespace World

variable {w : World} {viewer : String} {limit : Nat}

/-- The page of a request made now says of itself that it is the last. -/
def EndsAt (w : World) (viewer : String) (limit page : Nat) : Prop :=
  ∃ r, (w.perform (.getSuggestions viewer page limit)).1 = .ok r ∧ r.IsLastPage

theorem endsAt_iff (wf : w.graph.WellFormed) (pos : 0 < limit) (page : Nat) :
    w.EndsAt viewer limit page ↔
      ∃ start : Nat, Json.pageCount (.int (w.graph.secondDegreeIds (.str viewer)).length)
          (.int limit) = .ok start ∧
        (w.graph.tierPageFrom viewer limit start page).length < limit := by
  have answered := (w.perform_request_any .friends viewer page limit).1
  have response : w.EndsAt viewer limit page ↔
      (Engine.friends.answer w.graph viewer page limit (w.recalled .friends viewer)).IsLastPage := by
    constructor
    · rintro ⟨r, performed, last⟩
      cases answered.symm.trans performed
      exact last
    · exact fun last => ⟨_, answered, last⟩
  rw [response, Engine.answer]
  rcases Json.pageCount_natCast (w.graph.secondDegreeIds (.str viewer)).length pos with
    ⟨start, counted⟩ | ⟨failure, uncounted⟩
  · have stored := wf.stores_tierPageFrom viewer limit start page
    rw [wf.offer_friends_from pos counted]
    simp only [counted, Except.ok.injEq, Int.natCast_inj, exists_eq_left']
    show some (Json.bool _) = _ ↔ _
    simp only [stored.length_nodes, Option.some.injEq, Json.bool.injEq, decide_eq_true_eq,
      Int.ofNat_lt]
  · have proper : Response.ofPage? page limit = none := if_neg (by omega)
    have refused : Engine.friends.offer w.graph viewer page limit =
        .error (Response.internalError Engine.friends.failureMessage) := by
      simp only [Engine.offer, proper, Engine.candidates, uncounted]
    rw [refused]
    simp only [uncounted, reduceCtorEq, false_and, exists_false, iff_false]
    exact fun differ => by cases differ

/-! ## Pages in order -/

theorem takeAll_graph {turns : List Turn} (still : ∀ turn ∈ turns, turn.Still) (w : World) :
    (w.takeAll turns).graph = w.graph := by
  induction turns generalizing w with
  | nil => rfl
  | cons turn rest ih =>
    obtain ⟨first, others⟩ := List.forall_mem_cons.1 still
    exact (ih others (w.take turn)).trans (first w)

/-- The stores when a page is asked for, by a client that asks for all pages in order. What else
happens before each page is given by its number. -/
def beforePage (w : World) (viewer : String) (limit : Nat) (between : Nat → List Turn) :
    Nat → World
  | 0 => w.takeAll (between 0)
  | page + 1 =>
    ((w.beforePage viewer limit between page).take
      (.perform (.getSuggestions viewer page limit))).takeAll (between (page + 1))

theorem beforePage_graph {between : Nat → List Turn}
    (still : ∀ page, ∀ turn ∈ between page, turn.Still) (page : Nat) :
    (w.beforePage viewer limit between page).graph = w.graph := by
  induction page with
  | zero => exact takeAll_graph (still 0) w
  | succ page ih =>
    have reads : ∀ e ∈ (Operation.getSuggestions viewer page limit).effects, ¬ e.InGraph := by
      simp [Operation.effects, Effect.InGraph]
    have request := Turn.still_perform reads
    exact ((takeAll_graph (still (page + 1)) _).trans (request _)).trans ih

/-- **A last page is met, or the pages go on for ever, and the sizes of the two tiers decide which.**
Let a client ask for all pages of suggestions in order while the graph stays as it is, whatever else
happens. It meets a page that says it is the last just when the pages can be counted and there is
room left on the second-degree pages or on the one slice of the third tier. Where the count is exact
that is when the limit does not divide the number of second-degree users, or when the third-degree
users are fewer than these and one page more; the first such page is then the one after all full
second-degree pages. -/
theorem meets_lastPage_iff (wf : w.graph.WellFormed) (viewer : String) {limit : Nat}
    (pos : 0 < limit) (between : Nat → List Turn)
    (still : ∀ page, ∀ turn ∈ between page, turn.Still) :
    let second := (w.graph.secondDegreeIds (.str viewer)).length
    let third := (w.graph.thirdDegreeIds (.str viewer)).length
    let last (page : Nat) := (w.beforePage viewer limit between page).EndsAt viewer limit page
    ((∃ page, last page) ↔
      ∃ start : Nat, Json.pageCount (.int second) (.int limit) = .ok start ∧
        (second < start * limit ∨ third < (start + 1) * limit)) ∧
    (second ≤ 2 ^ (53 : Nat) → limit ≤ 2 ^ (53 : Nat) →
      ((∃ page, last page) ↔ ¬ limit ∣ second ∨ third < second + limit) ∧
      ∀ page, last page → second / limit ≤ page ∧ last (second / limit)) := by
  intro second third last
  have last_iff (page : Nat) : last page ↔
      ∃ start : Nat, Json.pageCount (.int second) (.int limit) = .ok start ∧
        (w.graph.tierPageFrom viewer limit start page).length < limit := by
    have same : (w.beforePage viewer limit between page).graph = w.graph :=
      beforePage_graph still page
    have ends : (w.beforePage viewer limit between page).EndsAt viewer limit page ↔ _ :=
      endsAt_iff (same.symm ▸ wf) pos page
    rwa [same] at ends
  have exists_iff : (∃ page, last page) ↔
      ∃ start : Nat, Json.pageCount (.int second) (.int limit) = .ok start ∧
        (second < start * limit ∨ third < (start + 1) * limit) := by
    simp only [last_iff]
    constructor
    · rintro ⟨page, start, counted, short⟩
      exact ⟨start, counted, (Graph.exists_short_iff pos start).1 ⟨page, short⟩⟩
    · rintro ⟨start, counted, short⟩
      obtain ⟨page, short⟩ := (Graph.exists_short_iff pos start).2 short
      exact ⟨page, start, counted, short⟩
  refine ⟨exists_iff, fun count_le limit_le => ?_⟩
  have pageable : w.graph.Pageable viewer limit := ⟨pos, limit_le, count_le⟩
  have last_exact (page : Nat) :
      last page ↔ (w.graph.tierPage viewer limit page).length < limit := by
    have counted : Json.pageCount (.int second) (.int limit) = _ := pageable.pageCount
    rw [last_iff, counted]
    simp only [Except.ok.injEq, Int.natCast_inj, exists_eq_left']
    rfl
  simp only [last_exact]
  exact ⟨Graph.exists_short_tierPage_iff pos, fun page => Graph.short_tierPage_of_short pos⟩

/-- A user follows another, who follows a third, who follows two more. -/
def endless : World :=
  { empty with
    graph := .ofFollows ["ann", "bob", "cid", "dee", "eve"]
      [("ann", "bob"), ("bob", "cid"), ("cid", "dee"), ("cid", "eve")] }

/-- With one user to a page, the one second-degree user fills a page and so does the slice of the
third tier that is shown on all others, so no page is ever the last. -/
theorem not_meets_lastPage_endless :
    endless.graph.WellFormed ∧
      ¬ ∃ page, (endless.beforePage "ann" 1 (fun _ => []) page).EndsAt "ann" 1 page := by
  have wf : endless.graph.WellFormed := Graph.wellFormed_ofFollows _ _
  refine ⟨wf, ?_⟩
  rintro ⟨page, ends⟩
  have same : (endless.beforePage "ann" 1 (fun _ => []) page).graph = endless.graph :=
    beforePage_graph (fun _ _ there => by cases there) page
  obtain ⟨start, counted, short⟩ := (endsAt_iff (same.symm ▸ wf) (by decide) page).1 ends
  rw [same] at counted short
  have begins : (1 : Int) = start := by
    have one_page : Json.pageCount
        (.int (endless.graph.secondDegreeIds (.str "ann")).length) (.int (1 : Nat)) = .ok 1 := by
      rw [show (endless.graph.secondDegreeIds (.str "ann")).length = 1 by decide +kernel]
      exact Json.pageCount_int (ceilQuotient_natCast (by decide) (by decide) (by decide))
    exact Except.ok.inj (one_page.symm.trans counted)
  have enough := (Graph.exists_short_iff (by decide) start).1 ⟨page, short⟩
  rw [show (endless.graph.secondDegreeIds (.str "ann")).length = 1 by decide +kernel,
    show (endless.graph.thirdDegreeIds (.str "ann")).length = 2 by decide +kernel] at enough
  omega

/-- Five minutes and a look at the list of followed users before the second page. -/
def distracted (page : Nat) : List Turn :=
  if page = 1 then [.wait 300, .perform (.getFollowing "ann" 0 5)] else []

/-- Two second-degree users fill two pages of one, and there is no third tier: the page after these
two is the first that is the last. -/
theorem meets_lastPage_befriended :
    (befriended.beforePage "ann" 1 distracted 2).EndsAt "ann" 1 2 ∧
      ¬ (befriended.beforePage "ann" 1 distracted 1).EndsAt "ann" 1 1 := by
  have still : ∀ page, ∀ turn ∈ distracted page, turn.Still := by
    intro page turn there
    unfold distracted at there
    split at there
    · rcases List.mem_cons.1 there with rfl | there
      · exact fun _ => rfl
      · rw [List.mem_singleton.1 there]
        exact Turn.still_perform (by simp [Operation.effects])
    · cases there
  have two : (befriended.graph.secondDegreeIds (.str "ann")).length = 2 := by decide +kernel
  have none_third : (befriended.graph.thirdDegreeIds (.str "ann")).length = 0 := by decide +kernel
  have room : 0 < 1 := by decide
  have wf : befriended.graph.WellFormed := Graph.wellFormed_ofFollows _ _
  obtain ⟨-, exactly⟩ := meets_lastPage_iff wf "ann" room distracted still
  rw [two, none_third] at exactly
  obtain ⟨meets, first⟩ := exactly (by decide) (by decide)
  obtain ⟨page, last⟩ := meets.2 (.inr (by decide))
  refine ⟨(first page last).2, fun early => ?_⟩
  have := (first 1 early).1
  omega

end World
end FollowGraph
