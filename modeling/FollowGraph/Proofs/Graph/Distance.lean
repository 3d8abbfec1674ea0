import FollowGraph.Proofs.Graph.Texts

/-!
# How far users are from a viewer

A user is at some distance from a viewer when a walk of that many following edges leads there and no
shorter one does. The second-degree users are those at distance two. The third-degree users are
those at distance three and some of those at distance two: a walk of three edges is asked only that
its last edge is no self edge, so it may end with someone to whom two edges lead already
(`Graph.mem_thirdDegreeIds_iff`). The two lists have those users in common
(`Graph.tiers_meet_iff`).

Nothing of that depends on what else the graph holds. That the ends of edges are stored is asked
only where users are read.
-/

set_option autoImplicit false

namespace FollowGraph.Graph

variable {g : Graph} {viewer : UserId}

/-! ## Walks -/

/-- Walks from a viewer along following edges, by their length. -/
inductive Walk (g : Graph) (viewer : UserId) : Nat → UserId → Prop where
  | here : Walk g viewer 0 viewer
  | step {n : Nat} {a b : UserId} (walk : Walk g viewer n a)
      (edge : ⟨a, b, .following⟩ ∈ g.edges) : Walk g viewer (n + 1) b

structure AtDistance (g : Graph) (viewer : UserId) (n : Nat) (x : UserId) : Prop where
  walk : g.Walk viewer n x
  shortest : ∀ m < n, ¬ g.Walk viewer m x

theorem mem_followed_iff {a b : UserId} : b ∈ g.followed a ↔ ⟨a, b, .following⟩ ∈ g.edges := by
  unfold followed targets
  constructor
  · intro there
    obtain ⟨⟨source, target, kind⟩, stored, rfl⟩ := List.mem_map.1 there
    simp only [List.mem_filter, Bool.and_eq_true, beq_iff_eq] at stored
    obtain ⟨stored, rfl, rfl⟩ := stored
    exact stored
  · intro stored
    exact List.mem_map.2 ⟨_, List.mem_filter.2 ⟨stored, by simp⟩, rfl⟩

theorem walk_zero_iff {x : UserId} : g.Walk viewer 0 x ↔ x = viewer := by
  constructor
  · rintro ⟨⟩
    rfl
  · rintro rfl
    exact .here

theorem walk_succ_iff {n : Nat} {c : UserId} :
    g.Walk viewer (n + 1) c ↔ ∃ b, g.Walk viewer n b ∧ c ∈ g.followed b := by
  simp only [mem_followed_iff]
  constructor
  · rintro (_ | ⟨walk, edge⟩)
    exact ⟨_, walk, edge⟩
  · rintro ⟨b, walk, edge⟩
    exact .step walk edge

theorem walk_one_iff {a : UserId} : g.Walk viewer 1 a ↔ a ∈ g.followed viewer := by
  rw [walk_succ_iff]
  simp only [walk_zero_iff, exists_eq_left]

theorem walk_two_iff {b : UserId} :
    g.Walk viewer 2 b ↔ ∃ a ∈ g.followed viewer, b ∈ g.followed a := by
  rw [walk_succ_iff]
  simp only [walk_one_iff]

/-- To be new to a viewer is to be further away than one edge. -/
theorem isNew_iff {x : UserId} : g.isNew viewer x = true ↔ ∀ m < 2, ¬ g.Walk viewer m x := by
  have within : (∀ m < 2, ¬ g.Walk viewer m x) ↔ ¬ g.Walk viewer 0 x ∧ ¬ g.Walk viewer 1 x := by
    constructor
    · exact fun far => ⟨far 0 (by decide), far 1 (by decide)⟩
    · rintro ⟨other, unfollowed⟩ m near
      obtain rfl | rfl : m = 0 ∨ m = 1 := by omega
      · exact other
      · exact unfollowed
  rw [within, walk_zero_iff, walk_one_iff]
  simp [isNew]

/-! ## The tiers -/

theorem mem_secondDegreeIds_iff {x : UserId} :
    x ∈ g.secondDegreeIds viewer ↔ g.AtDistance viewer 2 x := by
  simp only [secondDegreeIds, mem_distinct, List.mem_flatMap, List.mem_filter, isNew_iff]
  constructor
  · rintro ⟨a, followed, edge, far⟩
    exact ⟨walk_two_iff.2 ⟨a, followed, edge⟩, far⟩
  · rintro ⟨walk, far⟩
    obtain ⟨a, followed, edge⟩ := walk_two_iff.1 walk
    exact ⟨a, followed, edge, far⟩

/-- The last edge of some walk of three edges leads to a user, and from another one. -/
def Reentered (g : Graph) (viewer c : UserId) : Prop :=
  ∃ b, g.Walk viewer 2 b ∧ b ≠ c ∧ ⟨b, c, .following⟩ ∈ g.edges

theorem mem_thirdDegreeIds_iff {c : UserId} :
    c ∈ g.thirdDegreeIds viewer ↔
      (∀ m < 2, ¬ g.Walk viewer m c) ∧ g.Reentered viewer c := by
  simp only [thirdDegreeIds, mem_distinct, List.mem_flatMap, List.mem_filter, Bool.and_eq_true,
    isNew_iff, bne_iff_ne, ne_eq, Reentered, ← mem_followed_iff, walk_two_iff]
  constructor
  · rintro ⟨a, first, b, second, third, moves, far⟩
    exact ⟨far, b, ⟨a, first, second⟩, fun same => moves same.symm, third⟩
  · rintro ⟨far, b, ⟨a, first, second⟩, moves, third⟩
    exact ⟨a, first, b, second, third, fun same => moves same.symm, far⟩

theorem AtDistance.reentered {c : UserId} (h : g.AtDistance viewer 3 c) :
    g.Reentered viewer c := by
  obtain ⟨b, walk, edge⟩ := walk_succ_iff.1 h.walk
  refine ⟨b, walk, ?_, mem_followed_iff.1 edge⟩
  rintro rfl
  exact h.shortest 2 (by decide) walk

theorem Reentered.walk {c : UserId} (h : g.Reentered viewer c) : g.Walk viewer 3 c := by
  obtain ⟨b, walk, -, edge⟩ := h
  exact .step walk edge

/-- Third-degree users are at distance three, or at distance two and entered once more. -/
theorem mem_thirdDegreeIds_iff_atDistance {c : UserId} :
    c ∈ g.thirdDegreeIds viewer ↔
      g.AtDistance viewer 3 c ∨ g.AtDistance viewer 2 c ∧ g.Reentered viewer c := by
  rw [mem_thirdDegreeIds_iff]
  constructor
  · rintro ⟨far, entered⟩
    by_cases near : g.Walk viewer 2 c
    · exact .inr ⟨⟨near, far⟩, entered⟩
    · refine .inl ⟨entered.walk, fun m less walk => ?_⟩
      obtain small | rfl : m < 2 ∨ m = 2 := by omega
      · exact far m small walk
      · exact near walk
  · rintro (at_three | ⟨at_two, entered⟩)
    · exact ⟨fun m less => at_three.shortest m (by omega), at_three.reentered⟩
    · exact ⟨at_two.shortest, entered⟩

/-- Without users at distance two there is no way to anybody further away. -/
theorem thirdDegreeIds_eq_nil (h : g.secondDegreeIds viewer = []) :
    g.thirdDegreeIds viewer = [] := by
  have nobody (x : UserId) : ¬ g.AtDistance viewer 2 x := by
    rw [← mem_secondDegreeIds_iff, h]
    exact List.not_mem_nil
  refine List.eq_nil_iff_forall_not_mem.2 fun c there => ?_
  rcases mem_thirdDegreeIds_iff_atDistance.1 there with at_three | ⟨at_two, -⟩
  · obtain ⟨b, walk, edge⟩ := walk_succ_iff.1 at_three.walk
    -- A shorter way to the last user but one is a shorter way to the last.
    refine nobody b ⟨walk, fun m less shorter => ?_⟩
    exact at_three.shortest (m + 1) (by omega) (walk_succ_iff.2 ⟨b, shorter, edge⟩)
  · exact nobody c at_two

/-- The ends of walks of two edges as they are met: the viewer's followed users in order, and for
each of them those whom it follows. -/
def met (g : Graph) (viewer : UserId) : List UserId := (g.followed viewer).flatMap g.followed

/-- Second-degree users are listed in the order in which they are first met. -/
theorem secondDegreeIds_inOrder (g : Graph) (viewer : UserId) :
    (g.secondDegreeIds viewer).Pairwise fun x y =>
      (g.met viewer).idxOf x < (g.met viewer).idxOf y := by
  have kept : g.secondDegreeIds viewer = distinct ((g.met viewer).filter (g.isNew viewer)) := by
    rw [secondDegreeIds, met, List.filter_flatMap]
  rw [kept]
  exact pairwise_idxOf_distinct_filter _ _

/-! ## What the graph answers -/

/-- A call is answered with some users, all of them and in order, and changes nothing. -/
def AnswersWith (g : Graph) (call : GraphCall) (ids : List UserId) : Prop :=
  ∃ nodes, g.answer call = (.ok (.users nodes), g) ∧ nodes.map some = ids.map g.findNode

theorem answersWith_page {call : GraphCall} {ids : List UserId} {page limit : Int}
    (stored : g.Stores ids)
    (asked : g.answer call = g.listing (g.nodePage ids (.int page) (.int limit))) :
    g.AnswersWith call (pageOf ids page limit) := by
  have listed : g.Stores (pageOf ids page limit) := stored.subset fun _ => mem_of_mem_slice
  refine ⟨(pageOf ids page limit).filterMap g.findNode, ?_, listed.map_findNode⟩
  rw [asked, stored.nodePage]
  rfl

/-- **The traversals measure distances.** The second-degree users are those at distance two, once
each and in the order in which they are first met, and they are counted as many as they are. The
third-degree users, once each, are those at distance three and those at distance two whom a walk of
three edges enters from somebody else; where nobody is at distance two there is nobody. A page of
either tier is the slice that its bounds say, whatever integers they are. -/
theorem traversals_by_distance (stored : ∀ e ∈ g.edges, g.hasUser e.target = true)
    (viewer : UserId) :
    let second := g.secondDegreeIds viewer
    let third := g.thirdDegreeIds viewer
    (∀ x, x ∈ second ↔ g.AtDistance viewer 2 x) ∧ second.Nodup ∧
    second.Pairwise (fun x y => (g.met viewer).idxOf x < (g.met viewer).idxOf y) ∧
    g.answer (.secondDegreeCount viewer) = (.ok (.int second.length), g) ∧
    (∀ c, c ∈ third ↔ g.AtDistance viewer 3 c ∨ g.AtDistance viewer 2 c ∧
      ∃ b, g.Walk viewer 2 b ∧ b ≠ c ∧ ⟨b, c, .following⟩ ∈ g.edges) ∧ third.Nodup ∧
    (second.length = 0 → third = []) ∧
    ∀ page limit : Int,
      g.AnswersWith (.secondDegree viewer (.int page) (.int limit)) (pageOf second page limit) ∧
      g.AnswersWith (.thirdDegree viewer (.int page) (.int limit)) (pageOf third page limit) := by
  intro second third
  refine ⟨fun x => mem_secondDegreeIds_iff, nodup_distinct _, g.secondDegreeIds_inOrder viewer, rfl,
    fun c => mem_thirdDegreeIds_iff_atDistance, nodup_distinct _,
    fun none_there => thirdDegreeIds_eq_nil (List.length_eq_zero_iff.1 none_there),
    fun page limit => ⟨?_, ?_⟩⟩
  · exact answersWith_page (stores_secondDegreeIds stored viewer) rfl
  · exact answersWith_page (stores_thirdDegreeIds stored viewer) rfl

/-- A viewer who follows itself among others, a way back to it, and two second-degree users of whom
one follows the other, itself and somebody new. -/
def circular : Graph :=
  ofFollows ["ann", "bob", "cid", "dee", "eve"]
    [("ann", "bob"), ("ann", "ann"), ("bob", "ann"), ("bob", "dee"), ("bob", "cid"),
      ("cid", "cid"), ("cid", "dee"), ("cid", "eve")]

/-- Both users at distance two are in the third tier too, one since the other follows it, the other
since a walk can begin with the viewer's own edge. -/
theorem traversals_by_distance_circular :
    (∀ x, circular.AtDistance (.str "ann") 2 x ↔ x = .str "dee" ∨ x = .str "cid") ∧
    (∀ x, circular.AtDistance (.str "ann") 3 x ↔ x = .str "eve") ∧
    circular.AnswersWith (.thirdDegree (.str "ann") (.int 0) (.int 5))
      [.str "dee", .str "eve", .str "cid"] := by
  have wf : circular.WellFormed := wellFormed_ofFollows _ _
  have second : circular.secondDegreeIds (.str "ann") = [.str "dee", .str "cid"] := by
    decide +kernel
  have third : circular.thirdDegreeIds (.str "ann") = [.str "dee", .str "eve", .str "cid"] := by
    decide +kernel
  obtain ⟨two, -, -, -, three, -, -, pages⟩ :=
    traversals_by_distance wf.target_stored (.str "ann")
  have at_two (x : UserId) : circular.AtDistance (.str "ann") 2 x ↔
      x = .str "dee" ∨ x = .str "cid" := by
    rw [← two, second]
    simp
  refine ⟨at_two, fun x => ⟨fun far => ?_, ?_⟩, ?_⟩
  · have listed := (three x).2 (.inl far)
    have not_two : ¬ circular.AtDistance (.str "ann") 2 x :=
      fun near => far.shortest 2 (by decide) near.walk
    rw [at_two] at not_two
    rw [third] at listed
    simp only [List.mem_cons, List.not_mem_nil, or_false] at listed
    rcases listed with dee | eve | cid
    · exact absurd (.inl dee) not_two
    · exact eve
    · exact absurd (.inr cid) not_two
  · rintro rfl
    refine ((three (.str "eve")).1 (by rw [third]; decide)).resolve_right fun near => ?_
    exact absurd ((at_two _).1 near.1) (by decide)
  · have listed := (pages 0 5).2
    rw [third] at listed
    exact listed

/-! ## What the tiers have in common -/

/-- **Where the tiers meet.** Whoever is returned from the third tier is neither the viewer nor
followed by it, and is followed by somebody else to whom a walk of two edges leads. That keeps
nobody at distance two out: such a user is in both tiers just when somebody else like that follows
it. So the tiers have nobody in common just when among the ends of walks of two edges nobody follows
another who is at distance two. -/
theorem tiers_meet_iff (stored : ∀ e ∈ g.edges, g.hasUser e.target = true) (viewer : UserId) :
    let second := g.secondDegreeIds viewer
    let third := g.thirdDegreeIds viewer
    (∀ page limit : Int, ∃ nodes,
      g.answer (.thirdDegree viewer (.int page) (.int limit)) = (.ok (.users nodes), g) ∧
      ∀ node ∈ nodes, ∃ c ∈ third, g.findNode c = some node) ∧
    (∀ c ∈ third, c ≠ viewer ∧ c ∉ g.followed viewer ∧
      ∃ b, g.Walk viewer 2 b ∧ b ≠ c ∧ ⟨b, c, .following⟩ ∈ g.edges) ∧
    (∀ c, c ∈ second ∧ c ∈ third ↔ g.AtDistance viewer 2 c ∧
      ∃ b, g.Walk viewer 2 b ∧ b ≠ c ∧ ⟨b, c, .following⟩ ∈ g.edges) ∧
    ((∀ c ∈ third, c ∉ second) ↔
      ∀ b c, g.Walk viewer 2 b → g.AtDistance viewer 2 c → ⟨b, c, .following⟩ ∈ g.edges →
        b = c) := by
  intro second third
  have common (c : UserId) :
      c ∈ second ∧ c ∈ third ↔ g.AtDistance viewer 2 c ∧ g.Reentered viewer c := by
    rw [mem_secondDegreeIds_iff, mem_thirdDegreeIds_iff]
    exact ⟨fun ⟨near, _, entered⟩ => ⟨near, entered⟩,
      fun ⟨near, entered⟩ => ⟨near, near.shortest, entered⟩⟩
  refine ⟨fun page limit => ?returned, fun c there => ?outside, common, ?disjoint⟩
  case returned =>
    have asked : g.AnswersWith (.thirdDegree viewer (.int page) (.int limit))
        (pageOf third page limit) := answersWith_page (stores_thirdDegreeIds stored viewer) rfl
    obtain ⟨nodes, answered, listed⟩ := asked
    refine ⟨nodes, answered, fun node there => ?_⟩
    have found : some node ∈ (pageOf third page limit).map g.findNode :=
      listed ▸ List.mem_map_of_mem there
    obtain ⟨c, on_page, found⟩ := List.mem_map.1 found
    exact ⟨c, mem_of_mem_slice on_page, found⟩
  case outside =>
    obtain ⟨far, entered⟩ := mem_thirdDegreeIds_iff.1 there
    exact ⟨fun same => far 0 (by decide) (walk_zero_iff.2 same),
      fun followed => far 1 (by decide) (walk_one_iff.2 followed), entered⟩
  case disjoint =>
    constructor
    · intro apart b c walk near edge
      refine Decidable.byContradiction fun other => ?_
      obtain ⟨in_second, in_third⟩ := (common c).2 ⟨near, b, walk, other, edge⟩
      exact apart c in_third in_second
    · intro alone c in_third in_second
      obtain ⟨near, b, walk, other, edge⟩ := (common c).1 ⟨in_second, in_third⟩
      exact other (alone b c walk near edge)

/-- Of two users whom a followed user follows, one follows the other. -/
def acquaintedPair : Graph :=
  ofFollows ["ann", "bob", "cid", "dee"]
    [("ann", "bob"), ("bob", "cid"), ("bob", "dee"), ("cid", "dee")]

/-- It is in both tiers, and nobody else is in the third. -/
theorem tiers_meet_iff_acquaintedPair :
    (∀ c, acquaintedPair.AtDistance (.str "ann") 2 c ∧
      (∃ b, acquaintedPair.Walk (.str "ann") 2 b ∧ b ≠ c ∧
        ⟨b, c, .following⟩ ∈ acquaintedPair.edges) ↔ c = .str "dee") ∧
    ¬ ∀ b c, acquaintedPair.Walk (.str "ann") 2 b → acquaintedPair.AtDistance (.str "ann") 2 c →
      ⟨b, c, .following⟩ ∈ acquaintedPair.edges → b = c := by
  have wf : acquaintedPair.WellFormed := wellFormed_ofFollows _ _
  have second : acquaintedPair.secondDegreeIds (.str "ann") = [.str "cid", .str "dee"] := by
    decide +kernel
  have third : acquaintedPair.thirdDegreeIds (.str "ann") = [.str "dee"] := by decide +kernel
  obtain ⟨-, -, common, apart_iff⟩ := tiers_meet_iff wf.target_stored (.str "ann")
  rw [second, third] at common apart_iff
  refine ⟨fun c => (common c).symm.trans ?_, fun alone => ?_⟩
  · simp only [List.mem_cons, List.not_mem_nil, or_false, and_iff_right_iff_imp]
    exact .inr
  · exact apart_iff.2 alone (.str "dee") (by decide) (by decide)

/-- A user is returned from the third tier who is the middle user of another walk, and so a
candidate of the second. -/
theorem not_disjoint_acquaintedPair :
    ∃ dee, acquaintedPair.answer (.thirdDegree (.str "ann") (.int 0) (.int 5)) =
        (.ok (.users [dee]), acquaintedPair) ∧
      (∃ a, ⟨.str "ann", a, .following⟩ ∈ acquaintedPair.edges ∧
        ⟨a, dee.userId, .following⟩ ∈ acquaintedPair.edges) ∧
      dee.userId ≠ .str "ann" ∧
      ⟨.str "ann", dee.userId, .following⟩ ∉ acquaintedPair.edges ∧
      dee.userId ∈ acquaintedPair.secondDegreeIds (.str "ann") := by
  let dee : UserNode := ⟨.str "dee", .unknown, .int 0, .int 2, by decide⟩
  refine ⟨dee, rfl, ⟨.str "bob", ?_, ?_⟩, ?_, ?_, ?_⟩ <;> decide +kernel

end FollowGraph.Graph
