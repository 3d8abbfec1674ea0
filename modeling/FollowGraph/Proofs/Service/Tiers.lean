import FollowGraph.Proofs.Graph.Texts
import FollowGraph.Proofs.Number.Underflow
import FollowGraph.Proofs.Service.Run
import FollowGraph.Proofs.Store.Silent

/-!
# Which tier a page of suggestions is served from

A page of candidates comes from the second-degree users while there are any left for it, and from
then on from the third tier. Where the third tier begins is the number of pages that second-degree
users fill, and it is computed as a rounded quotient (`Graph.tierStart`); the page that follows from
a beginning is `Graph.tierFrom`. Fetching comes to these two, on any graph
(`World.on_fetchCandidates_eq`).

The documented policy knows nothing of rounding (`Graph.documentedPage`). The code follows it but
for limits so large that the quotient vanishes (`Graph.Vanishes`). The third tier is then taken to
begin at page zero, and no second-degree user is ever served (`World.fetchCandidates_exact_iff`).
-/

set_option autoImplicit false

namespace FollowGraph

open Attempt

-- Powers of integers are the core library's, whatever other powers are in scope.
attribute [local instance (2000)] instPowNat

/-- For integers the number of pages is that of the quotient. -/
theorem Json.pageCount_int {count limit pages : Int} (h : ceilQuotient count limit = .ok pages) :
    pageCount (.int count) (.int limit) = .ok pages := by
  simp only [pageCount, index?, h]

namespace Graph

variable (g : Graph) (viewer : UserId)

/-! ## What a page is fetched as -/

def tierIds : Tier → List UserId
  | .second => g.secondDegreeIds viewer
  | .third => g.thirdDegreeIds viewer

/-- A page of one tier, with the page at which the third tier is taken to begin. -/
def listTier (tier : Tier) (page limit start : Int) : Except Failure CandidatePage :=
  (g.nodePage (g.tierIds viewer tier) (.int page) (.int limit)).map fun nodes =>
    { users := .users nodes, total := nodes.length, tier, thirdDegreeStartPage := start
      isLastPage := decide ((nodes.length : Int) < limit) }

/-- The page that is fetched when the third tier is taken to begin at some page. -/
def tierFrom (page limit start : Int) : Except Failure CandidatePage :=
  if page < start then g.listTier viewer .second page limit start
  else g.listTier viewer .third start limit start

/-- The page at which the third tier is taken to begin. -/
def tierStart (limit : Int) : Except Failure Int :=
  Json.pageCount (.int (g.secondDegreeIds viewer).length) (.int limit)

/-! ## What the documentation says -/

/-- The slice of a tier that a page is. -/
def tierSlice (tier : Tier) (page limit start : Nat) : CandidatePage :=
  let ids := ((g.tierIds viewer tier).drop (page * limit)).take limit
  { users := .users (ids.filterMap g.findNode), total := ids.length, tier
    thirdDegreeStartPage := start, isLastPage := decide (ids.length < limit) }

/-- The number of pages that second-degree users fill, without rounding. -/
def exactStart (limit : Nat) : Nat := ((g.secondDegreeIds viewer).length + (limit - 1)) / limit

/-- The page as documented: one of second-degree users while there are any left for it, and the
third tier at its first page from then on. -/
def documentedPage (page limit : Nat) : CandidatePage :=
  let start := g.exactStart viewer limit
  if page * limit < (g.secondDegreeIds viewer).length then g.tierSlice viewer .second page limit start
  else g.tierSlice viewer .third start limit start

/-- There are second-degree users, but their number over the limit is rounded to zero. -/
def Vanishes (limit : Nat) : Prop :=
  0 < (g.secondDegreeIds viewer).length ∧
    (g.secondDegreeIds viewer).length * 2 ^ (1075 : Nat) ≤ limit

instance (limit : Nat) : Decidable (g.Vanishes viewer limit) :=
  inferInstanceAs (Decidable (_ ∧ _))

variable {g viewer}

/-- It takes a limit beyond every machine integer. -/
theorem not_vanishes_of_lt {limit : Nat} (small : limit < 2 ^ (1075 : Nat)) :
    ¬ g.Vanishes viewer limit := by
  rintro ⟨someone, vanishes⟩
  have least := Nat.le_mul_of_pos_left (2 ^ (1075 : Nat)) someone
  exact absurd (Nat.le_trans least vanishes) (Nat.not_le.2 small)

/-- The third tier begins after the last page with a second-degree user on it. -/
theorem lt_exactStart_iff {limit : Nat} (pos : 0 < limit) (page : Nat) :
    page < g.exactStart viewer limit ↔ page * limit < (g.secondDegreeIds viewer).length := by
  rw [← Nat.not_le, ← Nat.not_le]
  exact not_congr (ceilDiv_le_iff pos)

theorem tierStart_eq {limit : Nat} (pos : 0 < limit)
    (count_le : (g.secondDegreeIds viewer).length ≤ 2 ^ (53 : Nat)) :
    g.tierStart viewer limit =
      .ok (if g.Vanishes viewer limit then 0 else g.exactStart viewer limit : Nat) := by
  refine (Json.pageCount_int (ceilQuotient_of_le pos count_le)).trans ?_
  by_cases vanishes : g.Vanishes viewer limit
  · rw [if_pos vanishes, if_pos vanishes.2]
  · rw [if_neg vanishes]
    split
    · rename_i small
      -- There is nobody to serve then, and no page of nobody.
      have nobody : (g.secondDegreeIds viewer).length = 0 :=
        Nat.eq_zero_of_not_pos fun someone => vanishes ⟨someone, small⟩
      rw [exactStart, nobody, Nat.zero_add, Nat.div_eq_of_lt (by omega)]
    · rfl

namespace WellFormed

theorem listTier (wf : g.WellFormed) (tier : Tier) (page limit start : Nat) :
    g.listTier viewer tier page limit start = .ok (g.tierSlice viewer tier page limit start) := by
  have stored : g.Stores (g.tierIds viewer tier) := by
    cases tier with
    | second => exact wf.stores_secondDegreeIds viewer
    | third => exact wf.stores_thirdDegreeIds viewer
  have sliced : g.Stores (((g.tierIds viewer tier).drop (page * limit)).take limit) :=
    stored.subset fun x hx => List.mem_of_mem_drop (List.mem_of_mem_take hx)
  rw [Graph.listTier, stored.nodePage, pageOf_natCast]
  simp only [Except.map, sliced.length_nodes, Int.ofNat_lt, tierSlice]

/-- A page can always be fetched from a well-formed graph. -/
theorem tierFrom (wf : g.WellFormed) (page limit start : Nat) :
    g.tierFrom viewer page limit start =
      .ok (if page < start then g.tierSlice viewer .second page limit start
        else g.tierSlice viewer .third start limit start) := by
  unfold Graph.tierFrom
  simp only [Int.ofNat_lt, wf.listTier]
  split <;> rfl

/-- Where the quotient does not vanish, the page is the documented one. -/
theorem tierFrom_exactStart (wf : g.WellFormed) (page : Nat) {limit : Nat} (pos : 0 < limit) :
    g.tierFrom viewer page limit (g.exactStart viewer limit) =
      .ok (g.documentedPage viewer page limit) := by
  simp only [wf.tierFrom, lt_exactStart_iff pos, documentedPage]

/-- Where it does, every page is the first one of the third tier. -/
theorem tierFrom_zero (wf : g.WellFormed) (page limit : Nat) :
    g.tierFrom viewer page limit (0 : Nat) = .ok (g.tierSlice viewer .third 0 limit 0) := by
  rw [wf.tierFrom, if_neg (Nat.not_lt_zero page)]

end WellFormed

/-- The documented page begins the third tier after at least one page, if there is anybody for it. -/
theorem documentedPage_ne {limit : Nat} (pos : 0 < limit) (vanishes : g.Vanishes viewer limit)
    (page : Nat) : g.documentedPage viewer page limit ≠ g.tierSlice viewer .third 0 limit 0 := by
  intro same
  have begins : (g.documentedPage viewer page limit).thirdDegreeStartPage =
      g.exactStart viewer limit := by
    unfold documentedPage
    dsimp only
    split <;> rfl
  have someone : 0 < g.exactStart viewer limit :=
    (lt_exactStart_iff pos 0).2 (by rw [Nat.zero_mul]; exact vanishes.1)
  rw [same] at begins
  change ((0 : Nat) : Int) = _ at begins
  omega

end Graph

namespace World

/-! ## Fetching -/

variable {b : Backend World} (w : World)

/-- What a listing that leaves the stores alone makes of a page. -/
theorem on_listed {listing : Attempt Value} {found : Except Failure (List UserNode)}
    (listed : listing.on b w = (found.map .users, w)) (tier : Tier) (start limit : Int) :
    (do let users ← listing
        let total ← Attempt.ofExcept users.length
        let isLastPage ← Attempt.ofExcept ((Json.int total).lessThan (.int limit))
        pure ({ users, total, tier, thirdDegreeStartPage := start, isLastPage } :
          CandidatePage)).on b w =
      (found.map fun nodes =>
        { users := .users nodes, total := nodes.length, tier, thirdDegreeStartPage := start
          isLastPage := decide ((nodes.length : Int) < limit) }, w) := by
  simp only [on_bind, listed]
  cases found with
  | error failure => rfl
  | ok nodes =>
    simp only [Except.map, Value.length_users, on_ofExcept, Json.lessThan_int, on_pure]

/-- **What fetching comes to**, on stores with or without a log: nothing else is asked of the graph
than how many second-degree users there are, and one slice of one tier. -/
theorem on_fetchCandidates_eq (answers : b.answer = answer) (viewer : UserId) (page limit : Int) :
    (Suggestions.fetchCandidates viewer (.int page) (.int limit)).on b w =
      ((w.graph.tierStart viewer limit).bind (w.graph.tierFrom viewer page limit), w) := by
  have counted : (Ask.secondDegreeCount viewer).on b w =
      (.ok (.int (w.graph.secondDegreeIds viewer).length), w) := by
    show b.answer _ w = _
    rw [answers]
    rfl
  have second : (Ask.secondDegree viewer (.int page) (.int limit)).on b w =
      ((w.graph.nodePage (w.graph.tierIds viewer .second) (.int page) (.int limit)).map .users,
        w) := by
    show b.answer _ w = _
    rw [answers]
    rfl
  have third (start : Int) : (Ask.thirdDegree viewer (.int start) (.int limit)).on b w =
      ((w.graph.nodePage (w.graph.tierIds viewer .third) (.int start) (.int limit)).map .users,
        w) := by
    show b.answer _ w = _
    rw [answers]
    rfl
  have number (n : Int) : (Value.int n).render = .int n := rfl
  simp only [Suggestions.fetchCandidates, on_bind, counted, number, on_ofExcept, Graph.tierStart]
  cases Json.pageCount (.int (w.graph.secondDegreeIds viewer).length) (.int limit) with
  | error failure => rfl
  | ok start =>
    simp only [Json.lessThan_int page start, Except.bind, Graph.tierFrom]
    by_cases early : page < start
    · simp only [early, decide_true, if_true]
      exact on_listed w second .second start limit
    · simp only [early, decide_false, if_false, Bool.false_eq_true]
      exact on_listed w (third start) .third start limit

/-- **Tiers are chosen as documented unless the quotient vanishes.** Fetching a page comes to the
page that follows from where the third tier is taken to begin. With up to 2 ^ 53 second-degree users
that is the number of pages that they fill, whatever the limit, so that the second tier is served
just when the page begins before its end; but where users over limit is at most 2 ^ -1075, it is
page zero, and every page is the first one of the third tier. -/
theorem fetchCandidates_exact_iff (viewer : UserId) (page : Nat) {limit : Nat} (pos : 0 < limit) :
    let g := w.graph
    let fetched := (Suggestions.fetchCandidates viewer (.int page) (.int limit)).on backend w
    fetched = ((g.tierStart viewer limit).bind (g.tierFrom viewer page limit), w) ∧
    ((g.secondDegreeIds viewer).length ≤ 2 ^ (53 : Nat) →
      g.tierStart viewer limit =
          .ok (if g.Vanishes viewer limit then 0 else g.exactStart viewer limit : Nat) ∧
      (page < g.exactStart viewer limit ↔ page * limit < (g.secondDegreeIds viewer).length) ∧
      (g.WellFormed →
        fetched.1 = .ok (if g.Vanishes viewer limit then g.tierSlice viewer .third 0 limit 0
          else g.documentedPage viewer page limit) ∧
        (fetched.1 = .ok (g.documentedPage viewer page limit) ↔ ¬ g.Vanishes viewer limit))) := by
  intro g fetched
  have fetched_eq : fetched = _ := on_fetchCandidates_eq w rfl viewer page limit
  refine ⟨fetched_eq, fun count_le => ?_⟩
  have start_eq : g.tierStart viewer limit = _ := Graph.tierStart_eq pos count_le
  refine ⟨start_eq, Graph.lt_exactStart_iff pos page, fun wf => ?_⟩
  have served : fetched.1 = .ok (if g.Vanishes viewer limit then g.tierSlice viewer .third 0 limit 0
      else g.documentedPage viewer page limit) := by
    rw [fetched_eq, start_eq]
    split
    · exact wf.tierFrom_zero page limit
    · exact wf.tierFrom_exactStart page pos
  refine ⟨served, ?_⟩
  rw [served]
  constructor
  · intro same vanishes
    rw [if_pos vanishes] at same
    exact Graph.documentedPage_ne pos vanishes page (Except.ok.inj same).symm
  · intro there
    rw [if_neg there]

/-- A user follows another, who follows a third. -/
def chained : World :=
  { empty with graph := .ofFollows ["ann", "bob", "cid"] [("ann", "bob"), ("bob", "cid")] }

/-- Pages of two begin with the one second-degree user. -/
theorem fetchCandidates_exact_chained :
    ((Suggestions.fetchCandidates (.str "ann") (.int (0 : Nat)) (.int (2 : Nat))).on backend
        chained).1 = .ok (chained.graph.documentedPage (.str "ann") 0 2) ∧
      (chained.graph.documentedPage (.str "ann") 0 2).tier = .second := by
  have one : (chained.graph.secondDegreeIds (.str "ann")).length = 1 := by decide +kernel
  have wf : chained.graph.WellFormed := Graph.wellFormed_ofFollows _ _
  obtain ⟨-, exactly⟩ := fetchCandidates_exact_iff chained (.str "ann") 0 (by decide : 0 < 2)
  obtain ⟨-, -, served⟩ := exactly (by rw [one]; decide)
  have small : 2 < 2 ^ (1075 : Nat) := Nat.lt_trans (by decide : 2 < 1075) (@Nat.lt_two_pow_self 1075)
  exact ⟨(served wf).2.2 (Graph.not_vanishes_of_lt small), by decide +kernel⟩

/-- With a limit of 2 ^ 1075 page zero is one of the third tier, where there is nobody, though there
is a second-degree user for it. -/
theorem unserved_chained :
    ∃ limit, limit = 2 ^ (1075 : Nat) ∧
      0 * limit < (chained.graph.secondDegreeIds (.str "ann")).length ∧
      ((Suggestions.fetchCandidates (.str "ann") (.int (0 : Nat)) (.int limit)).on backend
        chained).1 =
          .ok { users := .users [], total := 0, tier := .third, thirdDegreeStartPage := 0
                isLastPage := true } := by
  have one : (chained.graph.secondDegreeIds (.str "ann")).length = 1 := by decide +kernel
  have nobody : chained.graph.thirdDegreeIds (.str "ann") = [] := by decide +kernel
  have wf : chained.graph.WellFormed := Graph.wellFormed_ofFollows _ _
  obtain ⟨limit, large⟩ : ∃ limit, limit = 2 ^ (1075 : Nat) := ⟨_, rfl⟩
  have pos : 0 < limit := by
    rw [large]
    exact Nat.two_pow_pos 1075
  have vanishes : chained.graph.Vanishes (.str "ann") limit := by
    refine ⟨by rw [one]; exact Nat.one_pos, Nat.le_of_eq ?_⟩
    rw [one, ← large, Nat.one_mul]
  refine ⟨limit, large, by rw [one, Nat.zero_mul]; exact Nat.one_pos, ?_⟩
  rw [on_fetchCandidates_eq chained rfl, Graph.tierStart_eq pos (by rw [one]; decide),
    if_pos vanishes]
  refine (wf.tierFrom_zero 0 limit).trans ?_
  simp only [Graph.tierSlice, Graph.tierIds, nobody, List.drop_nil, List.take_nil,
    List.filterMap_nil, List.length_nil, pos, decide_true]
  rfl

end World
end FollowGraph
