import FollowGraph.Proofs.Graph.Matches
import FollowGraph.Proofs.Service.Neighbors

/-!
# Searches, page by page

A search of a user's lists comes to a function of the graph (`Search.answer`): a slice of the
neighbours who match, annotated, or not found when that slice is empty.

Who matches is decided in lower case, query and name each by itself. A name that has the query in it
character for character is found unless a capital sigma of the query is at the end of a word in one
of the two and not in the other (`Search.finds_of_keepsSigmas`).

Not found is said of a slice and not of the search. It is the answer to every page that begins past
the last match, whether there are matches or not, and a page that says it is the last is met only
where the matches do not fill the pages (`Search.pages_of_matches`).
-/

set_option autoImplicit false

namespace FollowGraph

open Attempt Response

/-- The search of a user's own lists in one direction. -/
def Direction.search (direction : Direction) (userId query : String) (page limit : Int) :
    Operation :=
  match direction with
  | .outgoing => .searchFollowing userId query page limit
  | .incoming => .searchFollowers userId query page limit

/-- What is searched for in one direction. -/
def Direction.listed : Direction → String
  | .outgoing => "following"
  | .incoming => "followers"

def Direction.heading : Direction → String
  | .outgoing => "Following"
  | .incoming => "Followers"

namespace Search

variable (g : Graph) (userId : UserId) (direction : Direction)

/-- The response to a search that has come to some users. -/
def shown (needle : String) (nodes : List UserNode) (page limit : Int) : Response :=
  if nodes.isEmpty then notFound ("No " ++ direction.listed ++ " found for query: " ++ needle)
  else
    paginated (direction.heading ++ " fetched successfully") (nodes.filterMap (g.annotated? userId))
      (Engine.metaOf nodes page limit)

/-- The response to a search. -/
def answer (query : String) (page limit : Int) : Response :=
  match ofPage? page limit with
  | some refusal => refusal
  | none =>
    if Text.isBlank query then badRequest "Search query is required"
    else
      match g.search userId direction (.str (Text.strip query)) (.int page) (.int limit) with
      | .error _ => internalError ("Failed to search " ++ direction.listed)
      | .ok nodes => shown g userId direction (Text.strip query) nodes page limit

/-- Those whom a search pages through. -/
def matched (query : String) : List UserId :=
  g.matchesOf userId direction (Text.strip query).toList

theorem isEmpty_strip (query : String) : (Text.strip query).isEmpty = Text.isBlank query := by
  rw [Bool.eq_iff_iff, String.isEmpty_iff, Text.isBlank_iff]

/-- **A search is what its spec says**, and leaves the stores as they are. -/
theorem on_program (w : World) (userId query : String) (page limit : Int) :
    (direction.search userId query page limit).program.on World.silent w =
      (.ok (answer w.graph (.str userId) direction query page limit), w) := by
  have asked (needle : String) :
      (Ask.substringSearch (.str userId) direction (.str needle) (.int page) (.int limit)).on
          World.silent w =
        ((w.graph.search (.str userId) direction (.str needle) (.int page) (.int limit)).map
          .users, w) := rfl
  unfold answer
  cases direction <;>
    simp only [Direction.search, Operation.program, searchFollowing, searchFollowers,
      searchNeighbors, on_bind, checkPagination_int, on_ofExcept]
  all_goals
    cases ofPage? page limit with
    | some refusal => rfl
    | none =>
      simp only [on_bind, on_ofExcept, needleOf_str, isEmpty_strip, on_ite]
      split
      · rfl
      · simp only [on_always, run_catching, on_bind, asked]
        cases w.graph.search (.str userId) _ (.str (Text.strip query)) (.int page) (.int limit) with
        | error failure => rfl
        | ok nodes =>
          cases nodes with
          | nil => rfl
          | cons node rest =>
            have some_there : (Value.users (node :: rest)).isFalsy = false := rfl
            simp only [Except.map, some_there, Bool.false_eq_true, if_false, on_bind,
              Enrichment.on_enrichMany, on_ofExcept, pageMetaOf_users, on_pure]
            rfl

variable {g userId direction} {query : String}

/-- A search of a well-formed graph comes to a slice of those who match. -/
theorem answer_eq (wf : g.WellFormed) (names : g.TextNames) (asked : Text.isBlank query = false)
    {page limit : Int} (notBefore : 0 ≤ page) (some_asked : 1 ≤ limit) :
    answer g userId direction query page limit =
      shown g userId direction (Text.strip query)
        ((pageOf (matched g userId direction query) page limit).filterMap g.findNode) page
        limit := by
  have proper : ofPage? page limit = none := if_neg (by omega)
  rw [answer, proper, asked]
  simp only [Bool.false_eq_true, if_false, wf.search names]
  rfl

theorem perform_search (w : World) (direction : Direction) (userId query : String)
    (page limit : Int) :
    ∃ v, w.perform (direction.search userId query page limit) =
        (.ok (answer w.graph (.str userId) direction query page limit), v) ∧
      v.unlogged = w.unlogged :=
  World.on_backend_of_silent (on_program direction w userId query page limit)

/-! ## One page -/

/-- A page of matches: the slice that its number says, and whether it is full. -/
structure Finds (matched : List UserId) (limit page : Nat) (r : Response) : Prop where
  success : r.success = true ∧ r.statusCode = 200
  userIds : r.userIds = (matched.drop (page * limit)).take limit
  pageMeta : r.pageMeta = some
    { total := .int r.userIds.length, page := .int page, limit := .int limit
      isLastPage := .bool (decide (r.userIds.length < limit)) }

/-- A search that has come to a slice of the matches shows it, as long as it begins before their
end. -/
theorem finds_shown (wf : g.WellFormed) (texts : g.TextIds) {matched : List UserId}
    (stored : g.Stores matched) {limit page : Nat} (pos : 0 < limit)
    (left : page * limit < matched.length) (needle : String) :
    Finds matched limit page (shown g userId direction needle
      (((matched.drop (page * limit)).take limit).filterMap g.findNode) page limit) := by
  generalize sliced : (matched.drop (page * limit)).take limit = slice
  have stored_slice : g.Stores slice := by
    rw [← sliced]
    exact stored.subset fun x hx => List.mem_of_mem_drop (List.mem_of_mem_take hx)
  have some_there : (slice.filterMap g.findNode).isEmpty = false := by
    rw [List.isEmpty_eq_false_iff_exists_mem, ← List.length_pos_iff_exists_mem,
      stored_slice.length_nodes, ← sliced, List.length_take, List.length_drop]
    omega
  obtain ⟨userIds, -, pageMeta, -⟩ := wf.paginated_stored texts stored_slice userId
    (direction.heading ++ " fetched successfully") page limit
  rw [shown, some_there, if_neg Bool.false_ne_true]
  refine ⟨⟨rfl, rfl⟩, userIds.trans sliced.symm, ?_⟩
  simp only [userIds, pageMeta, Int.ofNat_lt]

section Pages

variable (wf : g.WellFormed) (texts : g.TextIds) (names : g.TextNames)
  (asked : Text.isBlank query = false) {limit : Nat} (pos : 0 < limit)

include wf names asked pos

/-- Every page is a slice of those who match. -/
theorem answer_page (page : Nat) :
    answer g userId direction query page limit =
      shown g userId direction (Text.strip query)
        ((((matched g userId direction query).drop (page * limit)).take limit).filterMap
          g.findNode) page limit := by
  rw [← pageOf_natCast]
  exact answer_eq wf names asked (by omega) (by omega)

/-- A page past the last match is not found. -/
theorem answer_past {page : Nat}
    (beyond : (matched g userId direction query).length ≤ page * limit) :
    answer g userId direction query page limit =
      notFound ("No " ++ direction.listed ++ " found for query: " ++ Text.strip query) := by
  rw [answer_page wf names asked pos, List.drop_of_length_le beyond, List.take_nil]
  rfl

include texts

theorem finds_answer {page : Nat}
    (left : page * limit < (matched g userId direction query).length) :
    Finds (matched g userId direction query) limit page
      (answer g userId direction query page limit) := by
  rw [answer_page wf names asked pos]
  exact finds_shown wf texts wf.stores_matchesOf pos left _

theorem userIds_answer (page : Nat) :
    (answer g userId direction query page limit).userIds =
      ((matched g userId direction query).drop (page * limit)).take limit := by
  rcases Nat.lt_or_ge (page * limit) (matched g userId direction query).length with left | beyond
  · exact (finds_answer wf texts names asked pos left).userIds
  · rw [answer_past wf names asked pos beyond, List.drop_of_length_le beyond, List.take_nil]
    rfl

/-- A page says that it is the last when the matches end on it and do not fill it. -/
theorem isLastPage_answer_iff (page : Nat) :
    (answer g userId direction query page limit).IsLastPage ↔
      page * limit < (matched g userId direction query).length ∧
        (matched g userId direction query).length < (page + 1) * limit := by
  rcases Nat.lt_or_ge (page * limit) (matched g userId direction query).length with left | beyond
  · have finds := finds_answer wf texts names asked pos left
    have cut : (((matched g userId direction query).drop (page * limit)).take limit).length <
        limit ↔ (matched g userId direction query).length < (page + 1) * limit := by
      rw [List.length_take, List.length_drop, Nat.succ_mul]
      omega
    rw [IsLastPage, finds.pageMeta, finds.userIds]
    simp only [Option.map_some, Option.some.injEq, Json.bool.injEq, decide_eq_true_eq, cut, left,
      true_and]
  · rw [answer_past wf names asked pos beyond]
    constructor
    · intro last
      cases last
    · exact fun across => absurd across.1 (Nat.not_lt.2 beyond)

end Pages

/-! ## Whom a search finds -/

/-- **What occurs in a name is found unless a sigma changes.** A search pages through the neighbours
one of whose names, in lower case, has the query in lower case in it. Where the query stands in a
name character for character, that neighbour is among them if every capital sigma of the query is
at the end of a word there just when it is in the query alone: so for a query without one, and for
one that stands apart from other letters. -/
theorem finds_of_keepsSigmas (wf : g.WellFormed) (names : g.TextNames) (direction : Direction)
    (userId : String) (asked : Text.isBlank query = false) :
    let needle := (Text.strip query).toList
    let matched := matched g (.str userId) direction query
    (∀ w : World, w.graph = g → ∀ page limit : Int, 0 ≤ page → 1 ≤ limit →
      ∃ v, w.perform (direction.search userId query page limit) =
          (.ok (shown g (.str userId) direction (Text.strip query)
            ((pageOf matched page limit).filterMap g.findNode) page limit), v) ∧
        v.unlogged = w.unlogged) ∧
    ∀ x ∈ g.neighbors .following direction (.str userId), ∀ u, g.stored? x = some u →
      (x ∈ matched ↔ u.profile.Matches needle) ∧
      ∀ name, u.profile.HasName name → ∀ before after,
        name.toList = before ++ needle ++ after →
          (Text.KeepsSigmas before needle after → x ∈ matched) ∧
          ('Σ' ∉ needle → x ∈ matched) ∧
          (Text.meetsCased before.reverse = false → Text.meetsCased after = false →
            x ∈ matched) := by
  intro needle matched
  refine ⟨?paged, fun x neighbor u found => ?_⟩
  case paged =>
    rintro w rfl page limit notBefore some_asked
    rw [← answer_eq wf names asked notBefore some_asked]
    exact perform_search w direction userId query page limit
  have matched_iff : x ∈ matched ↔ u.profile.Matches needle :=
    (Graph.mem_matchesOf_iff found).trans (and_iff_right neighbor)
  refine ⟨matched_iff, fun name named before after split => ?_⟩
  have kept (keeps : Text.KeepsSigmas before needle after) : x ∈ matched :=
    matched_iff.2 (named.matches (split ▸ keeps.isInfix))
  exact ⟨kept, fun no_sigma => kept (Text.keepsSigmas_of_not_mem no_sigma before after),
    fun starts ends => kept (Text.keepsSigmas_of_apart starts ends needle)⟩

/-- Two followed users: in the name of one the query is the beginning of a word, in that of the
other it is a word. -/
def namesakes : Graph :=
  Graph.ofNames [("ann", "Ann"), ("bob", "ΚΟΣΜΑΣ"), ("cid", "Α. ΚΟΣ")]
    [("ann", "bob"), ("ann", "cid")]

theorem texts_namesakes : namesakes.WellFormed ∧ namesakes.TextIds ∧ namesakes.TextNames :=
  ⟨Graph.wellFormed_ofNames _ _, Graph.texts_ofNames _ _⟩

/-- The word is found. Its sigma is final in the name, as it is in the query. -/
theorem finds_of_keepsSigmas_namesakes :
    Text.isBlank " ΚΟΣ " = false ∧
    'Σ' ∈ (Text.strip " ΚΟΣ ").toList ∧
    .str "cid" ∈ matched namesakes (.str "ann") .outgoing " ΚΟΣ " := by
  obtain ⟨wf, -, names⟩ := texts_namesakes
  have asked : Text.isBlank " ΚΟΣ " = false := by decide +kernel
  obtain ⟨-, finds⟩ := finds_of_keepsSigmas wf names .outgoing "ann" asked
  obtain ⟨-, found⟩ := finds (.str "cid") (by decide +kernel)
    ⟨.str "cid", { Profile.unknown with username := .str "Α. ΚΟΣ" }, 0, 1, by decide⟩
    (by decide +kernel)
  obtain ⟨-, -, apart⟩ := found "Α. ΚΟΣ" (.inl rfl) "Α. ".toList [] (by decide +kernel)
  exact ⟨asked, by decide +kernel, apart (by decide +kernel) rfl⟩

/-- The beginning of a word is not, though it stands in the name character for character: the small
sigma within the word is another one than that at its end. -/
theorem unfound_namesakes :
    ∃ bob, namesakes.stored? (.str "bob") = some bob ∧ bob.profile.HasName "ΚΟΣΜΑΣ" ∧
      "ΚΟΣΜΑΣ".toList = [] ++ (Text.strip "ΚΟΣ").toList ++ "ΜΑΣ".toList ∧
      .str "bob" ∈ namesakes.neighbors .following .outgoing (.str "ann") ∧
      matched namesakes (.str "ann") .outgoing "ΚΟΣ" = [.str "cid"] ∧
      ∃ r, (World.perform { World.empty with graph := namesakes }
          (.searchFollowing "ann" "ΚΟΣ" 0 10)).1 = .ok r ∧
        r.userIds = [.str "cid"] := by
  obtain ⟨wf, texts, names⟩ := texts_namesakes
  have asked : Text.isBlank "ΚΟΣ" = false := by decide +kernel
  have alone : matched namesakes (.str "ann") .outgoing "ΚΟΣ" = [.str "cid"] := by decide +kernel
  obtain ⟨v, performed, -⟩ :=
    perform_search { World.empty with graph := namesakes } .outgoing "ann" "ΚΟΣ" 0 10
  have shown_ids : (answer namesakes (.str "ann") .outgoing "ΚΟΣ" 0 10).userIds = [.str "cid"] := by
    have slice : _ = ((matched namesakes (.str "ann") .outgoing "ΚΟΣ").drop (0 * 10)).take 10 :=
      userIds_answer wf texts names asked (by decide) 0
    rwa [alone] at slice
  exact ⟨⟨.str "bob", { Profile.unknown with username := .str "ΚΟΣΜΑΣ" }, 0, 1, by decide⟩,
    by decide +kernel, .inl rfl, by decide +kernel, by decide +kernel, alone,
    _, congrArg Prod.fst performed, shown_ids⟩

/-! ## All pages -/

/-- There is a page that a list ends on without filling it just when it does not fill its pages. -/
theorem exists_page_across_iff {length limit : Nat} (pos : 0 < limit) :
    (∃ page, page * limit < length ∧ length < (page + 1) * limit) ↔ ¬ limit ∣ length := by
  constructor
  · rintro ⟨page, begins, ends⟩ ⟨full, rfl⟩
    rw [Nat.mul_comm limit full] at begins ends
    have after := Nat.lt_of_mul_lt_mul_right begins
    have before := Nat.lt_of_mul_lt_mul_right ends
    omega
  · intro no_divisor
    -- The quotient is the page that the list ends on; a remainder keeps it from being full.
    refine ⟨length / limit, ?_, (Nat.div_lt_iff_lt_mul pos).1 (Nat.lt_succ_self _)⟩
    refine Nat.lt_of_le_of_ne (Nat.div_mul_le_self length limit) fun full => no_divisor ?_
    exact ⟨length / limit, by rw [Nat.mul_comm, full]⟩

/-- **Not found is said of a page.** Let a client search the lists of a user of a graph that stays
as it is. The first page is not found just when nobody matches. Pages that begin before the end of
the matches are found, and in order they show every match once, in the order of the edges. Every
later page is not found, as if there were no matches; and a page that says it is the last is met
just when the limit does not divide their number. -/
theorem pages_of_matches (wf : g.WellFormed) (texts : g.TextIds) (names : g.TextNames)
    (direction : Direction) (userId : String) (asked : Text.isBlank query = false) {limit : Nat}
    (pos : 0 < limit) :
    let matched := matched g (.str userId) direction query
    matched.Nodup ∧
    ∃ pages : Nat → Response,
      (∀ w : World, w.graph = g → ∀ page : Nat,
        ∃ v, w.perform (direction.search userId query page limit) = (.ok (pages page), v) ∧
          v.unlogged = w.unlogged) ∧
      (∀ page, matched.length ≤ page * limit →
        pages page = notFound
          ("No " ++ direction.listed ++ " found for query: " ++ Text.strip query)) ∧
      (∀ page, page * limit < matched.length → Finds matched limit page (pages page)) ∧
      ((pages 0).statusCode = 404 ↔ matched = []) ∧
      (∀ count, matched.length ≤ count * limit →
        (List.range count).flatMap (fun page => (pages page).userIds) = matched) ∧
      ((∃ page, (pages page).IsLastPage) ↔ ¬ limit ∣ matched.length) := by
  intro matched
  refine ⟨(wf.neighbors_nodup _ _ _).filter _,
    fun page => answer g (.str userId) direction query page limit, ?performed,
    fun page => answer_past wf names asked pos, fun page => finds_answer wf texts names asked pos,
    ?first, ?whole, ?last⟩
  case performed =>
    rintro w rfl page
    exact perform_search w direction userId query page limit
  case first =>
    constructor
    · intro not_found
      refine List.eq_nil_of_length_eq_zero (Nat.eq_zero_of_not_pos fun some_there => ?_)
      have left : 0 * limit < matched.length := by omega
      have found := (finds_answer wf texts names asked pos left).success.2
      exact absurd (found.symm.trans not_found) (by decide)
    · intro nobody
      have beyond : matched.length ≤ 0 * limit := by rw [nobody]; exact Nat.zero_le _
      exact congrArg statusCode (answer_past wf names asked pos beyond)
  case whole =>
    intro count enough
    simp only [userIds_answer wf texts names asked pos]
    rw [flatMap_pages, List.take_of_length_le enough]
  case last =>
    -- Only the page that the matches end on can say so, and it does not when it is full.
    rw [← exists_page_across_iff pos]
    exact exists_congr fun page => isLastPage_answer_iff wf texts names asked pos page

/-- A user three of whose four followers have one name in common. -/
def admirers : Graph :=
  Graph.ofNames
    [("ann", "Ann"), ("bob", "Bob"), ("bea", "Bobbie"), ("cid", "Cid"), ("dee", "Little Bob")]
    [("bob", "ann"), ("bea", "ann"), ("cid", "ann"), ("dee", "ann")]

theorem texts_admirers : admirers.WellFormed ∧ admirers.TextIds ∧ admirers.TextNames :=
  ⟨Graph.wellFormed_ofNames _ _, Graph.texts_ofNames _ _⟩

theorem matched_admirers :
    matched admirers (.str "ann") .incoming " bob" = [.str "bob", .str "bea", .str "dee"] := by
  decide +kernel

/-- Two at a time: the second page is the last and says so, and the third is not found. -/
theorem pages_of_matches_admirers :
    Text.isBlank " bob" = false ∧ 0 < 2 ∧
    ∃ pages : Nat → Response,
      (∀ page : Nat, ∃ v, World.perform { World.empty with graph := admirers }
        (.searchFollowers "ann" " bob" page 2) = (.ok (pages page), v)) ∧
      (pages 0).userIds ++ (pages 1).userIds = [.str "bob", .str "bea", .str "dee"] ∧
      (pages 1).IsLastPage ∧ (pages 2).statusCode = 404 := by
  obtain ⟨wf, texts, names⟩ := texts_admirers
  have asked : Text.isBlank " bob" = false := by decide +kernel
  have two_asked : 0 < 2 := by decide
  obtain ⟨-, pages, performed, past, found, -, -, -⟩ :=
    pages_of_matches wf texts names .incoming "ann" asked two_asked
  rw [matched_admirers] at past found
  have first := found 0 (by decide)
  have second := found 1 (by decide)
  refine ⟨asked, two_asked, pages, fun page => ?_, ?_, ?_, ?_⟩
  · obtain ⟨v, done, -⟩ := performed { World.empty with graph := admirers } rfl page
    exact ⟨v, done⟩
  · rw [first.userIds, second.userIds]
    rfl
  · rw [IsLastPage, second.pageMeta, second.userIds]
    rfl
  · rw [past 2 (by decide)]
    rfl

/-- Three at a time: the first page shows everyone who matches and does not say that it is the last,
the second is not found, and no page is ever the last. -/
theorem lost_past_full_page :
    Text.isBlank " bob" = false ∧
    ∃ pages : Nat → Response,
      (∀ page : Nat, ∃ v, World.perform { World.empty with graph := admirers }
        (.searchFollowers "ann" " bob" page 3) = (.ok (pages page), v)) ∧
      (pages 0).userIds = [.str "bob", .str "bea", .str "dee"] ∧
      pages 1 = notFound "No followers found for query: bob" ∧ (pages 1).statusCode = 404 ∧
      ∀ page, ¬ (pages page).IsLastPage := by
  obtain ⟨wf, texts, names⟩ := texts_admirers
  have asked : Text.isBlank " bob" = false := by decide +kernel
  have three_asked : 0 < 3 := by decide
  have beyond : (matched admirers (.str "ann") .incoming " bob").length ≤ 1 * 3 := by
    rw [matched_admirers]
    decide
  have second := answer_past wf names asked three_asked beyond
  refine ⟨asked, fun page => answer admirers (.str "ann") .incoming " bob" page (3 : Nat),
    fun page => ?_, ?_, second, congrArg statusCode second, fun page => ?_⟩
  · obtain ⟨v, done, -⟩ :=
      perform_search { World.empty with graph := admirers } .incoming "ann" " bob" page 3
    exact ⟨v, done⟩
  · rw [userIds_answer wf texts names asked three_asked, matched_admirers]
    rfl
  · rw [isLastPage_answer_iff wf texts names asked three_asked, matched_admirers, List.length_cons,
      List.length_cons, List.length_singleton]
    omega

end Search
end FollowGraph
