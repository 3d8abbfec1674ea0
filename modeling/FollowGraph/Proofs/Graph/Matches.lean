import FollowGraph.Proofs.Graph.Texts
import FollowGraph.Proofs.Text.Case
import Mathlib.Data.List.Infix

/-!
# Users who match a query

A search goes through the neighbours of a user and keeps those of whom one name, in lower case, has
the query in lower case in it. Where all names are texts that is a filter (`Graph.matchesOf`), and a
search is a page of what it leaves (`Graph.WellFormed.search`).

The query and the name are put into lower case each by itself. So a name that has the query in it,
character for character, need not match; it does when the query keeps its sigmas there
(`Text.KeepsSigmas.isInfix`).
-/

set_option autoImplicit false

namespace FollowGraph

namespace Profile

/-- A name as it is searched: its code points, in lower case. -/
def searched (name : Json) : List Nat := Graph.lowerPoints (name.orElse defaultText).points

/-- One of the names has the query in it, capitals aside. -/
def Matches (p : Profile) (query : List Char) : Prop :=
  (Text.lowerChars query).map Char.toNat <:+: searched p.username ∨
    (Text.lowerChars query).map Char.toNat <:+: searched p.displayName

instance (p : Profile) (query : List Char) : Decidable (p.Matches query) :=
  inferInstanceAs (Decidable (_ ∨ _))

/-- A name of a profile, if it is a string of characters. -/
def HasName (p : Profile) (name : String) : Prop :=
  p.username = .str name ∨ p.displayName = .str name

theorem searched_str (name : String) :
    searched (.str name) = (Text.lowerChars name.toList).map Char.toNat := by
  have text : ((Json.str name).orElse defaultText).points = name.toList.map Char.toNat := by
    unfold Json.orElse
    split
    · rename_i empty
      obtain rfl : name = "" := String.isEmpty_iff.1 empty
      rfl
    · rfl
  rw [searched, text, Graph.lowerPoints_toNat]

theorem HasName.matches {p : Profile} {name : String} (h : p.HasName name) {query : List Char}
    (inside : Text.lowerChars query <:+: Text.lowerChars name.toList) : p.Matches query := by
  have points := inside.map Char.toNat
  rcases h with username | displayName
  · exact .inl (by rwa [username, searched_str])
  · exact .inr (by rwa [displayName, searched_str])

end Profile

namespace Graph

/-! ## One user -/

theorem occursIn_eq (needle points : List Nat) :
    Text.occursIn needle points = decide (needle <:+: points) := by
  rw [Bool.eq_iff_iff, Text.occursIn_iff, decide_eq_true_iff]
  constructor
  · rintro ⟨before, after, split⟩
    exact ⟨before, after, split.symm⟩
  · rintro ⟨before, after, split⟩
    exact ⟨before, after, split.symm⟩

theorem matchesText_eq {name : Json} (text : name.isText = true) (needle : List Nat) :
    matchesText needle name = .ok (decide (needle <:+: Profile.searched name)) := by
  rw [matchesText, lowerText, if_pos (isText_orElse text rfl)]
  exact congrArg Except.ok (occursIn_eq _ _)

theorem matchesProfile_eq {p : Profile} (names : HasTextNames p) (query : List Char) :
    matchesProfile ((Text.lowerChars query).map Char.toNat) p = .ok (decide (p.Matches query)) := by
  rw [matchesProfile, matchesText_eq names.1, matchesText_eq names.2]
  unfold Profile.Matches
  by_cases username : (Text.lowerChars query).map Char.toNat <:+: Profile.searched p.username <;>
    simp [username, bind, Except.bind, pure, Except.pure]

/-! ## All neighbours -/

variable (g : Graph)

/-- Whether a user is stored and matches. -/
def isMatch (query : List Char) (userId : UserId) : Bool :=
  (g.stored? userId).any fun u => decide (u.profile.Matches query)

/-- The neighbours who match, in the order of their edges. -/
def matchesOf (userId : UserId) (direction : Direction) (query : List Char) : List UserId :=
  (g.neighbors .following direction userId).filter (g.isMatch query)

variable {g} {userId : UserId} {direction : Direction} {query : List Char}

theorem Stores.matching_eq {ids : List UserId} (h : g.Stores ids) (names : g.TextNames)
    (query : List Char) :
    g.matching ((Text.lowerChars query).map Char.toNat) ids =
      .ok (ids.filter (g.isMatch query)) := by
  induction ids with
  | nil => rfl
  | cons x rest ih =>
    obtain ⟨u, hm, found, -⟩ := stored?_of_hasUser (h x List.mem_cons_self)
    have like : g.isMatch query x = decide (u.profile.Matches query) := by
      rw [isMatch, found, Option.any_some]
    unfold Graph.matching
    rw [found]
    simp only [matchesProfile_eq (names u hm), ih fun y hy => h y (List.mem_cons_of_mem _ hy),
      List.filter_cons, like, bind, Except.bind, pure, Except.pure]

theorem WellFormed.stores_matchesOf (wf : g.WellFormed) :
    g.Stores (g.matchesOf userId direction query) :=
  (wf.stores_neighbors .following direction userId).subset fun _ hx => (List.mem_filter.1 hx).1

/-- A search is a page of the neighbours who match. -/
theorem WellFormed.search (wf : g.WellFormed) (names : g.TextNames) (query : String)
    (page limit : Int) :
    g.search userId direction (.str query) (.int page) (.int limit) =
      .ok ((pageOf (g.matchesOf userId direction query.toList) page limit).filterMap
        g.findNode) := by
  have stored := wf.stores_neighbors .following direction userId
  rw [search_str, lowerPoints_toNat, stored.matching_eq names]
  exact wf.stores_matchesOf.nodePage page limit

/-- Whoever is stored and a neighbour is among the matches just when a name matches. -/
theorem mem_matchesOf_iff {x : UserId} {u : StoredUser} (found : g.stored? x = some u) :
    x ∈ g.matchesOf userId direction query ↔
      x ∈ g.neighbors .following direction userId ∧ u.profile.Matches query := by
  rw [matchesOf, List.mem_filter, isMatch, found, Option.any_some, decide_eq_true_iff]

/-! ## Small graphs -/

/-- The call that stores a user of whom nothing but id and name are known, if it can be one. -/
def namedUser? (userId username : String) : Option GraphCall :=
  if h : UserId.identifies (.str userId) = true then
    some (.upsertUserNode ⟨.str userId, { Profile.unknown with username := .str username }, .int 0,
      .int 0, h⟩)
  else none

/-- Users with names, some of whom follow others. -/
def ofNames (names : List (String × String)) (follows : List (String × String)) : Graph :=
  empty.after (names.filterMap (fun pair => namedUser? pair.1 pair.2) ++
    follows.map fun pair => .createEdge (.str pair.1) (.str pair.2) .following)

section OfNames

variable (names follows : List (String × String))

theorem wellFormed_ofNames : (ofNames names follows).WellFormed := wellFormed_empty.after _

theorem texts_ofNames : (ofNames names follows).TextIds ∧ (ofNames names follows).TextNames := by
  have given : ∀ call ∈ names.filterMap (fun pair => namedUser? pair.1 pair.2) ++
      follows.map (fun pair => GraphCall.createEdge (.str pair.1) (.str pair.2) .following),
      GivesTextIds call ∧ GivesTextNames call := by
    intro call made
    rcases List.mem_append.1 made with user | edge
    · obtain ⟨pair, -, named⟩ := List.mem_filterMap.1 user
      unfold namedUser? at named
      split at named
      · cases named
        exact ⟨rfl, rfl, rfl⟩
      · cases named
    · obtain ⟨pair, -, rfl⟩ := List.mem_map.1 edge
      exact ⟨trivial, trivial⟩
  constructor
  · exact TextIds.after (fun u hu => by cases hu) fun call made => (given call made).1
  · exact TextNames.after (fun u hu => by cases hu) fun call made => (given call made).2

end OfNames

end Graph
end FollowGraph
