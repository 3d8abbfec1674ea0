import FollowGraph.Proofs.Graph.WellFormed
import FollowGraph.Service.Operation
import Mathlib.Data.Finset.Dedup
import Mathlib.Data.Finset.Erase
import Mathlib.Data.Finset.Insert

/-!
# The pair machine

What the five operations on a pair of users mean, without counters, orders, calls or logs: a state
is the set of users and the two sets of ordered pairs, and each operation is a chain of refusals
before at most one change. `Graph.pairs` is what is left of a graph when all the rest is forgotten.
-/

set_option autoImplicit false

namespace FollowGraph

/-- The users, and which of them follow or block which. -/
@[ext] structure Pairs where
  users : Finset UserId
  following : Finset (UserId × UserId)
  blocked : Finset (UserId × UserId)

namespace Pairs

/-- Either user has blocked the other. -/
def Limited (p : Pairs) (a b : UserId) : Prop := (a, b) ∈ p.blocked ∨ (b, a) ∈ p.blocked

instance (p : Pairs) (a b : UserId) : Decidable (p.Limited a b) :=
  inferInstanceAs (Decidable (_ ∨ _))

def Both (p : Pairs) (a b : UserId) : Prop := a ∈ p.users ∧ b ∈ p.users

instance (p : Pairs) (a b : UserId) : Decidable (p.Both a b) :=
  inferInstanceAs (Decidable (_ ∧ _))

def insert (p : Pairs) (kind : Relationship) (pair : UserId × UserId) : Pairs :=
  match kind with
  | .following => { p with following := Insert.insert pair p.following }
  | .blocked => { p with blocked := Insert.insert pair p.blocked }

def erase (p : Pairs) (kind : Relationship) (pair : UserId × UserId) : Pairs :=
  match kind with
  | .following => { p with following := p.following.erase pair }
  | .blocked => { p with blocked := p.blocked.erase pair }

/-! ## Operations -/

def follow (p : Pairs) (a b : UserId) : Response × Pairs :=
  if a = b then (.forbidden "You cannot follow yourself", p)
  else if ¬ p.Both a b then (.badRequest "User not found", p)
  else if (a, b) ∈ p.following then (.forbidden "You are already following this user", p)
  else if p.Limited a b then (.forbidden "This user is limited to you", p)
  else (.ok "User followed successfully" .null, p.insert .following (a, b))

def unfollow (p : Pairs) (a b : UserId) : Response × Pairs :=
  if a = b then (.forbidden "You cannot unfollow yourself", p)
  else if (a, b) ∉ p.following then (.forbidden "You are not following this user", p)
  else if p.Limited a b then (.forbidden "This user is limited to you", p)
  else (.ok "User unfollowed successfully" .null, p.erase .following (a, b))

def removeFollower (p : Pairs) (a b : UserId) : Response × Pairs :=
  if a = b then (.forbidden "You cannot remove yourself", p)
  else if p.Limited a b then (.forbidden "User blocked", p)
  else if (b, a) ∉ p.following then (.forbidden "User is not following you", p)
  else (.ok "Follower removed successfully" .null, p.erase .following (b, a))

/-- A block takes away both following pairs. -/
def block (p : Pairs) (a b : UserId) : Response × Pairs :=
  if a = b then (.forbidden "You cannot block yourself", p)
  else if ¬ p.Both a b then (.badRequest "User not found", p)
  else if p.Limited a b then (.forbidden "User already blocked", p)
  else (.ok "User blocked successfully" .null,
    ((p.erase .following (a, b)).erase .following (b, a)).insert .blocked (a, b))

/-- Either user can take the block away; of two blocks the one that `a` set goes first. -/
def unblock (p : Pairs) (a b : UserId) : Response × Pairs :=
  if a = b then (.forbidden "You cannot unblock yourself", p)
  else if ¬ p.Limited a b then (.forbidden "User not blocked", p)
  else (.ok "User unblocked successfully" .null,
    if (a, b) ∈ p.blocked then p.erase .blocked (a, b) else p.erase .blocked (b, a))

end Pairs

inductive PairOperation where
  | follow (a b : String)
  | unfollow (a b : String)
  | removeFollower (a b : String)
  | block (a b : String)
  | unblock (a b : String)
  deriving DecidableEq

def PairOperation.operation : PairOperation → Operation
  | .follow a b => .follow a b
  | .unfollow a b => .unfollow a b
  | .removeFollower a b => .removeFollower a b
  | .block a b => .block a b
  | .unblock a b => .unblock a b

/-- One step of the machine: the answer, and the pairs afterwards. -/
def Pairs.step (p : Pairs) : PairOperation → Response × Pairs
  | .follow a b => p.follow (.str a) (.str b)
  | .unfollow a b => p.unfollow (.str a) (.str b)
  | .removeFollower a b => p.removeFollower (.str a) (.str b)
  | .block a b => p.block (.str a) (.str b)
  | .unblock a b => p.unblock (.str a) (.str b)

/-! ## The pairs of a graph -/

namespace Graph

/-- The ordered pairs that edges of one kind lead between. -/
def pairsOf (g : Graph) (kind : Relationship) : Finset (UserId × UserId) :=
  ((g.edges.filter (·.kind = kind)).map fun e => (e.source, e.target)).toFinset

/-- What the pair machine sees of a graph. -/
def pairs (g : Graph) : Pairs :=
  { users := (g.users.map StoredUser.userId).toFinset
    following := g.pairsOf .following
    blocked := g.pairsOf .blocked }

theorem mem_pairsOf {g : Graph} {kind : Relationship} {a b : UserId} :
    (a, b) ∈ g.pairsOf kind ↔ (⟨a, b, kind⟩ : Edge) ∈ g.edges := by
  simp only [pairsOf, List.mem_toFinset, List.mem_map, List.mem_filter, decide_eq_true_eq,
    Prod.mk.injEq]
  constructor
  · rintro ⟨⟨_, _, _⟩, ⟨he, rfl⟩, rfl, rfl⟩
    exact he
  · intro he
    exact ⟨_, ⟨he, rfl⟩, rfl, rfl⟩

@[simp] theorem mem_pairs_users {g : Graph} {userId : UserId} :
    userId ∈ g.pairs.users ↔ g.hasUser userId = true := by
  simp [pairs, hasUser_iff]

@[simp] theorem mem_pairs_following {g : Graph} {a b : UserId} :
    (a, b) ∈ g.pairs.following ↔ g.hasEdge ⟨a, b, .following⟩ = true :=
  mem_pairsOf.trans hasEdge_iff.symm

@[simp] theorem mem_pairs_blocked {g : Graph} {a b : UserId} :
    (a, b) ∈ g.pairs.blocked ↔ g.hasEdge ⟨a, b, .blocked⟩ = true :=
  mem_pairsOf.trans hasEdge_iff.symm

theorem pairs_limited {g : Graph} {a b : UserId} :
    g.pairs.Limited a b ↔
      (g.hasEdge ⟨a, b, .blocked⟩ || g.hasEdge ⟨b, a, .blocked⟩) = true := by
  simp [Pairs.Limited]

theorem pairs_both {g : Graph} {a b : UserId} :
    g.pairs.Both a b ↔ (g.hasUser b && g.hasUser a) = true := by
  simp [Pairs.Both, and_comm]

/-! ## Writes, seen as pairs -/

/-- An added edge is one more pair of its kind. -/
theorem pairsOf_addEdge {g g' : Graph} {a b : UserId} {kind : Relationship}
    (h : g.addEdge? ⟨a, b, kind⟩ = some g') (other : Relationship) :
    g'.pairsOf other =
      if other = kind then insert (a, b) (g.pairsOf other) else g.pairsOf other := by
  obtain ⟨-, rfl⟩ := addEdge?_eq_some_iff.1 h
  ext ⟨x, y⟩
  split <;> simp_all [mem_pairsOf, or_comm]

/-- Without repetition, a removed edge is one pair of its kind less. -/
theorem pairsOf_removeEdge {g g' : Graph} {a b : UserId} {kind : Relationship}
    (nodup : g.edges.Nodup) (h : g.removeEdge? ⟨a, b, kind⟩ = some g') (other : Relationship) :
    g'.pairsOf other =
      if other = kind then (g.pairsOf other).erase (a, b) else g.pairsOf other := by
  obtain ⟨-, rfl⟩ := removeEdge?_eq_some_iff.1 h
  ext ⟨x, y⟩
  split <;> simp_all [mem_pairsOf, nodup.mem_erase_iff]

theorem users_count (g : Graph) (e : Edge) (n : Int) (edges : List Edge) :
    (({ g with edges } : Graph).count e n).pairs.users = g.pairs.users := by
  ext x
  rw [mem_pairs_users, mem_pairs_users, hasUser_count]
  rfl

theorem pairs_addEdge {g g' : Graph} {a b : UserId} {kind : Relationship}
    (h : g.addEdge? ⟨a, b, kind⟩ = some g') : g'.pairs = g.pairs.insert kind (a, b) := by
  have moved := pairsOf_addEdge h
  obtain ⟨-, rfl⟩ := addEdge?_eq_some_iff.1 h
  cases kind <;> exact Pairs.ext (users_count ..) (moved .following) (moved .blocked)

theorem Counted.pairs_removeEdge {g g' : Graph} {a b : UserId} {kind : Relationship}
    (hc : g.Counted) (h : g.removeEdge? ⟨a, b, kind⟩ = some g') :
    g'.pairs = g.pairs.erase kind (a, b) := by
  have moved := pairsOf_removeEdge hc.edges_nodup h
  obtain ⟨-, rfl⟩ := removeEdge?_eq_some_iff.1 h
  cases kind <;> exact Pairs.ext (users_count ..) (moved .following) (moved .blocked)

end Graph
end FollowGraph
