import FollowGraph.Client
import FollowGraph.Proofs.Application.Life

/-!
# Through a client

What is known of the service is known of whoever talks to it through the client. A draft that the
client refuses changes nothing. Any other one becomes a request, and what the client gets is what
the service answered (`exchange_eq_answer`), but for documents of which the head alone is asked for.
So nothing about requests to the services has to be said again for drafts.

A client gives up at the first request that fails. That ends no life in another way than others do
(`closed_converse`).
-/

set_option autoImplicit false

namespace FollowGraph

namespace Http

/-! ## Routes -/

/-- An endpoint that is reached is reached with a method of one of its routes. -/
theorem exists_route {method : String} {segments : List (List Char)} {e : Endpoint}
    {ids : List String} (routed : destination method segments = .endpoint e ids) :
    ∃ route ∈ routes, route.endpoint = e ∧ method ∈ route.methods := by
  unfold destination at routed
  dsimp only at routed
  split at routed
  next route ids' found =>
    cases routed
    have fits := List.mem_of_find?_eq_some found
    have allowed := List.find?_some found
    obtain ⟨route', there, matched⟩ := List.mem_filterMap.1 fits
    obtain ⟨_, -, same⟩ := Option.map_eq_some_iff.1 matched
    cases same
    exact ⟨route, there, rfl, List.contains_iff_mem.1 allowed⟩
  next =>
    split at routed
    · cases routed
    · split at routed <;> cases routed

/-- Only documents are asked for without their body. -/
theorem ne_head_of_routed {method : String} {segments : List (List Char)} {e : Endpoint}
    {ids : List String} (routed : destination method segments = .endpoint e ids)
    (other : e ≠ .document) : method ≠ "HEAD" := by
  have methods : ∀ route ∈ routes, route.endpoint ≠ .document → "HEAD" ∉ route.methods := by
    decide
  obtain ⟨route, there, rfl, allowed⟩ := exists_route routed
  rintro rfl
  exact methods route there other allowed

end Http

namespace Client

open Http Attempt

theorem delivered_of_ne_head {method : String} (other : method ≠ "HEAD") (reply : Http.Reply) :
    delivered method reply = reply := by
  cases reply with
  | content status value => simp [delivered, other]
  | invalid errors => rfl

/-! ## One exchange -/

section Exchange

variable {σ : Type} (b : Backend σ) (s : σ) (attached : Bool) {d : Draft}

/-- Of a draft that cannot be sent nothing reaches the service. -/
theorem exchange_of_unsendable {failure : Failure} (refused : d.require = .error failure) :
    (exchange attached d).trace b s = [] ∧ (exchange attached d).on b s = (.error failure, s) := by
  unfold exchange
  simp only [Attempt.trace_bind, trace_ofExcept, on_bind, on_ofExcept, refused, List.append_nil,
    and_self]

/-- A draft that can be sent is the request that it becomes, call by call. -/
theorem exchange_of_sendable (sendable : d.require = .ok ()) :
    (exchange attached d).trace b s = (answer attached d.received).trace b s ∧
      (exchange attached d).on b s =
        (((answer attached d.received).on b s).1.map (delivered d.received.method),
          ((answer attached d.received).on b s).2) := by
  have asked : exchange attached d = ofExcept d.require >>= fun _ =>
      delivered d.received.method <$> answer attached d.received := by
    rw [exchange, map_eq_pure_bind]
  rw [asked]
  simp only [Attempt.trace_bind, trace_ofExcept, on_bind, on_ofExcept, sendable, List.nil_append,
    Attempt.trace_map, on_map]
  exact ⟨trivial, trivial⟩

/-- **The client gets what the service answered**, whatever endpoint but a document is asked. -/
theorem exchange_eq_answer (sendable : d.require = .ok ()) {e : Endpoint} {ids : List String}
    (routed : destination d.received.method d.received.target.segments = .endpoint e ids)
    (other : e ≠ .document) :
    (exchange attached d).trace b s = (answer attached d.received).trace b s ∧
      (exchange attached d).on b s = (answer attached d.received).on b s := by
  obtain ⟨calls, outcome⟩ := exchange_of_sendable b s attached sendable
  refine ⟨calls, outcome.trans ?_⟩
  have whole : delivered d.received.method = id :=
    funext fun reply => delivered_of_ne_head (ne_head_of_routed routed other) reply
  rw [whole]
  rcases (answer attached d.received).on b s with ⟨_ | _, _⟩ <;> rfl

end Exchange

/-! ## Conversations -/

section Conversations

open Application

variable {s t : Application} {h : History}

theorem ran_converse (drafts : List Draft) (ran : Ran s h t) :
    ∃ h, Ran s h (converse drafts t).2 := by
  induction drafts generalizing h t with
  | nil => exact ⟨h, ran⟩
  | cons d rest ih =>
    obtain ⟨k, next⟩ := ran_during (exchange t.attached d) ran
    unfold converse
    revert next
    rcases t.during (exchange t.attached d) with ⟨⟨failure | reply, queries⟩, u⟩
    · exact fun next => ⟨k, next⟩
    · exact fun next => ih next

/-- A life that is spent on a client ends like any other. -/
theorem closed_converse (settings : Settings) (script : List Cypher.ScriptItem)
    (drafts : List Draft) : (lifespan settings script (converse drafts)).final.Closed :=
  closed_lifespan settings script _ fun a => ran_converse drafts (ran_refl a)

end Conversations

end Client
end FollowGraph
