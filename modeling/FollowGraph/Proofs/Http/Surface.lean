import FollowGraph.Proofs.Http.Objections
import FollowGraph.Proofs.Http.Sendable
import FollowGraph.Proofs.Program.History
import FollowGraph.Proofs.Service.Boundary

/-!
# The surface is the services and rejections

A request to an endpoint either is rejected, and then nothing has been asked of the stores, or it is
one operation: the calls are the operation's, and so is the state that they leave, and the reply is
the operation's response with its code for the status. Nothing is assumed of the stores, and nothing
of the request either, whatever octets its header and its body are made of.

Which of the two it is `objections` says, and `operationOf_checked` is the step from a request to
its operation. What comes after that is the way of the reply (`Sends`): it is sent last, when the
operation is long over, so a response that cannot be sent is a failure of a request whose operation
has been done.
-/

set_option autoImplicit false

namespace FollowGraph.Http

open Attempt

/-! ## Replies that say their status -/

/-- A reply that carries a code and a flag carries its status, and success when that is 200. -/
def Reply.Consistent : Reply → Prop
  | .content status (.obj members) =>
    ∀ code, members.lookup "statusCode" = some code →
      code = .int status ∧ members.lookup "success" = some (.bool (status == 200))
  | _ => True

theorem consistent_replyOf {r : Response} (proper : r.Proper) : (replyOf r).Consistent := by
  intro code there
  have flag : r.success = (r.statusCode == 200) := by
    rcases proper with ⟨success, same⟩ | ⟨failure, code⟩
    · rw [success, same]
      rfl
    · rw [failure]
      simp only [List.mem_cons, List.not_mem_nil, or_false] at code
      rcases code with same | same | same | same <;> rw [same] <;> rfl
  cases there
  refine ⟨rfl, ?_⟩
  rw [← flag]
  rfl

theorem consistent_detail (status : Int) (text : String) : (detail status text).Consistent := by
  intro code there
  cases there

theorem consistent_rejection (rejection : Rejection) : rejection.reply.Consistent := by
  cases rejection with
  | refusedBody failure => exact consistent_replyOf (Response.proper_badRequest failure.message)
  | redirect | invalid => trivial
  | _ => exact consistent_detail _ _

/-! ## What becomes of a request -/

section Requests

variable {σ : Type} (b : Backend σ) (s : σ) (attached : Bool) (r : Request)

/-- The request is rejected, and nothing is asked of the stores. -/
structure Rejects (rejection : Rejection) : Prop where
  silent : (reply attached r).trace b s = []
  unchanged : ((reply attached r).on b s).2 = s
  outcome : ((reply attached r).on b s).1 = .ok rejection.reply
  /-- Only the report of wrong types holds values that may not be sent. -/
  arrives : (∀ errors, rejection ≠ .invalid errors) → send rejection.reply = .ok rejection.reply

/-- The request is one operation, and the reply is its response. -/
structure Performs (op : Operation) : Prop where
  calls : (reply attached r).trace b s = op.program.trace b s
  state : ((reply attached r).on b s).2 = (op.program.on b s).2
  outcome : ((reply attached r).on b s).1 =
    (op.program.on b s).1.map fun response => .content response.statusCode response.toJson
  responds : op.HearsTexts b s → ∃ response, (op.program.on b s).1 = .ok response

/-- The reply is sent when all that was to be done is done, and asks nothing more of the stores. -/
structure Sends : Prop where
  calls : (answer attached r).trace b s = (reply attached r).trace b s
  state : ((answer attached r).on b s).2 = ((reply attached r).on b s).2
  outcome : ((answer attached r).on b s).1 = ((reply attached r).on b s).1.bind send

theorem sends : Sends b s attached r := by
  have on : (answer attached r).on b s =
      (((reply attached r).on b s).1.bind send, ((reply attached r).on b s).2) := by
    unfold answer
    simp only [on_bind, on_ofExcept, on_pure]
    rcases (reply attached r).on b s with ⟨failure | reply, t⟩
    · rfl
    · simp only [Except.bind, send]
      cases requireContent reply.sent <;> rfl
  refine ⟨?_, by rw [on], by rw [on]⟩
  unfold answer
  simp only [Attempt.trace_bind, trace_ofExcept, on_ofExcept]
  rcases (reply attached r).on b s with ⟨failure | reply, t⟩
  · simp
  · dsimp only
    cases requireContent reply.sent <;> simp

variable {b s attached r}

theorem rejects_of_decide {rejection : Rejection}
    (decided : decide attached r = .error rejection) : Rejects b s attached r rejection := by
  have done : reply attached r = pure rejection.reply := by
    unfold reply
    simp only [decided]
  exact ⟨by rw [done]; rfl, by rw [done]; rfl, by rw [done]; rfl, send_rejection⟩

theorem performs_of_decide {op : Operation}
    (decided : decide attached r = .ok (.operation op)) : Performs b s attached r op := by
  have done : reply attached r = replyOf <$> op.program := by
    unfold reply
    simp only [decided]
    rfl
  refine ⟨?_, ?_, ?_, fun texts => op.exists_response b s texts⟩
  · rw [done, Attempt.trace_map]
  · rw [done, on_map]
  · rw [done, on_map]
    rfl

/-- The envelope of an operation says what the status says. -/
theorem Performs.consistent {op : Operation} (h : Performs b s attached r op) {answer : Reply}
    (replied : ((reply attached r).on b s).1 = .ok answer) : answer.Consistent := by
  rw [h.outcome] at replied
  cases answered : (op.program.on b s).1 with
  | error failure =>
    rw [answered] at replied
    cases replied
  | ok response =>
    rw [answered] at replied
    cases replied
    exact consistent_replyOf (op.obeys.of_ok b s answered)

theorem Rejects.consistent {rejection : Rejection} (h : Rejects b s attached r rejection)
    {answer : Reply} (replied : ((reply attached r).on b s).1 = .ok answer) :
    answer.Consistent := by
  rw [h.outcome] at replied
  cases replied
  exact consistent_rejection rejection

theorem decide_of_routed {e : Endpoint} {ids : List String}
    (routed : destination r.method r.target.segments = .endpoint e ids) :
    decide attached r = operationOf attached r (ids.headD "") e := by
  unfold decide
  simp only [routed]

/-- **The surface refines the services.** Whatever the stores are and do, whether there are services
at all, and whatever the request holds: a request to an endpoint that stands for an operation is
rejected for the first objection to it, with no call and no change; without an objection it is that
operation with the arguments that it names, call by call, and the reply is the operation's response
under its own code. Objections come in the order of their statuses, but for a body that cannot be
read. The health of the service is told without a call. A reply that cannot be sent is a failure
instead, after the same calls. -/
theorem answer_refines {e : Endpoint} {ids : List String} (b : Backend σ) (s : σ)
    (attached : Bool) (r : Request)
    (routed : destination r.method r.target.segments = .endpoint e ids) :
    (e.isOperation = true →
      match objections attached r (ids.headD "") e with
      | rejection :: _ => Rejects b s attached r rejection
      | [] => ∃ op, Serves r (ids.headD "") e op ∧ Performs b s attached r op) ∧
    (Body.read r.body ≠ .error .unreadable →
      Ranked [422, 400, 400, 503, 401] (objections attached r (ids.headD "") e)) ∧
    (e = .health → (reply attached r).trace b s = [] ∧
      (reply attached r).on b s = (.ok (.content 200 (.obj [("status", .str "ok")])), s)) ∧
    (e.isOperation = true → ∀ answer, ((reply attached r).on b s).1 = .ok answer →
      answer.Consistent) ∧
    Sends b s attached r := by
  have chosen : e.isOperation = true →
      match objections attached r (ids.headD "") e with
      | rejection :: _ => Rejects b s attached r rejection
      | [] => ∃ op, Serves r (ids.headD "") e op ∧ Performs b s attached r op := by
    intro operates
    have checked := operationOf_checked attached r (ids.headD "") e operates
    rw [← decide_of_routed routed] at checked
    cases against : objections attached r (ids.headD "") e with
    | nil =>
      rw [against] at checked
      obtain ⟨_, asked, op, rfl, serves⟩ := checked
      exact ⟨op, serves, performs_of_decide asked⟩
    | cons rejection others =>
      rw [against] at checked
      exact rejects_of_decide checked
  refine ⟨chosen, ranked_objections attached _ e, ?_, ?_, sends b s attached r⟩
  · rintro rfl
    have done : reply attached r = pure (.content 200 (.obj [("status", .str "ok")])) := by
      unfold reply
      rw [decide_of_routed routed]
      rfl
    rw [done]
    exact ⟨rfl, rfl⟩
  · intro operates answer replied
    have settled := chosen operates
    split at settled
    next => exact settled.consistent replied
    next =>
      obtain ⟨op, -, performs⟩ := settled
      exact performs.consistent replied

end Requests

/-- One user, and nothing else. -/
def peopled : World := { World.empty with graph := Graph.ofFollows ["ann"] [] }

/-- A follow. The name of the acting user is not ASCII, and neither is one of the blanks around it.
-/
def following : Request :=
  { method := "POST", path := "/follow/bob", query := "", user := some "\u00a0é ", body := none }

/-- The operation is done as it stands in the request; without services there is none. -/
theorem answer_refines_following :
    destination following.method following.target.segments = .endpoint .follow ["bob"] ∧
    Performs World.backend peopled true following (.follow "é" "bob") ∧
    Rejects World.backend peopled false following .noServices := by
  have routed : destination following.method following.target.segments =
      .endpoint .follow ["bob"] := by decide +kernel
  have unopposed : objections true following "bob" .follow = [] := by decide +kernel
  obtain ⟨done, -⟩ := answer_refines World.backend peopled true following routed
  obtain ⟨refused, -⟩ := answer_refines World.backend peopled false following routed
  refine ⟨routed, ?_, refused rfl⟩
  have performed := done rfl
  rw [show (["bob"].headD "") = "bob" from rfl, unopposed] at performed
  obtain ⟨_, serves, performs⟩ := performed
  cases serves with | follow acting
  have named : following.actor = "é" := by decide +kernel
  rw [acting.stripped, named] at performs
  exact performs

/-- A new name for a user, half of a pair of surrogates. -/
def unpairing : Request :=
  { method := "PUT", path := "/users/ann", query := "", user := none
    body := some (.text "\x7b\"user_id\": \"ann\", \"username\": \"\\ud800\"\x7d") }

def tagging (body : String) : Request :=
  { method := "PUT", path := "/interests", query := "", user := some "ann",
    body := some (.text body) }

/-- A tag that is no text, and no number that JSON text has. -/
def innumerable : Request := tagging "\x7b\"interests\": [NaN]\x7d"

/-- Octets of another encoding, one too few. -/
def garbled : Request := tagging "\u0000aaaa"

/-- **Three ways out.** An operation without objections has been done and the name is stored, but
its envelope is never sent; a report of wrong types cannot show the value that it is about; and a
body that is no text in any encoding is refused as unreadable, not for its types. -/
theorem answer_unsent :
    (objections true unpairing "ann" .updateUser = [] ∧
      ((answer true unpairing).on World.backend peopled).1 =
        .error (.unencodable 0xD800 112 1) ∧
      (((answer true unpairing).on World.backend peopled).2.graph.stored? (.str "ann")).map
        (fun user => user.profile.username) = some (.unpaired [0xD800])) ∧
    ((objections true innumerable "" .setInterests).map
        (fun objection => objection.reply.status) = [422] ∧
      ((answer true innumerable).on World.backend peopled).1 = .error .notFinite) ∧
    ((answer true garbled).on World.backend peopled).1 =
      .ok (detail 400 "There was an error parsing the body") := by
  decide +kernel

end FollowGraph.Http
