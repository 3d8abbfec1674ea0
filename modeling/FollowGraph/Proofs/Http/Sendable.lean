import Mathlib.Data.List.TakeWhile
import FollowGraph.Http.Decision
import FollowGraph.Proofs.Json.RoundTrip

/-!
# Replies that can be sent

A reply is sent as JSON text, which cannot hold every value: no number that is not finite and no
lone surrogate. An array or object can be sent just if everything in it can
(`requireContent_arr_iff`, `requireContent_obj_iff`), so it is always a single number or text that
is in the way. One that the service itself makes up never is, so the rejections and the envelopes
without data always arrive. What came from outside may be: a value in the report of a wrong type is
the very one that was sent, and stored texts are as they were given.
-/

set_option autoImplicit false

namespace FollowGraph

namespace Json

/-! ## Texts without surrogates -/

/-- None of the code points is a surrogate. -/
def Whole (points : List Nat) : Prop := ∀ point ∈ points, isSurrogate point = false

theorem whole_nil : Whole [] := nofun

theorem whole_append {points others : List Nat} :
    Whole (points ++ others) ↔ Whole points ∧ Whole others := List.forall_mem_append

theorem whole_cons {c : Char} {points : List Nat} :
    Whole (c.toNat :: points) ↔ Whole points := by
  unfold Whole
  rw [List.forall_mem_cons]
  exact and_iff_right (isSurrogate_toNat c)

theorem whole_map_toNat (cs : List Char) : Whole (cs.map Char.toNat) := by
  intro point there
  obtain ⟨c, -, rfl⟩ := List.mem_map.1 there
  exact isSurrogate_toNat c

theorem whole_sentString (s : String) : Whole (sentString s) := by
  refine whole_append.2 ⟨whole_cons.2 ?_, whole_cons.2 whole_nil⟩
  intro point there
  obtain ⟨_, there, inside⟩ := List.mem_flatMap.1 there
  obtain ⟨c, -, rfl⟩ := List.mem_map.1 there
  unfold sentPoint at inside
  split at inside
  · exact whole_map_toNat _ _ inside
  · cases List.mem_singleton.1 inside
    exact isSurrogate_toNat c

theorem whole_compactItems (items : List Json) :
    Whole (compactItems items) ↔ ∀ item ∈ items, Whole item.compact := by
  induction items with
  | nil => simp only [compactItems, whole_nil, List.not_mem_nil, false_implies, implies_true]
  | cons item rest ih =>
    rw [List.forall_mem_cons, ← ih]
    cases rest with
    | nil => simp only [compactItems, whole_nil, and_true]
    | cons next rest => simp only [compactItems, whole_append, whole_cons]

theorem whole_compactMembers (members : List (String × Json)) :
    Whole (compactMembers members) ↔ ∀ m ∈ members, Whole m.2.compact := by
  induction members with
  | nil => simp only [compactMembers, whole_nil, List.not_mem_nil, false_implies, implies_true]
  | cons m rest ih =>
    rw [List.forall_mem_cons, ← ih]
    cases rest with
    | nil =>
      simp only [compactMembers, whole_append, whole_cons, whole_sentString, whole_nil, true_and,
        and_true]
    | cons next rest =>
      simp only [compactMembers, whole_append, whole_cons, whole_sentString, true_and]

/-! ## Finite numbers -/

theorem areFinite_iff (items : List Json) :
    areFinite items = true ↔ ∀ item ∈ items, item.isFinite = true := by
  induction items with
  | nil => simp [areFinite]
  | cons item rest ih => simp [areFinite, ih]

theorem haveFinite_iff (members : List (String × Json)) :
    haveFinite members = true ↔ ∀ m ∈ members, m.2.isFinite = true := by
  induction members with
  | nil => simp [haveFinite]
  | cons m rest ih => simp [haveFinite, ih]

end Json

namespace Http

open Json

/-! ## What can be sent -/

theorem firstRun?_eq_none_iff {unsendable : Nat → Bool} {points : List Nat} :
    firstRun? unsendable points = none ↔ ∀ point ∈ points, unsendable point = false := by
  have skipped : firstRun? unsendable points = none ↔ points.dropWhile (!unsendable ·) = [] := by
    unfold firstRun?
    cases points.dropWhile (!unsendable ·) <;> simp
  rw [skipped, List.dropWhile_eq_nil_iff]
  simp

theorem requireContent_eq_ok_iff {value : Json} :
    requireContent value = .ok () ↔ value.isFinite = true ∧ Whole value.compact := by
  rw [Whole, ← firstRun?_eq_none_iff]
  unfold requireContent
  cases value.isFinite with
  | false => simp
  | true => cases firstRun? isSurrogate value.compact <;> simp

theorem requireContent_arr_iff {items : List Json} :
    requireContent (.arr items) = .ok () ↔ ∀ item ∈ items, requireContent item = .ok () := by
  simp only [requireContent_eq_ok_iff, isFinite, areFinite_iff, compact, whole_append, whole_cons,
    whole_nil, and_true, whole_compactItems, forall_and]

theorem requireContent_obj_iff {members : List (String × Json)} :
    requireContent (.obj members) = .ok () ↔ ∀ m ∈ members, requireContent m.2 = .ok () := by
  simp only [requireContent_eq_ok_iff, isFinite, haveFinite_iff, compact, whole_append, whole_cons,
    whole_nil, and_true, whole_compactMembers, forall_and]

theorem requireContent_bool (b : Bool) : requireContent (.bool b) = .ok () :=
  requireContent_eq_ok_iff.2 ⟨rfl, whole_map_toNat _⟩

theorem requireContent_int (n : Int) : requireContent (.int n) = .ok () :=
  requireContent_eq_ok_iff.2 ⟨rfl, whole_map_toNat _⟩

theorem requireContent_str (s : String) : requireContent (.str s) = .ok () :=
  requireContent_eq_ok_iff.2 ⟨rfl, whole_sentString s⟩

/-- A response without data can be sent, whatever its message says. -/
theorem requireContent_plain {r : Response} {text : String} (message : r.message = .str text)
    (data : r.data = .null) (error : r.error = .null) : requireContent r.toJson = .ok () := by
  have shape : r.toJson = .obj [("success", .bool r.success), ("statusCode", .int r.statusCode),
      ("message", .str text)] := by
    simp [Response.toJson, message, data, error, Value.isNull, Value.null]
  rw [shape, requireContent_obj_iff]
  simp only [List.forall_mem_cons]
  exact ⟨requireContent_bool _, requireContent_int _, requireContent_str _, nofun⟩

/-! ## Replies -/

/-- What becomes of a reply: it arrives, unless it cannot be sent. -/
def send (reply : Reply) : Except Failure Reply :=
  (requireContent reply.sent).map fun _ => reply

theorem send_of_sendable {reply : Reply} (h : requireContent reply.sent = .ok ()) :
    send reply = .ok reply := by
  rw [send, h]
  rfl

theorem send_detail (status : Int) (text : String) :
    send (detail status text) = .ok (detail status text) := by
  refine send_of_sendable (requireContent_obj_iff.2 ?_)
  simp only [List.forall_mem_cons]
  exact ⟨requireContent_str text, nofun⟩

/-- Only the report of wrong types holds values from outside. -/
theorem send_rejection {rejection : Rejection} (h : ∀ errors, rejection ≠ .invalid errors) :
    send rejection.reply = .ok rejection.reply := by
  cases rejection with
  | invalid errors => exact absurd rfl (h errors)
  | refusedBody failure => exact send_of_sendable (requireContent_plain rfl rfl rfl)
  | redirect => rfl
  | _ => exact send_detail _ _

end Http
end FollowGraph
