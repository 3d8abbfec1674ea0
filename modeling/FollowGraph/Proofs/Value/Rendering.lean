import FollowGraph.Proofs.Http.Sendable

/-!
# Rendering replaces entities where they stand

The data of an envelope may hold entities in lists, in tuples, in records and in pages, however
deep. What its rendering is made of is said place by place (`Value.RendersAs`): at every place of
the data there is in the rendering what the value there becomes, an array of the same length, an
object with the same keys, or for an entity its own members. No other JSON fits
(`Value.rendersAs_iff`), so what holds at every place is all that is to be known of a rendering.

Plain JSON is data too, and can be held in more than one way: as a whole, or as lists and records of
its parts (`Value.ofJson`). `Value.laidOut` leaves such differences out, and the one between a list
and a tuple.
-/

set_option autoImplicit false

namespace FollowGraph

/-! ## Places -/

theorem sizeOf_lt_of_mem_snd {α : Type} [SizeOf α] {members : List (String × α)} {value : α}
    (h : value ∈ members.map Prod.snd) : sizeOf value < sizeOf members := by
  obtain ⟨⟨key, part⟩, there, rfl⟩ := List.mem_map.1 h
  have smaller := List.sizeOf_lt_of_mem there
  rw [Prod.mk.sizeOf_spec] at smaller
  show sizeOf part < sizeOf members
  omega

namespace Json

/-- What stands directly in a value. -/
def parts : Json → List Json
  | .arr items => items
  | .obj members => members.map Prod.snd
  | _ => []

/-- What stands at a place: positions among the parts, the outermost first. -/
def at? : List Nat → Json → Option Json
  | [], value => some value
  | i :: rest, value => value.parts[i]?.bind (at? rest)

theorem sizeOf_lt_of_mem_parts {part value : Json} (h : part ∈ value.parts) :
    sizeOf part < sizeOf value := by
  cases value with
  | arr items =>
    have smaller : sizeOf part < sizeOf items := List.sizeOf_lt_of_mem h
    rw [arr.sizeOf_spec]
    omega
  | obj members =>
    have smaller : sizeOf part < sizeOf members := sizeOf_lt_of_mem_snd h
    rw [obj.sizeOf_spec]
    omega
  | _ => cases h

end Json

namespace Value

/-- What stands directly in a value. A page has its list of users, and what it says of itself; a
user is not looked into. -/
def parts : Value → List Value
  | .plain value => value.parts.map plain
  | .list items | .tuple items => items
  | .record members => members.map Prod.snd
  | .entity (.page users pageMeta) =>
    [.list (users.map entity), .plain ((pageMeta.map PageMeta.toJson).getD .null)]
  | .entity (.user _) | .entity (.enriched _) => []

/-- What stands at a place: positions among the parts, the outermost first. -/
def at? : List Nat → Value → Option Value
  | [], value => some value
  | i :: rest, value => value.parts[i]?.bind (at? rest)

/-! Induction on what stands in a value. Neither plain JSON nor an entity has other values among its
fields, so either has an induction of its own that goes in front. -/

theorem byParts_plain {motive : Value → Prop} (step : ∀ v, (∀ x ∈ v.parts, motive x) → motive v)
    (value : Json) : motive (.plain value) := by
  refine step _ fun x there => ?_
  obtain ⟨part, inside, rfl⟩ := List.mem_map.1 there
  exact byParts_plain step part
termination_by sizeOf value
decreasing_by exact Json.sizeOf_lt_of_mem_parts inside

theorem byParts_entity {motive : Value → Prop} (step : ∀ v, (∀ x ∈ v.parts, motive x) → motive v) :
    ∀ e : Entity, motive (.entity e)
  | .user _ => step _ fun _ there => absurd there List.not_mem_nil
  | .enriched _ => step _ fun _ there => absurd there List.not_mem_nil
  | .page users pageMeta => by
    refine step _ fun x there => ?_
    rcases List.mem_cons.1 there with rfl | there
    · refine step _ fun x there => ?_
      obtain ⟨user, inside, rfl⟩ := List.mem_map.1 there
      exact byParts_entity step user
    · cases List.mem_singleton.1 there
      exact byParts_plain step _
termination_by e => sizeOf e
decreasing_by
  have smaller : sizeOf user < sizeOf users := List.sizeOf_lt_of_mem inside
  rw [Entity.page.sizeOf_spec]
  omega

@[elab_as_elim]
theorem byParts {motive : Value → Prop} (step : ∀ v, (∀ x ∈ v.parts, motive x) → motive v) :
    ∀ v, motive v
  | .plain value => byParts_plain step value
  | .list items => step _ fun x _ => byParts step x
  | .tuple items => step _ fun x _ => byParts step x
  | .record members => step _ fun x _ => byParts step x
  | .entity e => byParts_entity step e
termination_by v => sizeOf v
decreasing_by
  · have smaller : sizeOf x < sizeOf items := List.sizeOf_lt_of_mem ‹_›
    rw [list.sizeOf_spec]
    omega
  · have smaller : sizeOf x < sizeOf items := List.sizeOf_lt_of_mem ‹_›
    rw [tuple.sizeOf_spec]
    omega
  · have smaller : sizeOf x < sizeOf members := sizeOf_lt_of_mem_snd ‹_›
    rw [record.sizeOf_spec]
    omega

variable {v x : Value} {j : Json} {P : Value → Prop}

/-- It holds of the value, and of all that stands in it. -/
def Everywhere (P : Value → Prop) (v : Value) : Prop := ∀ place x, v.at? place = some x → P x

theorem everywhere_iff : v.Everywhere P ↔ P v ∧ ∀ x ∈ v.parts, x.Everywhere P := by
  constructor
  · refine fun h => ⟨h [] v rfl, fun x there place y found => ?_⟩
    obtain ⟨i, part⟩ := List.mem_iff_getElem?.1 there
    refine h (i :: place) y ?_
    rw [at?, part, Option.bind_some, found]
  · rintro ⟨here, inside⟩ (_ | ⟨i, place⟩) x found
    · cases found
      exact here
    · obtain ⟨part, there, found⟩ := Option.bind_eq_some_iff.1 found
      exact inside part (List.mem_of_getElem? there) place x found

/-- A way of holding plain JSON that holds its parts in the same way. -/
theorem at?_of_parts {f : Json → Value} (h : ∀ value, (f value).parts = value.parts.map f)
    (place : List Nat) (value : Json) : (f value).at? place = (value.at? place).map f := by
  induction place generalizing value with
  | nil => rfl
  | cons i place ih =>
    rw [at?, h, List.getElem?_map, Json.at?]
    cases value.parts[i]? with
    | none => rfl
    | some part => exact ih part

/-! ## What a value is rendered as -/

theorem renderItems_eq_map (items : List Value) : renderItems items = items.map render := by
  induction items with
  | nil => rfl
  | cons item rest ih => rw [renderItems, ih, List.map_cons]

theorem renderMembers_eq_map (members : List (String × Value)) :
    renderMembers members = members.map fun m => (m.1, m.2.render) := by
  induction members with
  | nil => rfl
  | cons m rest ih => rw [renderMembers, ih, List.map_cons]

/-- What a value becomes, without a look at what stands in it. -/
inductive Becomes : Value → Json → Prop
  | plain (value : Json) : Becomes (.plain value) value
  | list {items : List Value} {rendered : List Json} (length : rendered.length = items.length) :
    Becomes (.list items) (.arr rendered)
  | tuple {items : List Value} {rendered : List Json} (length : rendered.length = items.length) :
    Becomes (.tuple items) (.arr rendered)
  | record {members : List (String × Value)} {rendered : List (String × Json)}
    (keys : rendered.map Prod.fst = members.map Prod.fst) :
    Becomes (.record members) (.obj rendered)
  | entity (e : Entity) : Becomes (.entity e) e.toJson

/-- At every place of the value there is in the JSON what stands there becomes. -/
def RendersAs (v : Value) (j : Json) : Prop :=
  ∀ place x, v.at? place = some x → ∃ k, j.at? place = some k ∧ x.Becomes k

theorem becomes_render (v : Value) : v.Becomes v.render := by
  cases v with
  | plain value => exact .plain value
  | list items | tuple items =>
    constructor
    rw [renderItems_eq_map, List.length_map]
  | record members =>
    refine .record ?_
    rw [renderMembers_eq_map, List.map_map]
    rfl
  | entity e => exact .entity e

theorem parts_render (h : v.parts ≠ []) : v.render.parts = v.parts.map render := by
  cases v with
  | plain value =>
    rw [parts, List.map_map]
    exact (List.map_id _).symm
  | list items | tuple items => exact renderItems_eq_map items
  | record members =>
    rw [render, Json.parts, renderMembers_eq_map, parts, List.map_map, List.map_map]
    rfl
  | entity e =>
    cases e with
    | page users pageMeta =>
      have listed : Entity.listToJson users = renderItems (users.map entity) := by
        rw [Entity.listToJson_eq_map, renderItems_eq_map, List.map_map]
        rfl
      exact congrArg (fun items => [Json.arr items, _]) listed
    | _ => exact absurd rfl h

theorem at?_render {place : List Nat} (h : v.at? place = some x) :
    v.render.at? place = some x.render := by
  induction place generalizing v with
  | nil =>
    cases h
    rfl
  | cons i place ih =>
    obtain ⟨part, there, found⟩ := Option.bind_eq_some_iff.1 h
    have some_part : v.parts ≠ [] := List.ne_nil_of_mem (List.mem_of_getElem? there)
    rw [Json.at?, parts_render some_part, List.getElem?_map, there]
    exact ih found

theorem rendersAs_render (v : Value) : v.RendersAs v.render :=
  fun _ x found => ⟨x.render, at?_render found, x.becomes_render⟩

theorem RendersAs.becomes (h : v.RendersAs j) : v.Becomes j := by
  obtain ⟨k, here, becomes⟩ := h [] v rfl
  cases here
  exact becomes

theorem RendersAs.part (h : v.RendersAs j) {i : Nat} (there : v.parts[i]? = some x) :
    ∃ k, j.parts[i]? = some k ∧ x.RendersAs k := by
  have within (place : List Nat) (y : Value) (found : x.at? place = some y) :
      ∃ k, j.parts[i]?.bind (Json.at? place) = some k ∧ y.Becomes k := by
    refine h (i :: place) y ?_
    rw [at?, there, Option.bind_some, found]
  -- The part of the JSON is found at its own place, and all deeper ones are read in it.
  obtain ⟨_, found, -⟩ := within [] x rfl
  obtain ⟨k, part, -⟩ := Option.bind_eq_some_iff.1 found
  refine ⟨k, part, fun place y found => ?_⟩
  obtain ⟨l, there, becomes⟩ := within place y found
  rw [part] at there
  exact ⟨l, there, becomes⟩

/-- Parts that are as many, and each of which is rendered. -/
theorem map_render_eq {items : List Value} {rendered : List Json}
    (length : rendered.length = items.length)
    (each : ∀ (i : Nat) (x : Value), items[i]? = some x → rendered[i]? = some x.render) :
    items.map render = rendered := by
  refine List.ext_getElem? fun i => ?_
  rw [List.getElem?_map]
  cases there : items[i]? with
  | none =>
    rw [List.getElem?_eq_none_iff, ← length] at there
    rw [List.getElem?_eq_none there, Option.map_none]
  | some x => rw [each i x there, Option.map_some]

/-- Only one JSON fits at every place. -/
theorem RendersAs.render_eq (h : v.RendersAs j) : v.render = j := by
  induction v using byParts generalizing j with
  | step v ih =>
    have each (i : Nat) (x : Value) (there : v.parts[i]? = some x) :
        j.parts[i]? = some x.render := by
      obtain ⟨k, part, renders⟩ := h.part there
      rw [part, ih x (List.mem_of_getElem? there) renders]
    cases h.becomes with
    | plain value => rfl
    | list length | tuple length =>
      rw [render, renderItems_eq_map, map_render_eq length each]
    | @record members rendered keys =>
      -- Positions tell the values of the members; their keys come with the object.
      have values : (members.map Prod.snd).map render = rendered.map Prod.snd :=
        map_render_eq (by simpa using congrArg List.length keys) each
      rw [render, renderMembers_eq_map]
      refine congrArg Json.obj ((List.zip_of_prod ?_ ?_).trans (List.zip_of_prod keys rfl).symm)
      · rw [List.map_map]
        rfl
      · rw [← values, List.map_map, List.map_map]
        rfl
    | entity e => rfl

theorem rendersAs_iff : v.RendersAs j ↔ v.render = j :=
  ⟨RendersAs.render_eq, fun same => same ▸ v.rendersAs_render⟩

/-! ## Plain JSON, held as values -/

mutual

/-- Plain JSON as a value: arrays are lists and objects are records, down to what has no parts. -/
def ofJson : Json → Value
  | .arr items => .list (ofItems items)
  | .obj members => .record (ofMembers members)
  | value => .plain value

def ofItems : List Json → List Value
  | [] => []
  | item :: rest => ofJson item :: ofItems rest

def ofMembers : List (String × Json) → List (String × Value)
  | [] => []
  | (key, value) :: rest => (key, ofJson value) :: ofMembers rest

end

theorem ofItems_eq_map (items : List Json) : ofItems items = items.map ofJson := by
  induction items with
  | nil => rfl
  | cons item rest ih => rw [ofItems, ih, List.map_cons]

theorem ofMembers_eq_map (members : List (String × Json)) :
    ofMembers members = members.map fun m => (m.1, ofJson m.2) := by
  induction members with
  | nil => rfl
  | cons m rest ih => rw [ofMembers, ih, List.map_cons]

theorem parts_ofJson (value : Json) : (ofJson value).parts = value.parts.map ofJson := by
  cases value with
  | arr items => exact ofItems_eq_map items
  | obj members =>
    rw [ofJson, parts, Json.parts, ofMembers_eq_map, List.map_map, List.map_map]
    rfl
  | _ => rfl

theorem becomes_ofJson (value : Json) : (ofJson value).Becomes value := by
  cases value with
  | arr items =>
    refine .list ?_
    rw [ofItems_eq_map, List.length_map]
  | obj members =>
    refine .record ?_
    rw [ofMembers_eq_map, List.map_map]
    rfl
  | _ => exact .plain _

/-- Plain JSON is rendered as itself. -/
theorem render_ofJson (value : Json) : (ofJson value).render = value := by
  -- No induction on the JSON is needed, since each of its places is held as plain JSON again.
  refine RendersAs.render_eq fun place x found => ?_
  rw [at?_of_parts parts_ofJson] at found
  obtain ⟨k, there, rfl⟩ := Option.map_eq_some_iff.1 found
  exact ⟨k, there, becomes_ofJson k⟩

mutual

/-- The value with lists for its tuples, and with lists and records for plain JSON. -/
def laidOut : Value → Value
  | .plain value => ofJson value
  | .list items | .tuple items => .list (laidOutItems items)
  | .record members => .record (laidOutMembers members)
  | .entity e => .entity e

def laidOutItems : List Value → List Value
  | [] => []
  | item :: rest => laidOut item :: laidOutItems rest

def laidOutMembers : List (String × Value) → List (String × Value)
  | [] => []
  | (key, value) :: rest => (key, laidOut value) :: laidOutMembers rest

end

theorem laidOutItems_eq_map (items : List Value) : laidOutItems items = items.map laidOut := by
  induction items with
  | nil => rfl
  | cons item rest ih => rw [laidOutItems, ih, List.map_cons]

theorem laidOutMembers_eq_map (members : List (String × Value)) :
    laidOutMembers members = members.map fun m => (m.1, m.2.laidOut) := by
  induction members with
  | nil => rfl
  | cons m rest ih => rw [laidOutMembers, ih, List.map_cons]

/-- However data is laid out, it is rendered alike. -/
theorem render_laidOut (v : Value) : v.laidOut.render = v.render := by
  induction v using byParts with
  | step v ih =>
    cases v with
    | plain value => exact render_ofJson value
    | list items | tuple items =>
      rw [laidOut, render, render, laidOutItems_eq_map, renderItems_eq_map, renderItems_eq_map,
        List.map_map]
      exact congrArg Json.arr (List.map_congr_left ih)
    | record members =>
      rw [laidOut, render, render, laidOutMembers_eq_map, renderMembers_eq_map,
        renderMembers_eq_map, List.map_map]
      refine congrArg Json.obj (List.map_congr_left fun m there => ?_)
      exact congrArg (Prod.mk m.1) (ih m.2 (List.mem_map_of_mem there))
    | entity e => rfl

/-- What is laid out as plain JSON is rendered as that JSON. -/
theorem render_eq_of_laidOut (h : v.laidOut = ofJson j) : v.render = j := by
  rw [← render_laidOut, h, render_ofJson]

theorem everywhere_plain {value : Json} (h : ∀ k, P (.plain k)) : (plain value).Everywhere P := by
  intro place x found
  rw [at?_of_parts fun _ => rfl] at found
  obtain ⟨k, -, rfl⟩ := Option.map_eq_some_iff.1 found
  exact h k

theorem ofJson_ne_entity (value : Json) (e : Entity) : ofJson value ≠ .entity e := by
  cases value <;> exact nofun

/-- Data is left as it is, up to how it is laid out, just if there are no entities in it. -/
theorem laidOut_eq_ofJson_render_iff (v : Value) :
    v.laidOut = ofJson v.render ↔ v.Everywhere fun x => ∀ e, x ≠ .entity e := by
  induction v using byParts with
  | step v ih =>
    cases v with
    | plain value => exact iff_of_true rfl (everywhere_plain fun _ => nofun)
    | list items | tuple items =>
      rw [everywhere_iff, laidOut, render, ofJson, laidOutItems_eq_map, renderItems_eq_map,
        ofItems_eq_map, List.map_map, list.injEq, List.map_inj_left, and_iff_right nofun]
      exact forall₂_congr ih
    | record members =>
      rw [everywhere_iff, laidOut, render, ofJson, laidOutMembers_eq_map, renderMembers_eq_map,
        ofMembers_eq_map, List.map_map, record.injEq, List.map_inj_left, and_iff_right nofun,
        parts, List.forall_mem_map]
      refine forall₂_congr fun m there => ?_
      rw [← ih m.2 (List.mem_map_of_mem there), Function.comp, Prod.mk.injEq]
      exact and_iff_right rfl
    | entity e =>
      refine iff_of_false (fun same => ofJson_ne_entity _ e same.symm) fun none_there => ?_
      exact none_there [] (.entity e) rfl e rfl

/-! ## Sending what was rendered -/

open Http

theorem requireContent_iff_parts (h : j.parts ≠ []) :
    requireContent j = .ok () ↔ ∀ part ∈ j.parts, requireContent part = .ok () := by
  cases j with
  | arr items => exact requireContent_arr_iff
  | obj members => rw [requireContent_obj_iff, Json.parts, List.forall_mem_map]
  | _ => exact absurd rfl h

/-- Rendered data can be sent just if everything in it that has no parts can. -/
theorem requireContent_render_iff (v : Value) :
    requireContent v.render = .ok () ↔
      v.Everywhere fun x => x.parts = [] → requireContent x.render = .ok () := by
  induction v using byParts with
  | step v ih =>
    rw [everywhere_iff]
    by_cases alone : v.parts = []
    · simp [alone]
    · have rendered : v.render.parts ≠ [] := by
        rw [parts_render alone]
        exact mt List.map_eq_nil_iff.1 alone
      rw [requireContent_iff_parts rendered, parts_render alone, List.forall_mem_map,
        and_iff_right fun none_there => absurd none_there alone]
      exact forall₂_congr ih

theorem isNull_iff (v : Value) : v.isNull = true ↔ v = .null := by
  cases v with
  | plain value => cases value <;> simp [isNull, null]
  | _ => simp [isNull, null]

/-- Only null is rendered as null. -/
theorem render_eq_null_iff (v : Value) : v.render = .null ↔ v = .null := by
  cases v with
  | entity e => cases e <;> simp [render, null, Entity.toJson, UserNode.toJson, EnrichedUser.toJson]
  | _ => simp [render, null]

end Value

/-! ## Envelopes -/

namespace Response

open Http

theorem field?_data (r : Response) :
    r.toJson.field? "data" = if r.data.isNull then none else some r.data.render := by
  by_cases data : r.data.isNull = true <;> by_cases error : r.error = .null <;>
    simp [toJson, Json.field?, data, error, List.lookup_cons]

theorem field?_error (r : Response) :
    r.toJson.field? "error" = if r.error = .null then none else some r.error := by
  by_cases data : r.data.isNull = true <;> by_cases error : r.error = .null <;>
    simp [toJson, Json.field?, data, error, List.lookup_cons]

theorem toJson_congr {r : Response} {w : Value} (h : w.render = r.data.render) :
    { r with data := w }.toJson = r.toJson := by
  have null : w.isNull = r.data.isNull := by
    rw [Bool.eq_iff_iff, Value.isNull_iff, Value.isNull_iff, ← Value.render_eq_null_iff, h,
      Value.render_eq_null_iff]
  simp only [toJson, h, null]

/-- A member that is left out only where it can be sent makes no difference. -/
theorem requireContent_optional {p : Prop} [Decidable p] {m : String × Json}
    (left_out : p → requireContent m.2 = .ok ()) :
    (∀ x ∈ if p then [] else [m], requireContent x.2 = .ok ()) ↔ requireContent m.2 = .ok () := by
  split
  · rename_i out
    exact iff_of_true nofun (left_out out)
  · exact List.forall_mem_singleton

theorem requireContent_toJson_iff (r : Response) :
    requireContent r.toJson = .ok () ↔ requireContent r.message = .ok () ∧
      requireContent r.data.render = .ok () ∧ requireContent r.error = .ok () := by
  have data (none_there : r.data.isNull = true) : requireContent r.data.render = .ok () := by
    rw [(Value.isNull_iff _).1 none_there]
    rfl
  have error (none_there : r.error = .null) : requireContent r.error = .ok () := by
    rw [none_there]
    rfl
  unfold toJson
  rw [requireContent_obj_iff, List.forall_mem_append, List.forall_mem_append,
    requireContent_optional data, requireContent_optional error]
  simp only [List.forall_mem_cons, requireContent_bool, requireContent_int, true_and, and_assoc,
    List.not_mem_nil, false_implies, implies_true]

/-- **Rendering an envelope replaces the entities in its data, and nothing else.** There is a member
for the data and one for the error just if they are not null. At every place of the data, those on
pages included, the rendering has what stands there becomes: for an entity its own members, for a
list or tuple an array of its length, for a record an object with its keys, for plain JSON just
that; and no other JSON has it everywhere. As nothing but JSON comes of it, sending the envelope can
fail only at the message, at the error, or at something in the data that has no parts. The rendered
data may take the place of the data, in whatever way it is held, and the envelope is rendered alike.
The data is left as it is, up to tuples that become lists, just if there is no entity in it. -/
theorem replaces_entities (r : Response) :
    (r.toJson.field? "success" = some (.bool r.success) ∧
      r.toJson.field? "statusCode" = some (.int r.statusCode) ∧
      r.toJson.field? "message" = some r.message) ∧
    ((r.toJson.field? "data" = none ↔ r.data = .null) ∧
      ∀ j, r.toJson.field? "data" = some j ↔ r.data ≠ .null ∧ r.data.RendersAs j) ∧
    (∀ j, r.toJson.field? "error" = some j ↔ r.error ≠ .null ∧ r.error = j) ∧
    (requireContent r.toJson = .ok () ↔ requireContent r.message = .ok () ∧
      (r.data.Everywhere fun x => x.parts = [] → requireContent x.render = .ok ()) ∧
      requireContent r.error = .ok ()) ∧
    (∀ w : Value, w.laidOut = .ofJson r.data.render → { r with data := w }.toJson = r.toJson) ∧
    (r.data.laidOut = .ofJson r.data.render ↔ r.data.Everywhere fun x => ∀ e, x ≠ .entity e) := by
  refine ⟨⟨rfl, rfl, rfl⟩, ⟨?_, fun j => ?_⟩, fun j => ?_, ?_, fun w same => ?_, ?_⟩
  · rw [field?_data, ite_eq_left_iff, Value.isNull_iff]
    simp only [reduceCtorEq, imp_false, not_not]
  · rw [field?_data, Option.ite_none_left_eq_some, Option.some.injEq, Value.isNull_iff,
      Value.rendersAs_iff]
  · rw [field?_error, Option.ite_none_left_eq_some, Option.some.injEq]
  · rw [requireContent_toJson_iff, Value.requireContent_render_iff]
  · exact toJson_congr (Value.render_eq_of_laidOut same)
  · exact r.data.laidOut_eq_ofJson_render_iff

def host : UserNode :=
  { userId := .str "ada"
    profile := .unknown
    followingNumber := .int 1
    followersNumber := .int 0
    identifies := by decide }

def guest : EnrichedUser :=
  { user := host
    isFollowing := .bool true
    isFollower := .bool false
    isBlocked := .bool false
    isBlockedBy := .bool false
    mutualFollowersNumber := .int 0 }

/-- An envelope with entities in a tuple, in a list and on a page. -/
def gathering : Response :=
  .ok "Guests fetched successfully" (.record
    [("host", .tuple [.user host, .int 0]),
      ("guests", .list [.list [], .entity (.enriched guest), .plain (.arr [.str "music"])]),
      ("page", .entity (.page [.enriched guest] none))])

theorem replaces_entities_gathering :
    (∃ j, gathering.toJson.field? "data" = some j ∧ j.at? [0, 0] = some host.toJson ∧
      j.at? [1, 1] = some guest.toJson ∧ j.at? [1, 2, 0] = some (.str "music") ∧
      j.at? [2, 0, 0] = some guest.toJson) ∧
    { gathering with data := .ofJson gathering.data.render }.toJson = gathering.toJson := by
  obtain ⟨-, ⟨absent, present⟩, -, -, again, -⟩ := replaces_entities gathering
  refine ⟨?_, again _ rfl⟩
  obtain ⟨j, found⟩ := Option.ne_none_iff_exists'.1 (mt absent.1 nofun)
  obtain ⟨-, renders⟩ := (present j).1 found
  obtain ⟨_, inTuple, ⟨⟩⟩ := renders [0, 0] (.user host) rfl
  obtain ⟨_, inList, ⟨⟩⟩ := renders [1, 1] (.entity (.enriched guest)) rfl
  obtain ⟨_, asItWas, ⟨⟩⟩ := renders [1, 2, 0] (.plain (.str "music")) rfl
  obtain ⟨_, onPage, ⟨⟩⟩ := renders [2, 0, 0] (.entity (.enriched guest)) rfl
  exact ⟨j, found, inTuple, inList, asItWas, onPage⟩

end Response
end FollowGraph
