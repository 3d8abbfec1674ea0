import FollowGraph.Failure

/-!
The items of a value: those of a list, the characters of a text, the keys of an object. All other
values have none.
-/

set_option autoImplicit false

namespace FollowGraph.Json

def items? : Json → Option (List Json)
  | .arr items => some items
  | .str text => some (text.toList.map fun c => .str (String.singleton c))
  | .unpaired points => some (points.map fun point => ofPoints [point])
  | .obj members => some (members.map fun m => .str m.1)
  | _ => none

/-- The items of a value that must have some kind of items. -/
def items (value : Json) : Except Failure (List Json) :=
  match value.items? with
  | some items => .ok items
  | none => .error (.notIterable value.kindName)

def length (value : Json) : Except Failure Nat :=
  match value.items? with
  | some items => .ok items.length
  | none => .error (.noLength value.kindName)

@[simp] theorem items_arr (items : List Json) : (Json.arr items).items = .ok items := rfl

/-- Members given as a list of pairs, from the pair at a position on, after those already read. -/
def pairedMembers (read : List (String × Json)) :
    Nat → List Json → Except Failure (List (String × Json))
  | _, [] => .ok read
  | position, item :: rest =>
    match item.items? with
    | some [key, value] => do
      key.requireHashable
      pairedMembers (setMember read key.keyText value) (position + 1) rest
    | some parts => .error (.notPair position parts.length)
    | none => .error (.notSequence position)

/-- The members that a value stands for: those of an object, or the pairs that its items are. -/
def toMembers : Json → Except Failure (List (String × Json))
  | .obj members => .ok members
  | value => do
    let items ← value.items
    pairedMembers [] 0 items

end FollowGraph.Json
