import FollowGraph.Failure
import FollowGraph.Json.Writer

/-!
What can be sent as JSON text: values whose numbers are all finite and whose texts have no lone
surrogate. Sent text has no blanks between its parts and keeps characters beyond ASCII as they are;
a lone surrogate is reported by its position in that text.
-/

set_option autoImplicit false

namespace FollowGraph.Json

def isFiniteNumber : Json → Bool
  | .float (.infinite _) | .float .nan => false
  | _ => true

mutual

def isFinite : Json → Bool
  | .arr items => areFinite items
  | .obj members => haveFinite members
  | value => isFiniteNumber value

def areFinite : List Json → Bool
  | [] => true
  | item :: rest => isFinite item && areFinite rest

def haveFinite : List (String × Json) → Bool
  | [] => true
  | (_, value) :: rest => isFinite value && haveFinite rest

end

/-! ## Compact text, as code points -/

/-- A code point in a text that is sent: only quotes, backslashes and control characters are
escaped. -/
def sentPoint (point : Nat) : List Nat :=
  if point < 0x20 || point == '"'.toNat || point == '\\'.toNat then
    (writeChar (Char.ofNat point)).map Char.toNat
  else [point]

def sentPoints (points : List Nat) : List Nat :=
  '"'.toNat :: points.flatMap sentPoint ++ ['"'.toNat]

def sentString (s : String) : List Nat := sentPoints (s.toList.map Char.toNat)

mutual

def compact : Json → List Nat
  | .str s => sentString s
  | .unpaired points => sentPoints points
  | .arr items => '['.toNat :: compactItems items ++ [']'.toNat]
  | .obj members => '\x7b'.toNat :: compactMembers members ++ ['\x7d'.toNat]
  | value => (writeChars value).map Char.toNat

def compactItems : List Json → List Nat
  | [] => []
  | [item] => compact item
  | item :: rest => compact item ++ ','.toNat :: compactItems rest

def compactMembers : List (String × Json) → List Nat
  | [] => []
  | [(key, value)] => sentString key ++ ':'.toNat :: compact value
  | (key, value) :: rest =>
    sentString key ++ ':'.toNat :: compact value ++ ','.toNat :: compactMembers rest

end

end FollowGraph.Json

namespace FollowGraph.Http

/-- The first run of code points that cannot be sent: its first point, its position, its length. -/
def firstRun? (unsendable : Nat → Bool) (points : List Nat) : Option (Nat × Nat × Nat) :=
  match points.dropWhile (!unsendable ·) with
  | [] => none
  | first :: rest =>
    let position := (points.takeWhile (!unsendable ·)).length
    some (first, position, 1 + (rest.takeWhile unsendable).length)

/-- Requires a value to be sendable. Numbers are judged before texts. -/
def requireContent (value : Json) : Except Failure Unit :=
  if !value.isFinite then .error .notFinite
  else
    match firstRun? Json.isSurrogate value.compact with
    | none => .ok ()
    | some (first, position, count) => .error (.unencodable first position count)

end FollowGraph.Http
