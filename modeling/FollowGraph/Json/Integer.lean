import FollowGraph.Failure
import FollowGraph.Text.Numeral

/-!
The integer that a JSON value stands for: a number loses its fraction, a truth value counts as
zero or one, and a text is read as a numeral.
-/

set_option autoImplicit false

namespace FollowGraph.Json

def toInteger : Json → Except Failure Int
  | .int n => .ok n
  | .bool b => .ok (if b then 1 else 0)
  | .float .nan => .error .nanInteger
  | .float x =>
    match x.truncate? with
    | some n => .ok n
    | none => .error .infiniteInteger
  | .str s =>
    match Text.readInteger s with
    | .ok n => .ok n
    | .error .malformed => .error (.malformedInteger s)
    | .error (.tooLong digits) => .error (.integerTooLong digits)
  | value => .error (.notNumeric value.kindName)

end FollowGraph.Json
