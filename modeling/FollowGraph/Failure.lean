import FollowGraph.Json.Display

/-!
What can go wrong below a public operation, as causes. The wording of each stands in
`Failure.message` alone.
-/

set_option autoImplicit false

namespace FollowGraph

inductive Failure where
  -- Users
  | blankUserId
  | unknownField (name : String)
  | missingUserId
  /-- A user that is no object, given the name of its kind. -/
  | notFields (kind : String)
  -- Look-ups
  | missingKey (key : Json)
  | noRecord
  | notHashable (kind : String)
  | noProperty (kind property : String)
  | unknownRelationship (value : Json)
  | unknownDirection (value : Json)
  /-- A parameter that has the name under which its statement is handed over. -/
  | ambiguousQuery
  -- Numbers
  | divisionByZero
  | floatDivisionByZero
  /-- A page count beyond the largest binary64 number. -/
  | quotientTooLarge
  /-- An integer beyond the largest binary64 number. -/
  | integerTooLarge
  | malformedInteger (text : String)
  | integerTooLong (digits : Nat)
  | notNumeric (kind : String)
  | infiniteInteger
  | nanInteger
  | notOrdered (left right : String)
  | noOperator (operator left right : String)
  -- Lists and texts
  | notIterable (kind : String)
  | noLength (kind : String)
  | notRepeatable (kind : String)
  /-- A list or text repeated more often than anything can be counted. -/
  | tooManyItems
  /-- A list or text beyond what can be held. -/
  | tooLarge
  /-- A list or text continued by a value of another kind. -/
  | notContinued (kind other : String)
  | notIndex
  /-- A list that should give members with an item that is no pair: its position and length. -/
  | notPair (position length : Nat)
  /-- A list that should give members with an item that has no items itself. -/
  | notSequence (position : Nat)
  -- JSON text
  | notFinite
  /-- Code points that no encoding of a body has, from a position on. -/
  | unencodable (first : Nat) (position count : Nat)
  /-- Lists and objects inside one another beyond the depth that is read. -/
  | tooDeep (container : String)
  -- Requests that a client does not send
  /-- Code points that a header cannot hold, from a position on. -/
  | notAscii (first : Nat) (position count : Nat)
  | targetTooLong
  /-- A control character in a target, and its position. -/
  | controlInTarget (c : Char) (position : Nat)
  /-- A target without a host whose path begins as no path may. -/
  | misplacedStart (start : String)
  -- Stores
  /-- A failure of a store, of some kind and with a message of its own. -/
  | external (kind message : String)
  deriving DecidableEq, Repr

/-- Refuses a value that cannot be looked up: a list or an object. -/
def Json.requireHashable : Json → Except Failure Unit
  | .arr items => .error (.notHashable (Json.arr items).kindName)
  | .obj members => .error (.notHashable (Json.obj members).kindName)
  | _ => .ok ()

theorem Json.requireHashable_of_isText {value : Json} (h : value.isText = true) :
    value.requireHashable = .ok () := by
  cases value <;> first | rfl | cases h

namespace Failure

/-- Where a code point, or a run of several, cannot be encoded. -/
def unencodablePlace (first position count : Nat) : String :=
  if count = 1 then
    "character '" ++ String.ofList (Text.escapePoint first) ++ "' in position " ++
      toString position
  else
    "characters in position " ++ toString position ++ "-" ++ toString (position + count - 1)

def message : Failure → String
  | .blankUserId => "UserNode user_id must be non-empty."
  | .unknownField name =>
    "UserNode.__init__() got an unexpected keyword argument '" ++ name ++ "'"
  | .missingUserId => "UserNode.__init__() missing 1 required positional argument: 'user_id'"
  | .notFields kind =>
    "socialgraph.domain.entities.UserNode() argument after ** must be a mapping, not " ++ kind
  | .missingKey key => key.quoted
  | .noRecord => "'NoneType' object is not subscriptable"
  | .notHashable kind => "unhashable type: '" ++ kind ++ "'"
  | .noProperty kind property =>
    "'" ++ kind ++ "' object has no attribute '" ++ property ++ "'"
  | .unknownRelationship value => value.quoted ++ " is not a valid RelationshipType"
  | .unknownDirection value => value.quoted ++ " is not a valid Direction"
  | .ambiguousQuery =>
    "Neo4jGraphBackend._fetch_users() got multiple values for argument 'query'"
  | .divisionByZero => "division by zero"
  | .floatDivisionByZero => "float division by zero"
  | .quotientTooLarge => "integer division result too large for a float"
  | .integerTooLarge => "int too large to convert to float"
  | .malformedInteger text =>
    "invalid literal for int() with base 10: " ++
      String.ofList ((Text.quoteChars text.toList).take 200)
  | .integerTooLong digits =>
    "Exceeds the limit (4300 digits) for integer string conversion: value has " ++
      toString digits ++ " digits; use sys.set_int_max_str_digits() to increase the limit"
  | .notNumeric kind =>
    "int() argument must be a string, a bytes-like object or a real number, not '" ++ kind ++ "'"
  | .infiniteInteger => "cannot convert float infinity to integer"
  | .nanInteger => "cannot convert float NaN to integer"
  | .notOrdered left right =>
    "'<' not supported between instances of '" ++ left ++ "' and '" ++ right ++ "'"
  | .noOperator operator left right =>
    "unsupported operand type(s) for " ++ operator ++ ": '" ++ left ++ "' and '" ++ right ++ "'"
  | .notIterable kind => "'" ++ kind ++ "' object is not iterable"
  | .noLength kind => "object of type '" ++ kind ++ "' has no len()"
  | .notRepeatable kind => "can't multiply sequence by non-int of type '" ++ kind ++ "'"
  | .tooManyItems => "cannot fit 'int' into an index-sized integer"
  | .tooLarge => ""
  | .notContinued kind other =>
    "can only concatenate " ++ kind ++ " (not \"" ++ other ++ "\") to " ++ kind
  | .notIndex => "slice indices must be integers or None or have an __index__ method"
  | .notPair position length =>
    "dictionary update sequence element #" ++ toString position ++ " has length " ++
      toString length ++ "; 2 is required"
  | .notSequence position =>
    "cannot convert dictionary update sequence element #" ++ toString position ++ " to a sequence"
  | .notFinite => "Out of range float values are not JSON compliant"
  | .unencodable first position count =>
    "'utf-8' codec can't encode " ++ unencodablePlace first position count ++
      ": surrogates not allowed"
  | .notAscii first position count =>
    "'ascii' codec can't encode " ++ unencodablePlace first position count ++
      ": ordinal not in range(128)"
  | .targetTooLong => "URL too long"
  | .controlInTarget c position =>
    "Invalid non-printable ASCII character in URL, " ++ String.ofList (Text.quoteChars [c]) ++
      " at position " ++ toString position ++ "."
  | .misplacedStart start =>
    "Relative URLs cannot have a path starting with '" ++ start ++ "'"
  | .tooDeep container =>
    "maximum recursion depth exceeded while decoding a JSON " ++ container ++
      " from a unicode string"
  | .external _ message => message

end Failure
end FollowGraph
