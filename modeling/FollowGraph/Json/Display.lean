import FollowGraph.Json.Writer

/-!
The plain text of a value, as it stands in messages and among remembered ids: a text is itself;
inside a list or an object it is quoted, and truth values and null begin with a capital.
-/

set_option autoImplicit false

namespace FollowGraph.Json

def displayFloat : Binary64 → List Char
  | .finite negative significand exponent => writeFloat (.finite negative significand exponent)
  | .infinite false => "inf".toList
  | .infinite true => "-inf".toList
  | .nan => "nan".toList

/-- A text with lone surrogates between quotes: a surrogate is never printable. -/
def quotePoints (points : List Nat) : List Char :=
  let quote := Text.quoteFor (points.map charOfPoint)
  let image (point : Nat) : List Char :=
    if isSurrogate point then unicodeEscape point else Text.quoteChar quote (Char.ofNat point)
  quote :: points.flatMap image ++ [quote]

mutual

/-- How a value stands inside another one. -/
def nestedChars : Json → List Char
  | .null => "None".toList
  | .bool true => "True".toList
  | .bool false => "False".toList
  | .int n => writeInt n
  | .float x => displayFloat x
  | .str s => Text.quoteChars s.toList
  | .unpaired points => quotePoints points
  | .arr items => '[' :: nestedItems items ++ [']']
  | .obj members => '{' :: nestedMembers members ++ ['}']

def nestedItems : List Json → List Char
  | [] => []
  | [item] => nestedChars item
  | item :: rest => nestedChars item ++ ',' :: ' ' :: nestedItems rest

def nestedMembers : List (String × Json) → List Char
  | [] => []
  | [(key, value)] => Text.quoteChars key.toList ++ ':' :: ' ' :: nestedChars value
  | (key, value) :: rest =>
    Text.quoteChars key.toList ++ ':' :: ' ' :: nestedChars value ++
      ',' :: ' ' :: nestedMembers rest

end

/-- The plain text of a value. A lone surrogate in it is replaced. -/
def display : Json → String
  | .str s => s
  | .unpaired points => String.ofList (points.map charOfPoint)
  | value => String.ofList (nestedChars value)

/-- The plain text of a value as a value: a text stays what it is. -/
def asText : Json → Json
  | .str s => .str s
  | .unpaired points => .unpaired points
  | value => .str value.display

@[simp] theorem asText_str (s : String) : asText (.str s) = .str s := rfl

theorem isText_asText (value : Json) : value.asText.isText = true := by
  cases value <;> rfl

theorem asText_of_isText {value : Json} (h : value.isText = true) : value.asText = value := by
  cases value <;> first | rfl | cases h

@[simp] theorem display_asText (value : Json) : value.asText.display = value.display := by
  cases value <;> rfl

/-- The value as it stands inside another one. -/
def quoted (value : Json) : String := String.ofList value.nestedChars

/-- The text of a value with a string before it. -/
def precededBy (value : Json) (before : String) : Json :=
  match value.asText with
  | .unpaired points => .unpaired (before.toList.map Char.toNat ++ points)
  | text => .str (before ++ text.display)

/-- The text of a value with a string after it. -/
def followedBy (value : Json) (suffix : String) : Json :=
  match value.asText with
  | .unpaired points => .unpaired (points ++ suffix.toList.map Char.toNat)
  | text => .str (text.display ++ suffix)

/-- The text of a value as the key of a member: null and truth values are written as JSON. -/
def keyText : Json → String
  | .null => "null"
  | .bool true => "true"
  | .bool false => "false"
  | value => value.display

end FollowGraph.Json
