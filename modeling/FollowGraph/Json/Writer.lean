import FollowGraph.Json.Basic
import FollowGraph.Number.Shortest
import FollowGraph.Text.Quoted

/-!
JSON text: a blank after every comma and colon, only printable ASCII, every other character as
`\u` and four hexadecimal digits, two of them for a character beyond the basic plane. Numbers
that are not finite are written `NaN`, `Infinity` and `-Infinity`.
-/

set_option autoImplicit false

namespace FollowGraph.Json

def writeInt (n : Int) : List Char :=
  if n < 0 then '-' :: Nat.toDigits 10 n.natAbs else Nat.toDigits 10 n.natAbs

def writeFloat : Binary64 → List Char
  | .finite negative significand exponent =>
    let text := Binary64.magnitudeText significand exponent
    if negative then '-' :: text else text
  | .infinite false => "Infinity".toList
  | .infinite true => "-Infinity".toList
  | .nan => "NaN".toList

def unicodeEscape (unit : Nat) : List Char := '\\' :: 'u' :: Text.hexDigits 4 unit

def writeChar (c : Char) : List Char :=
  let n := c.toNat
  if c == '"' || c == '\\' then ['\\', c]
  else if c == '\n' then ['\\', 'n']
  else if c == '\r' then ['\\', 'r']
  else if c == '\t' then ['\\', 't']
  else if n == 0x08 then ['\\', 'b']
  else if n == 0x0C then ['\\', 'f']
  else if 0x20 ≤ n && n < 0x7F then [c]
  else if n < 0x10000 then unicodeEscape n
  else
    unicodeEscape (0xD800 + (n - 0x10000) / 0x400) ++
      unicodeEscape (0xDC00 + (n - 0x10000) % 0x400)

/-- A code point as text: a surrogate, which is no character, has the form of an escape. -/
def writePoint (point : Nat) : List Char :=
  if isSurrogate point then unicodeEscape point else writeChar (Char.ofNat point)

def writeString (s : String) : List Char := '"' :: s.toList.flatMap writeChar ++ ['"']

mutual

def writeChars : Json → List Char
  | .null => "null".toList
  | .bool true => "true".toList
  | .bool false => "false".toList
  | .int n => writeInt n
  | .float x => writeFloat x
  | .str s => writeString s
  | .unpaired points => '"' :: points.flatMap writePoint ++ ['"']
  | .arr items => '[' :: writeItems items ++ [']']
  | .obj members => '{' :: writeMembers members ++ ['}']

def writeItems : List Json → List Char
  | [] => []
  | [item] => writeChars item
  | item :: rest => writeChars item ++ ',' :: ' ' :: writeItems rest

def writeMembers : List (String × Json) → List Char
  | [] => []
  | [(key, value)] => writeString key ++ ':' :: ' ' :: writeChars value
  | (key, value) :: rest =>
    writeString key ++ ':' :: ' ' :: writeChars value ++ ',' :: ' ' :: writeMembers rest

end

def write (value : Json) : String := String.ofList (writeChars value)

end FollowGraph.Json
