import FollowGraph.Json.Reader
import FollowGraph.Text.Utf8

/-!
Request targets as the service receives them: a path whose percent signs are resolved already, and a
query in which they are not.
-/

set_option autoImplicit false

namespace FollowGraph.Http

/-- The octets of an ASCII text with its percent signs resolved. A percent sign without two
hexadecimal digits stands for itself. -/
def percentOctets : List Char → List Nat
  | '%' :: a :: b :: rest =>
    match Json.hexValue? a, Json.hexValue? b with
    | some high, some low => (high * 16 + low) :: percentOctets rest
    | _, _ => '%'.toNat :: percentOctets (a :: b :: rest)
  | c :: rest => c.toNat :: percentOctets rest
  | [] => []

/-- Decodes the stretches of ASCII between other characters, each by itself. The stretch so far is
held back, its last character first. -/
def percentDecodeAfter (held : List Char) : List Char → List Char
  | [] => Text.decodeUtf8 (percentOctets held.reverse)
  | c :: rest =>
    if c.toNat < 0x80 then percentDecodeAfter (c :: held) rest
    else Text.decodeUtf8 (percentOctets held.reverse) ++ c :: percentDecodeAfter [] rest

def percentDecode (cs : List Char) : List Char := percentDecodeAfter [] cs

/-- The parts of a list between separators; one part more than there are separators. -/
def splitAt (separator : Char) : List Char → List (List Char)
  | [] => [[]]
  | c :: rest =>
    match splitAt separator rest with
    | [] => [[c]]
    | part :: parts => if c == separator then [] :: part :: parts else (c :: part) :: parts

/-! ## Targets -/

structure Target where
  /-- The segments of the path after its leading slash. -/
  segments : List (List Char)
  /-- The parameters in order, a later one of a name after an earlier one. -/
  query : List (String × String)
  deriving DecidableEq

/-- A name or value in a query: plus signs stand for blanks, then percent signs are resolved. -/
def decodeParameter (cs : List Char) : String :=
  String.ofList (percentDecode (cs.map fun c => if c == '+' then ' ' else c))

/-- The parameters of a query. One without an equals sign has an empty value. -/
def parseQuery (cs : List Char) : List (String × String) :=
  ((splitAt '&' cs).filter fun part => !part.isEmpty).map fun part =>
    (decodeParameter (part.takeWhile (· != '=')),
      decodeParameter ((part.dropWhile (· != '=')).drop 1))

/-- The segments of a path. One without a leading slash has none and leads nowhere. -/
def pathSegments : List Char → List (List Char)
  | '/' :: rest => splitAt '/' rest
  | _ => []

def Target.ofParts (path query : String) : Target :=
  { segments := pathSegments path.toList
    query := parseQuery query.toList }

/-- The value of a parameter, the last one of its name. -/
def Target.parameter? (t : Target) (name : String) : Option String :=
  (t.query.reverse.find? (·.1 == name)).map (·.2)

end FollowGraph.Http
