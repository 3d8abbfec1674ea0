import FollowGraph.Http.QueryInteger
import FollowGraph.Http.Target

/-!
Typed parameters of a query, and how a wrong one is reported.
-/

set_option autoImplicit false

namespace FollowGraph.Http

inductive Problem where
  | missing
  | notText
  | notList
  | notObject
  | notJson
  | notInteger
  | integerTooLong
  deriving DecidableEq, Repr

namespace Problem

def name : Problem → String
  | .missing => "missing"
  | .notText => "string_type"
  | .notList => "list_type"
  | .notObject => "model_attributes_type"
  | .notJson => "json_invalid"
  | .notInteger => "int_parsing"
  | .integerTooLong => "int_parsing_size"

def message : Problem → String
  | .missing => "Field required"
  | .notText => "Input should be a valid string"
  | .notList => "Input should be a valid list"
  | .notObject => "Input should be a valid dictionary or object to extract fields from"
  | .notJson => "JSON decode error"
  | .notInteger => "Input should be a valid integer, unable to parse string as an integer"
  | .integerTooLong => "Unable to parse input string as an integer, exceeded maximum size"

end Problem

/-- A value with a problem: where it stands, and the input that shows the problem. -/
structure FieldError where
  location : List Json
  problem : Problem
  input : Json
  deriving DecidableEq

/-- Place and problem alone. -/
def FieldError.toJson (e : FieldError) : Json :=
  .obj [("loc", .arr e.location), ("type", .str e.problem.name)]

def FieldError.detail (e : FieldError) : Json :=
  .obj [("type", .str e.problem.name), ("loc", .arr e.location),
    ("msg", .str e.problem.message), ("input", e.input)]

def integerParameter (t : Target) (name : String) (default : Int) : Except FieldError Int :=
  match t.parameter? name with
  | none => .ok default
  | some value =>
    let location : List Json := [.str "query", .str name]
    match QueryInteger.read value with
    | .ok n => .ok n
    | .error .malformed => .error { location, problem := .notInteger, input := .str value }
    | .error .tooLong => .error { location, problem := .integerTooLong, input := .str value }

def textParameter (t : Target) (name : String) : Except FieldError String :=
  match t.parameter? name with
  | some value => .ok value
  | none =>
    .error { location := [.str "query", .str name], problem := .missing, input := .null }

/-- The errors of a typed value, for a report of all of them together. -/
def errorsOf {ε α : Type} : Except ε α → List ε
  | .ok _ => []
  | .error e => [e]

/-- Two typed values, or the errors of both. -/
def both {ε α β : Type} (a : Except ε α) (b : Except ε β) : Except (List ε) (α × β) :=
  match a, b with
  | .ok a, .ok b => .ok (a, b)
  | a, b => .error (errorsOf a ++ errorsOf b)

def defaultPage : Int := 0

def defaultLimit : Int := 20

def pageParameters (t : Target) : Except (List FieldError) (Int × Int) :=
  both (integerParameter t "page" defaultPage) (integerParameter t "limit" defaultLimit)

end FollowGraph.Http
