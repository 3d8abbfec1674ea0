import FollowGraph.Json.Reader

/-!
Integers in a query.

A plain numeral is a minus sign or none, and then a zero alone or digits that do not begin with
zero. A text that is no plain numeral is tidied once: blanks around it, a plus sign, zeros before
the first digit, a fraction of zeros and single underscores between digits are taken away, and what
is left must be a plain numeral.

Zeros before the first digit may have underscores among them, and are also taken away before a
minus sign: `QueryInteger.withoutLeadingZeros?` has the rule.
-/

set_option autoImplicit false

namespace FollowGraph.Http.QueryInteger

inductive ReadError where
  | malformed
  /-- A plain numeral with more digits than are read. -/
  | tooLong
  deriving DecidableEq, Repr

/-- A plain numeral with digits and no zero before them. -/
def readDigits (negative : Bool) (cs : List Char) : Except ReadError Int :=
  let digits := cs.takeWhile Json.isDigit
  -- A run that is too long is found before anything that may stand after it.
  if Text.maxNumeralDigits < digits.length then .error .tooLong
  else if digits.length < cs.length then .error .malformed
  else
    let n : Int := Json.digitsValue digits
    .ok (if negative then -n else n)

def readUnsigned (negative : Bool) (cs : List Char) : Except ReadError Int :=
  match cs with
  | ['0'] => .ok 0
  | c :: _ => if '1' ≤ c && c ≤ '9' then readDigits negative cs else .error .malformed
  | [] => .error .malformed

def readPlain (cs : List Char) : Except ReadError Int :=
  match cs with
  | '-' :: rest => readUnsigned true rest
  | cs => readUnsigned false cs

/-! ## Tidying -/

/-- What is left after a zero: zeros and underscores are passed over up to the first other digit
or a minus sign. Before a point, or at the end, the last character passed over stays. -/
def afterZeros? (last : Char) : List Char → Option (List Char)
  | [] => some [last]
  | c :: rest =>
    if c == '0' || c == '_' then afterZeros? c rest
    else if ('1' ≤ c && c ≤ '9') || c == '-' then some (c :: rest)
    else if c == '.' then some (last :: c :: rest)
    else none

/-- A numeral without the zeros before its first digit; nothing when it begins with neither a digit
nor a minus sign, or when something else stands among the zeros. -/
def withoutLeadingZeros? (cs : List Char) : Option (List Char) :=
  match cs with
  | '0' :: rest => afterZeros? '0' rest
  | c :: rest => if ('1' ≤ c && c ≤ '9') || c == '-' then some (c :: rest) else none
  | [] => none

/-- A numeral without a fraction that has nothing but zeros, and at least one. -/
def withoutFraction (cs : List Char) : List Char :=
  match cs.dropWhile (· != '.') with
  | '.' :: '0' :: zeros => if zeros.all (· == '0') then cs.takeWhile (· != '.') else cs
  | _ => cs

/-- Whether underscores stand only one at a time and between other characters. -/
def hasSingleUnderscores : List Char → Bool
  | [] => true
  | [c] => c != '_'
  | '_' :: _ => false
  | _ :: '_' :: '_' :: _ => false
  | _ :: '_' :: rest => !rest.isEmpty && hasSingleUnderscores rest
  | _ :: rest => hasSingleUnderscores rest

def withoutUnderscores (cs : List Char) : List Char :=
  if hasSingleUnderscores cs then cs.filter (· != '_') else cs

def tidyUnsigned? (cs : List Char) : Option (List Char) :=
  (withoutLeadingZeros? cs).map fun cs => withoutUnderscores (withoutFraction cs)

def tidy? (cs : List Char) : Option (List Char) :=
  match Text.trimBy Text.isNumeralSpace cs with
  | '+' :: '-' :: _ => none
  | '+' :: rest => tidyUnsigned? rest
  | '-' :: rest => (tidyUnsigned? rest).map ('-' :: ·)
  | cs => tidyUnsigned? cs

def read (text : String) : Except ReadError Int :=
  match readPlain text.toList with
  | .ok n => .ok n
  | .error .tooLong => .error .tooLong
  | .error .malformed =>
    match tidy? text.toList with
    | none => .error .malformed
    | some cs =>
      match readPlain cs with
      | .ok n => .ok n
      | .error _ => .error .malformed

end FollowGraph.Http.QueryInteger
