import FollowGraph.Json.Display
import FollowGraph.Text.Numeral

/-!
Reading JSON text. Beyond the standard, `NaN`, `Infinity` and `-Infinity` are numbers; of two
members with one key the later value stands in the earlier place; an integer of more than 4300
digits is refused, and so is a value whose lists and objects lie deeper in one another than the
reader is told to follow. A surrogate that stands alone is kept in a text and replaced in a key.

Every function takes the characters still to be read and gives back those left over. The fuel
starts at twice the length of the text: a character read pays for at most two calls.
-/

set_option autoImplicit false

namespace FollowGraph.Json

/-- Why a text is no JSON. The place of a fault is told by how many characters, it included, are
left of the text. -/
inductive ReadError where
  | unexpected (remaining : Nat)
  | integerTooLong (digits : Nat)
  /-- A list or object too deep inside others, given which of the two. -/
  | tooDeep (container : String)
  deriving DecidableEq, Repr

/-- A value read and the characters after it. -/
abbrev ReadResult (α : Type) := Except ReadError (α × List Char)

def unexpectedAt {α : Type} (cs : List Char) : ReadResult α := .error (.unexpected cs.length)

def isJsonSpace (c : Char) : Bool := c == ' ' || c == '\t' || c == '\n' || c == '\r'

def skipSpace (cs : List Char) : List Char := cs.dropWhile isJsonSpace

def hexValue? (c : Char) : Option Nat :=
  if '0' ≤ c && c ≤ '9' then some (c.toNat - '0'.toNat)
  else if 'a' ≤ c && c ≤ 'f' then some (c.toNat - 'a'.toNat + 10)
  else if 'A' ≤ c && c ≤ 'F' then some (c.toNat - 'A'.toNat + 10)
  else none

/-- The number that four hexadecimal digits stand for. -/
def unit? (a b c d : Char) : Option Nat := do
  let a ← hexValue? a
  let b ← hexValue? b
  let c ← hexValue? c
  let d ← hexValue? d
  return ((a * 16 + b) * 16 + c) * 16 + d

def simpleEscape? : Char → Option Char
  | '"' => some '"'
  | '\\' => some '\\'
  | '/' => some '/'
  | 'b' => some '\x08'
  | 'f' => some '\x0c'
  | 'n' => some '\n'
  | 'r' => some '\r'
  | 't' => some '\t'
  | _ => none

/-- The second half of a surrogate pair, if one follows: its unit and the characters after it.
As after every such escape, at least one more character must follow. -/
def lowHalf (cs : List Char) : ReadResult (Option Nat) :=
  match cs with
  | '\\' :: 'u' :: a :: b :: c :: d :: e :: rest =>
    match unit? a b c d with
    | some unit =>
      if isLowSurrogate unit then .ok (some unit, e :: rest) else .ok (none, cs)
    | none => unexpectedAt ('u' :: a :: b :: c :: d :: e :: rest)
  | _ => .ok (none, cs)

/-- The code point that a backslash and the characters after it stand for. The text began at
`start`. -/
def escape (start : List Char) (cs : List Char) : ReadResult Nat :=
  match cs with
  | [] => unexpectedAt start
  -- A character must follow the four digits: at least the closing quote is missing otherwise.
  | 'u' :: a :: b :: c :: d :: e :: rest =>
    match unit? a b c d with
    | none => unexpectedAt cs
    | some unit =>
      if isHighSurrogate unit then
        match lowHalf (e :: rest) with
        | .error fault => .error fault
        | .ok (some low, after) =>
          .ok (0x10000 + (unit - 0xD800) * 0x400 + (low - 0xDC00), after)
        | .ok (none, after) => .ok (unit, after)
      else .ok (unit, e :: rest)
  | 'u' :: rest => unexpectedAt ('u' :: rest)
  | c :: rest =>
    match simpleEscape? c with
    | some image => .ok (image.toNat, rest)
    | none => unexpectedAt ('\\' :: c :: rest)

/-- The text up to its closing quote, after the code points already read, the last one first. -/
def stringBody (start : List Char) : Nat → List Nat → List Char → ReadResult Json
  | 0, _, _ => unexpectedAt start
  | fuel + 1, read, cs =>
    match cs with
    | [] => unexpectedAt start
    | '"' :: rest => .ok (ofPoints read.reverse, rest)
    | '\\' :: rest =>
      match escape start rest with
      | .error fault => .error fault
      | .ok (point, rest) => stringBody start fuel (point :: read) rest
    | c :: rest =>
      if c.toNat < 0x20 then unexpectedAt (c :: rest)
      else stringBody start fuel (c.toNat :: read) rest

def isDigit (c : Char) : Bool := '0' ≤ c && c ≤ '9'

def digitsValue (cs : List Char) : Nat := Text.ofDigits (cs.map fun c => c.toNat - '0'.toNat)

/-- The exponent of ten after an `e`; nothing when no digit follows. -/
def exponentPart (cs : List Char) : Option (Int × List Char) :=
  let signed (negative : Bool) (cs : List Char) : Option (Int × List Char) :=
    match cs.takeWhile isDigit with
    | [] => none
    | digits =>
      let n : Int := digitsValue digits
      some (if negative then -n else n, cs.dropWhile isDigit)
  match cs with
  | 'e' :: rest | 'E' :: rest =>
    match rest with
    | '-' :: rest => signed true rest
    | '+' :: rest => signed false rest
    | rest => signed false rest
  | _ => none

/-- The digits after a point; nothing when no digit follows. -/
def fractionPart (cs : List Char) : Option (List Char × List Char) :=
  match cs with
  | '.' :: rest =>
    match rest.takeWhile isDigit with
    | [] => none
    | digits => some (digits, rest.dropWhile isDigit)
  | _ => none

/-- The number whose integer part has been read. -/
def numberTail (negative : Bool) (whole : List Char) (cs : List Char) : ReadResult Json :=
  let fraction := fractionPart cs
  let afterFraction := (fraction.map (·.2)).getD cs
  let exponent := exponentPart afterFraction
  if fraction.isNone && exponent.isNone then
    if Text.maxNumeralDigits < whole.length then .error (.integerTooLong whole.length)
    else
      let n : Int := digitsValue whole
      .ok (.int (if negative then -n else n), cs)
  else
    let digits := (fraction.map (·.1)).getD []
    let place := (exponent.map (·.1)).getD 0 - digits.length
    .ok (.float (Binary64.ofDecimal negative (digitsValue (whole ++ digits)) place),
      (exponent.map (·.2)).getD afterFraction)

def number (cs : List Char) : ReadResult Json :=
  let negative := cs.head? == some '-'
  match (if negative then cs.tail else cs) with
  | '0' :: rest => numberTail negative ['0'] rest
  | c :: rest =>
    if isDigit c then
      numberTail negative (c :: rest.takeWhile isDigit) (rest.dropWhile isDigit)
    else unexpectedAt cs
  | [] => unexpectedAt cs

mutual

/-- A value in which lists and objects lie at most `depth` deep in one another. -/
def readValue : Nat → Nat → List Char → ReadResult Json
  | 0, _, cs => unexpectedAt cs
  | fuel + 1, depth, cs =>
    match cs with
    | '"' :: rest => stringBody cs fuel [] rest
    | '[' :: rest =>
      match depth, skipSpace rest with
      | 0, _ => .error (.tooDeep "array")
      | _, ']' :: rest => .ok (.arr [], rest)
      | depth + 1, rest => readItems fuel depth [] rest
    | '\x7b' :: rest =>
      match depth, skipSpace rest with
      | 0, _ => .error (.tooDeep "object")
      | _, '\x7d' :: rest => .ok (.obj [], rest)
      | depth + 1, rest => readMembers fuel depth [] rest
    | 'n' :: 'u' :: 'l' :: 'l' :: rest => .ok (.null, rest)
    | 't' :: 'r' :: 'u' :: 'e' :: rest => .ok (.bool true, rest)
    | 'f' :: 'a' :: 'l' :: 's' :: 'e' :: rest => .ok (.bool false, rest)
    | 'N' :: 'a' :: 'N' :: rest => .ok (.float .nan, rest)
    | 'I' :: 'n' :: 'f' :: 'i' :: 'n' :: 'i' :: 't' :: 'y' :: rest =>
      .ok (.float (.infinite false), rest)
    | '-' :: 'I' :: 'n' :: 'f' :: 'i' :: 'n' :: 'i' :: 't' :: 'y' :: rest =>
      .ok (.float (.infinite true), rest)
    | cs => number cs

/-- The items of a list from the next one on, after those already read, the last one first. -/
def readItems : Nat → Nat → List Json → List Char → ReadResult Json
  | 0, _, _, cs => unexpectedAt cs
  | fuel + 1, depth, read, cs =>
    match readValue fuel depth cs with
    | .error fault => .error fault
    | .ok (item, rest) =>
      match skipSpace rest with
      | ']' :: rest => .ok (.arr (item :: read).reverse, rest)
      | ',' :: rest => readItems fuel depth (item :: read) (skipSpace rest)
      | rest => unexpectedAt rest

/-- The members of an object from the next one on, after those already read. -/
def readMembers : Nat → Nat → List (String × Json) → List Char → ReadResult Json
  | 0, _, _, cs => unexpectedAt cs
  | fuel + 1, depth, read, cs =>
    match cs with
    | '"' :: rest =>
      match stringBody cs fuel [] rest with
      | .error fault => .error fault
      | .ok (key, rest) =>
        match skipSpace rest with
        | ':' :: rest =>
          match readValue fuel depth (skipSpace rest) with
          | .error fault => .error fault
          | .ok (value, rest) =>
            match skipSpace rest with
            | '\x7d' :: rest => .ok (.obj (setMember read key.display value), rest)
            | ',' :: rest =>
              readMembers fuel depth (setMember read key.display value) (skipSpace rest)
            | rest => unexpectedAt rest
        | rest => unexpectedAt rest
    | rest => unexpectedAt rest

end

/-- The value that the characters of a whole text stand for, if nothing in it is deeper than
`depth`. -/
def readChars (depth : Nat) (cs : List Char) : Except ReadError Json :=
  match readValue (2 * cs.length + 2) depth (skipSpace cs) with
  | .error fault => .error fault
  | .ok (value, rest) =>
    match skipSpace rest with
    | [] => .ok value
    | rest => .error (.unexpected rest.length)

/-- The value that a whole text stands for, however deep. -/
def read (s : String) : Except ReadError Json := readChars s.length s.toList

end FollowGraph.Json
