import FollowGraph.Text.Blank

/-!
Integers written in text: blanks around it, a sign, digits of any script, single underscores
between digits. A numeral of more than 4300 digits is refused, whatever stands after it.
-/

set_option autoImplicit false

namespace FollowGraph.Text

/-- The zeros of the decimal digits; the other nine follow each zero. -/
def digitZeros : List Nat := [
    0x30, 0x660, 0x6F0, 0x7C0, 0x966, 0x9E6, 0xA66, 0xAE6, 0xB66, 0xBE6, 0xC66, 0xCE6, 0xD66,
    0xDE6, 0xE50, 0xED0, 0xF20, 0x1040, 0x1090, 0x17E0, 0x1810, 0x1946, 0x19D0, 0x1A80, 0x1A90,
    0x1B50, 0x1BB0, 0x1C40, 0x1C50, 0xA620, 0xA8D0, 0xA900, 0xA9D0, 0xA9F0, 0xAA50, 0xABF0, 0xFF10,
    0x104A0, 0x10D30, 0x11066, 0x110F0, 0x11136, 0x111D0, 0x112F0, 0x11450, 0x114D0, 0x11650,
    0x116C0, 0x11730, 0x118E0, 0x11950, 0x11C50, 0x11D50, 0x11DA0, 0x16A60, 0x16AC0, 0x16B50,
    0x1D7CE, 0x1D7D8, 0x1D7E2, 0x1D7EC, 0x1D7F6, 0x1E140, 0x1E2F0, 0x1E950, 0x1FBF0]

def digitValue? (c : Char) : Option Nat :=
  (digitZeros.find? fun first => first ≤ c.toNat && c.toNat ≤ first + 9).map (c.toNat - ·)

/-- The blanks around a numeral: those of `isSpace` without the information separators. -/
def isNumeralSpace (c : Char) : Bool :=
  isSpace c && !(0x1C ≤ c.toNat && c.toNat ≤ 0x1F)

/-- A text that is no integer, or an integer too long to be read. -/
inductive NumeralError where
  | malformed
  | tooLong (digits : Nat)
  deriving DecidableEq, Repr

def maxNumeralDigits : Nat := 4300

/-- The leading run of digits and underscores, each digit as its value. -/
def digitRun : List Char → List (Option Nat)
  | [] => []
  | c :: rest =>
    if c == '_' then none :: digitRun rest
    else
      match digitValue? c with
      | some d => some d :: digitRun rest
      | none => []

/-- No underscore stands first, last or beside another one. -/
def wellSpaced : List (Option Nat) → Bool
  | [] => false
  | [some _] => true
  | some _ :: none :: some d :: rest => wellSpaced (some d :: rest)
  | some _ :: some d :: rest => wellSpaced (some d :: rest)
  | _ => false

def ofDigits (digits : List Nat) : Nat := digits.foldl (fun n d => 10 * n + d) 0

/-- A numeral without sign; nothing may follow it. -/
def readDigits (cs : List Char) : Except NumeralError Nat :=
  let run := digitRun cs
  let digits := run.filterMap id
  -- Spacing is judged first, then the size, and only then what stands after the digits.
  if !wellSpaced run then .error .malformed
  else if maxNumeralDigits < digits.length then .error (.tooLong digits.length)
  else if run.length < cs.length then .error .malformed
  else .ok (ofDigits digits)

def readInteger (s : String) : Except NumeralError Int :=
  match trimBy isNumeralSpace s.toList with
  | '-' :: rest => (readDigits rest).map fun n => -(n : Int)
  | '+' :: rest => (readDigits rest).map Int.ofNat
  | cs => (readDigits cs).map Int.ofNat

end FollowGraph.Text
