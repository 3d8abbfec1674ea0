import FollowGraph.Json.Sequence
import FollowGraph.Number.Arithmetic
import FollowGraph.Number.Quotient

/-!
Arithmetic on values: the product of a page and a limit, the bounds that they give, and the number
of pages that a count fills. Numbers multiply and divide; a list or a text is repeated by a factor
that is an integer; everything else fails.
-/

set_option autoImplicit false

namespace FollowGraph.Json

-- Powers of integers are the core library's, whatever other powers are in scope.
attribute [local instance (2000)] instPowNat

/-- The integer that a value without a fraction is; truth values count as zero and one. -/
def index? : Json → Option Int
  | .int n => some n
  | .bool b => some (if b then 1 else 0)
  | _ => none

/-- The binary64 number nearest to a number; nothing for a value of another kind. -/
def toBinary64? : Json → Option (Except Failure Binary64)
  | .float x => some (.ok x)
  | value =>
    value.index?.map fun n =>
      match Binary64.ofInt? n with
      | some x => .ok x
      | none => .error .integerTooLarge

def isRepeatable : Json → Bool
  | .str _ | .unpaired _ | .arr _ => true
  | _ => false

/-- Nothing is counted up to this number or beyond. -/
def countBound : Int := 2 ^ (63 : Nat)

/-- The most items that can be held. -/
def capacity : Nat := 2 ^ (32 : Nat)

/-- A list so many times in a row, none at all for a count below one. -/
def times {α : Type} (items : List α) (count : Int) : Except Failure (List α) :=
  if countBound ≤ count then .error .tooManyItems
  else if items.isEmpty then .ok []
  else if capacity < items.length * count.toNat then .error .tooLarge
  else .ok (List.replicate count.toNat items).flatten

def repeated (value : Json) (count : Int) : Except Failure Json :=
  match value with
  | .arr items => .arr <$> times items count
  | text => ofPoints <$> times text.points count

def product (a b : Json) : Except Failure Json :=
  match a.index?, b.index? with
  | some m, some n => .ok (.int (m * n))
  | m, n =>
    match a.toBinary64?, b.toBinary64? with
    | some x, some y => do
      let x ← x
      let y ← y
      pure (.float (x.multiply y))
    | _, _ =>
      if a.isRepeatable then
        match n with
        | some count => repeated a count
        | none => .error (.notRepeatable b.kindName)
      else if b.isRepeatable then
        match m with
        | some count => repeated b count
        | none => .error (.notRepeatable a.kindName)
      else .error (.noOperator "*" a.kindName b.kindName)

/-- Why no bound comes from a product and a limit. -/
def boundFailure (skipped limit : Json) : Failure :=
  -- Sequences of one kind can be joined and numbers added; only then is the sum no index.
  if skipped.isRepeatable && skipped.kindName != limit.kindName then
    .notContinued skipped.kindName limit.kindName
  else .notIndex

/-- The bounds of a page: the items from the first up to the second are on it. -/
def pageBounds (page limit : Json) : Except Failure (Int × Int) := do
  let skipped ← page.product limit
  match skipped.index?, limit.index? with
  | some start, some size => pure (start, start + size)
  | _, _ => .error (boundFailure skipped limit)

@[simp] theorem pageBounds_int (page limit : Int) :
    pageBounds (.int page) (.int limit) = .ok (page * limit, page * limit + limit) := rfl

/-- The least integer that is at least a number. -/
def ceiling : Binary64 → Except Failure Int
  | .finite false significand exponent => .ok (Binary64.ceilMagnitude significand exponent)
  | .finite true significand exponent => .ok (-(Binary64.floorMagnitude significand exponent))
  | .infinite _ => .error .infiniteInteger
  | .nan => .error .nanInteger

/-- The number of pages that a count of items fills, the last one perhaps in part. -/
def pageCount (count limit : Json) : Except Failure Int :=
  match count.index?, limit.index? with
  | some m, some n =>
    match ceilQuotient m n with
    | .ok pages => .ok pages
    | .error .divisionByZero => .error .divisionByZero
    | .error .tooLarge => .error .quotientTooLarge
  | _, _ =>
    match count.toBinary64?, limit.toBinary64? with
    | some x, some y => do
      let x ← x
      let y ← y
      if y.isZero then .error .floatDivisionByZero else ceiling (x.divide y)
    | _, _ => .error (.noOperator "/" count.kindName limit.kindName)

end FollowGraph.Json
