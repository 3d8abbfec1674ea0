import FollowGraph.Failure
import FollowGraph.Number.Arithmetic

/-!
The order of values: numbers by their exact size, truth values among them as zero and one; texts
by the codes of their characters; lists by their first items that differ. Values of other kinds, or
of two different ones, do not compare.

`Json.sorted` sorts values that may not compare. Texts always do, and are sorted by
`Json.sortTexts`, which has no failures.
-/

set_option autoImplicit false

namespace FollowGraph.Json

-- Lists are ordered as the core library has it, whatever other orders are in scope.
attribute [local instance (2000)] List.instLE List.decidableLE

/-- The exact size of a number or truth value. -/
def size? : Json → Option Size
  | .int n => some (.exact n 1)
  | .bool b => some (.exact (if b then 1 else 0) 1)
  | .float x => some (.ofBinary64 x)
  | _ => none

/-- The order of texts: by code points, a text before its continuations. -/
def textAtMost (a b : Json) : Bool := decide (a.points ≤ b.points)

mutual

def lessThan : Json → Json → Except Failure Bool
  | .arr as, .arr bs => lessItems as bs
  | a, b =>
    if a.isText && b.isText then .ok (!textAtMost b a)
    else
      match a.size?, b.size? with
      | some m, some n => .ok (m.lessThan n)
      | _, _ => .error (.notOrdered a.kindName b.kindName)

def lessItems : List Json → List Json → Except Failure Bool
  | _, [] => .ok false
  | [], _ :: _ => .ok true
  | a :: as, b :: bs => if a.alike b then lessItems as bs else lessThan a b

end

@[simp] theorem lessThan_int (m n : Int) : lessThan (.int m) (.int n) = .ok (decide (m < n)) := by
  simp [lessThan, isText, size?, Size.lessThan]

/-! ## Sorting -/

def sortTexts (texts : List Json) : List Json := texts.mergeSort textAtMost

/-- The position at which an item goes into a sorted list, after those that are not greater,
between two bounds. The item's own comparisons come first. -/
def insertionPoint (sorted : Array Json) (item : Json) :
    Nat → Nat → Nat → Except Failure Nat
  | 0, low, _ => .ok low
  | fuel + 1, low, high =>
    if low < high then do
      let middle := low + (high - low) / 2
      if ← item.lessThan (sorted[middle]?.getD .null) then
        insertionPoint sorted item fuel low middle
      else
        insertionPoint sorted item fuel (middle + 1) high
    else .ok low

/-- Puts the items of a list into a sorted list one after the other. -/
def insertAll (sorted : List Json) : List Json → Except Failure (List Json)
  | [] => .ok sorted
  | item :: rest => do
    let place ← insertionPoint sorted.toArray item sorted.length 0 sorted.length
    insertAll (sorted.take place ++ item :: sorted.drop place) rest

/-- The items after a value as long as each is less than the one before it, or as long as none
is, and the items after those. -/
def run (descending : Bool) (last : Json) : List Json → Except Failure (List Json × List Json)
  | [] => .ok ([], [])
  | item :: rest => do
    if (← item.lessThan last) == descending then
      let (others, rest) ← run descending item rest
      pure (item :: others, rest)
    else
      pure ([], item :: rest)

/-- The items of a list in ascending order, equal ones as they stood. It fails at the first two
items that do not compare: first each item is compared with the one before it, as long as they
stand in one order, then each further item with the middle of what is sorted already. -/
def sorted (items : List Json) : Except Failure (List Json) :=
  if items.all isText then .ok (sortTexts items)
  else
    match items with
    | first :: second :: rest => do
      let descending ← second.lessThan first
      let (begun, rest) ← run descending first (second :: rest)
      insertAll (if descending then (first :: begun).reverse else first :: begun) rest
    | _ => .ok items

theorem sorted_of_texts {items : List Json} (h : ∀ item ∈ items, item.isText = true) :
    sorted items = .ok (sortTexts items) := by
  simp only [sorted, List.all_eq_true.2 h, if_true]

end FollowGraph.Json
