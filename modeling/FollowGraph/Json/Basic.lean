import FollowGraph.Number.Binary64

/-!
JSON values. Integers are unbounded and apart from binary64 numbers; an object keeps its members
in order. Equality is decidable.

A text is a string of characters. JSON text can also spell half of a surrogate pair by itself,
which is no character: a text that holds one is kept as the list of its code points
(`Json.unpaired`), so it stays apart from every string.
-/

set_option autoImplicit false

namespace FollowGraph

inductive Json where
  | null
  | bool (value : Bool)
  | int (value : Int)
  | float (value : Binary64)
  | str (value : String)
  /-- A text with a surrogate that stands alone, as code points. -/
  | unpaired (points : List Nat)
  | arr (items : List Json)
  | obj (members : List (String × Json))
  deriving Repr, Inhabited

namespace Json

mutual

def same : Json → Json → Bool
  | .null, .null => true
  | .bool a, .bool b => a == b
  | .int a, .int b => a == b
  | .float a, .float b => decide (a = b)
  | .str a, .str b => a == b
  | .unpaired a, .unpaired b => a == b
  | .arr as, .arr bs => sameItems as bs
  | .obj as, .obj bs => sameMembers as bs
  | _, _ => false

def sameItems : List Json → List Json → Bool
  | [], [] => true
  | a :: as, b :: bs => same a b && sameItems as bs
  | _, _ => false

def sameMembers : List (String × Json) → List (String × Json) → Bool
  | [], [] => true
  | (k, a) :: as, (l, b) :: bs => k == l && same a b && sameMembers as bs
  | _, _ => false

end

mutual

theorem eq_of_same : ∀ (a b : Json), same a b = true → a = b
  | .null, b, h => by cases b <;> simp_all [same]
  | .bool _, b, h => by cases b <;> simp_all [same]
  | .int _, b, h => by cases b <;> simp_all [same]
  | .float _, b, h => by cases b <;> simp_all [same]
  | .str _, b, h => by cases b <;> simp_all [same]
  | .unpaired _, b, h => by cases b <;> simp_all [same]
  | .arr as, b, h => by
    cases b with
    | arr bs => rw [eq_of_sameItems as bs (by simpa [same] using h)]
    | _ => simp [same] at h
  | .obj as, b, h => by
    cases b with
    | obj bs => rw [eq_of_sameMembers as bs (by simpa [same] using h)]
    | _ => simp [same] at h

theorem eq_of_sameItems : ∀ (as bs : List Json), sameItems as bs = true → as = bs
  | [], bs, h => by cases bs <;> simp_all [sameItems]
  | a :: as, bs, h => by
    cases bs with
    | nil => simp [sameItems] at h
    | cons b bs =>
      simp only [sameItems, Bool.and_eq_true] at h
      rw [eq_of_same a b h.1, eq_of_sameItems as bs h.2]

theorem eq_of_sameMembers :
    ∀ (as bs : List (String × Json)), sameMembers as bs = true → as = bs
  | [], bs, h => by cases bs <;> simp_all [sameMembers]
  | (k, a) :: as, bs, h => by
    cases bs with
    | nil => simp [sameMembers] at h
    | cons b bs =>
      obtain ⟨l, b⟩ := b
      simp only [sameMembers, Bool.and_eq_true, beq_iff_eq] at h
      rw [h.1.1, eq_of_same a b h.1.2, eq_of_sameMembers as bs h.2]

end

mutual

theorem same_self : ∀ a : Json, same a a = true
  | .null => rfl
  | .bool _ => by simp [same]
  | .int _ => by simp [same]
  | .float _ => by simp [same]
  | .str _ => by simp [same]
  | .unpaired _ => by simp [same]
  | .arr as => by simp [same, sameItems_self as]
  | .obj as => by simp [same, sameMembers_self as]

theorem sameItems_self : ∀ as : List Json, sameItems as as = true
  | [] => rfl
  | a :: as => by simp [sameItems, same_self a, sameItems_self as]

theorem sameMembers_self : ∀ as : List (String × Json), sameMembers as as = true
  | [] => rfl
  | (_, a) :: as => by simp [sameMembers, same_self a, sameMembers_self as]

end

theorem same_iff {a b : Json} : same a b = true ↔ a = b :=
  ⟨eq_of_same a b, fun h => h ▸ same_self a⟩

instance : DecidableEq Json := fun _ _ => decidable_of_iff _ same_iff

def kindName : Json → String
  | .null => "NoneType"
  | .bool _ => "bool"
  | .int _ => "int"
  | .float _ => "float"
  | .str _ | .unpaired _ => "str"
  | .arr _ => "list"
  | .obj _ => "dict"

/-! ## Texts -/

def isHighSurrogate (point : Nat) : Bool := 0xD800 ≤ point && point ≤ 0xDBFF

def isLowSurrogate (point : Nat) : Bool := 0xDC00 ≤ point && point ≤ 0xDFFF

def isSurrogate (point : Nat) : Bool := isHighSurrogate point || isLowSurrogate point

/-- A character is no half of a pair. -/
theorem isSurrogate_toNat (c : Char) : isSurrogate c.toNat = false := by
  have valid : c.toNat < 0xD800 ∨ 0xDFFF < c.toNat ∧ c.toNat < 0x110000 := c.valid
  simp [isSurrogate, isHighSurrogate, isLowSurrogate]
  omega

/-- The character of a code point; a surrogate has none and is replaced. -/
def charOfPoint (point : Nat) : Char :=
  if isSurrogate point then '\uFFFD' else Char.ofNat point

def ofPoints (points : List Nat) : Json :=
  if points.any isSurrogate then .unpaired points
  else .str (String.ofList (points.map Char.ofNat))

/-- The code points of a text; no other value has any. -/
def points : Json → List Nat
  | .str s => s.toList.map Char.toNat
  | .unpaired points => points
  | _ => []

def isText : Json → Bool
  | .str _ | .unpaired _ => true
  | _ => false

/-! ## Numbers by their size -/

/-- The integer that a number is exactly; a truth value counts as zero or one. -/
def exactInt? : Json → Option Int
  | .int n => some n
  | .bool b => some (if b then 1 else 0)
  | .float x => x.exactInt?
  | _ => none

mutual

/-- Whether two values amount to the same: numbers count by their size alone, so `true`, `1` and
`1.0` are alike, and the members of an object may stand in any order. -/
def alike : Json → Json → Bool
  | .arr as, .arr bs => alikeItems as bs
  | .obj as, .obj bs => as.length == bs.length && alikeMembers as bs
  | a, b =>
    match a.exactInt?, b.exactInt? with
    | some m, some n => m == n
    | _, _ => same a b

def alikeItems : List Json → List Json → Bool
  | [], [] => true
  | a :: as, b :: bs => alike a b && alikeItems as bs
  | _, _ => false

def alikeMembers : List (String × Json) → List (String × Json) → Bool
  | [], _ => true
  | (key, a) :: as, bs =>
    match bs.lookup key with
    | some b => alike a b && alikeMembers as bs
    | none => false

end

/-- A value that counts as no value: null, false, zero, and empty text, array or object. -/
def isFalsy : Json → Bool
  | .null => true
  | .bool b => !b
  | .int n => n == 0
  | .float x => x.isZero
  | .str s => s.isEmpty
  | .unpaired points => points.isEmpty
  | .arr items => items.isEmpty
  | .obj members => members.isEmpty

/-- The value, or another one when it counts as no value. -/
def orElse (value other : Json) : Json := if value.isFalsy then other else value

/-- The members of an object in which a later member replaces an earlier one of its key, in the
earlier one's place. -/
def setMember (members : List (String × Json)) (key : String) (value : Json) :
    List (String × Json) :=
  if members.any (·.1 == key) then
    members.map fun m => if m.1 == key then (key, value) else m
  else members ++ [(key, value)]

/-- A member of an object; nothing for any other value. -/
def field? (key : String) : Json → Option Json
  | .obj members => members.lookup key
  | _ => none

end Json
end FollowGraph
