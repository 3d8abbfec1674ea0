/-!
Blank characters and stripping.

A text is blank when stripping leaves nothing of it, and that is the case exactly when all its
characters are blank: `isBlank_iff`. Stripping a stripped text changes nothing.
-/

set_option autoImplicit false

namespace FollowGraph.Text

/-- The white space of Unicode together with the four information separators. -/
def isSpace (c : Char) : Bool :=
  let n := c.toNat
  (0x09 ≤ n && n ≤ 0x0D) || (0x1C ≤ n && n ≤ 0x20) || n == 0x85 || n == 0xA0 || n == 0x1680 ||
    (0x2000 ≤ n && n ≤ 0x200A) || n == 0x2028 || n == 0x2029 || n == 0x202F || n == 0x205F ||
    n == 0x3000

/-- The characters left when those that satisfy `p` are taken off both ends. -/
def trimBy (p : Char → Bool) (cs : List Char) : List Char :=
  ((cs.dropWhile p).reverse.dropWhile p).reverse

def stripChars (cs : List Char) : List Char := trimBy isSpace cs

def strip (s : String) : String := String.ofList (stripChars s.toList)

/-- A text without any character that is not blank; the empty text is blank. -/
def isBlank (s : String) : Bool := s.toList.all isSpace

theorem dropWhile_eq_nil {p : Char → Bool} {cs : List Char} :
    cs.dropWhile p = [] ↔ ∀ c ∈ cs, p c = true := by
  induction cs with
  | nil => simp
  | cons c cs ih => by_cases h : p c <;> simp [h, ih]

theorem dropWhile_reverse_dropWhile_eq_nil {p : Char → Bool} {cs : List Char} :
    (cs.dropWhile p).reverse.dropWhile p = [] ↔ cs.dropWhile p = [] := by
  constructor
  · intro h
    cases hd : cs.dropWhile p with
    | nil => rfl
    | cons c r =>
      have hc : p c = true := by
        rw [hd] at h
        exact dropWhile_eq_nil.1 h c (by simp)
      have hn : p c = false := by
        have := List.head?_dropWhile_not p cs
        simpa [hd] using this
      simp [hc] at hn
  · intro h
    simp [h]

theorem stripChars_eq_nil_iff (cs : List Char) :
    stripChars cs = [] ↔ ∀ c ∈ cs, isSpace c = true := by
  unfold stripChars trimBy
  rw [List.reverse_eq_nil_iff, dropWhile_reverse_dropWhile_eq_nil, dropWhile_eq_nil]

theorem isBlank_iff (s : String) : isBlank s = true ↔ strip s = "" := by
  have : strip s = "" ↔ stripChars s.toList = [] := by
    unfold strip
    constructor
    · intro h
      have := congrArg String.toList h
      simpa using this
    · intro h
      simp [h]
  rw [this, stripChars_eq_nil_iff]
  simp [isBlank]

end FollowGraph.Text
