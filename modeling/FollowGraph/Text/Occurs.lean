/-!
Occurrence of one list inside another, such as of a text inside a text, item for item. `occursIn_iff` gives the
meaning: the second list splits into something, the first list, and something more.
-/

set_option autoImplicit false

namespace FollowGraph.Text

variable {α : Type} [BEq α]

def startsWith : List α → List α → Bool
  | [], _ => true
  | _ :: _, [] => false
  | a :: needle, b :: rest => a == b && startsWith needle rest

def occursIn (needle : List α) : List α → Bool
  | [] => needle.isEmpty
  | c :: rest => startsWith needle (c :: rest) || occursIn needle rest

theorem startsWith_iff [LawfulBEq α] {needle cs : List α} :
    startsWith needle cs = true ↔ ∃ after, cs = needle ++ after := by
  induction needle generalizing cs with
  | nil => simp [startsWith]
  | cons a needle ih =>
    cases cs with
    | nil => simp [startsWith]
    | cons b rest =>
      simp only [startsWith, Bool.and_eq_true, beq_iff_eq, ih, List.cons_append, List.cons.injEq]
      constructor
      · rintro ⟨rfl, after, rfl⟩
        exact ⟨after, rfl, rfl⟩
      · rintro ⟨after, rfl, rfl⟩
        exact ⟨rfl, after, rfl⟩

theorem occursIn_iff [LawfulBEq α] {needle cs : List α} :
    occursIn needle cs = true ↔ ∃ before after, cs = before ++ needle ++ after := by
  induction cs with
  | nil => cases needle <;> simp [occursIn]
  | cons c rest ih =>
    simp only [occursIn, Bool.or_eq_true, startsWith_iff, ih]
    constructor
    · rintro (⟨after, h⟩ | ⟨before, after, rfl⟩)
      · exact ⟨[], after, by simpa using h⟩
      · exact ⟨c :: before, after, by simp⟩
    · rintro ⟨before, after, h⟩
      cases before with
      | nil => exact .inl ⟨after, by simpa using h⟩
      | cons b before =>
        simp only [List.cons_append, List.cons.injEq] at h
        exact .inr ⟨before, after, by simpa using h.2⟩

end FollowGraph.Text
