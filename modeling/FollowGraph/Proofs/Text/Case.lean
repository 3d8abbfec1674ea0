import FollowGraph.Text.Case
import FollowGraph.Text.Occurs

/-!
# Lower case of a part of a text

Lower case goes character by character but for the capital sigma, which becomes the final small
sigma at the end of a word and the other one elsewhere. Where a word ends is seen from what stands
before and after. So a text that occurs in another need not occur there any more when both are put
into lower case: one of its sigmas can be at the end of a word in one of the two and not in the
other.

`KeepsSigmas` says of a text that it occurs where this does not happen, and `lowerBetween_eq_iff`
that it occurs in lower case at the same place just then. Texts without a capital sigma keep them,
and so do whole words.
-/

set_option autoImplicit false

namespace FollowGraph.Text

/-- Whether a sigma is final that stands after the reversed first text and before the second. -/
def endsWord (before after : List Char) : Bool := meetsCased before && !meetsCased after

/-- Lower case of the second text where it stands: after the reversed first one and before the
third. -/
def lowerBetween : List Char → List Char → List Char → List Char
  | _, [], _ => []
  | before, c :: rest, after =>
    (if c == 'Σ' then [if endsWord before (rest ++ after) then 'ς' else 'σ'] else lowerChar c) ++
      lowerBetween (c :: before) rest after

theorem lowerAfter_append (before cs after : List Char) :
    lowerAfter before (cs ++ after) =
      lowerBetween before cs after ++ lowerAfter (cs.reverse ++ before) after := by
  induction cs generalizing before with
  | nil => rfl
  | cons c rest ih =>
    rw [List.cons_append, lowerAfter, ih, lowerBetween, List.reverse_cons, List.append_assoc,
      List.append_assoc]
    rfl

theorem lowerChars_eq_lowerBetween (cs : List Char) : lowerChars cs = lowerBetween [] cs [] := by
  have whole := lowerAfter_append [] cs []
  rwa [List.append_nil, lowerAfter, List.append_nil] at whole

/-- A sigma of a text is its first character or one of the rest. -/
theorem forall_sigma_cons_iff {c : Char} {rest : List Char} {P : List Char → List Char → Prop} :
    (∀ p q, c :: rest = p ++ 'Σ' :: q → P p q) ↔
      (c = 'Σ' → P [] rest) ∧ ∀ p q, rest = p ++ 'Σ' :: q → P (c :: p) q := by
  constructor
  · refine fun h => ⟨?_, fun p q split => h (c :: p) q (by rw [split, List.cons_append])⟩
    rintro rfl
    exact h [] rest rfl
  · rintro ⟨first, later⟩ p q split
    rcases List.cons_eq_append_iff.1 split with ⟨rfl, same⟩ | ⟨more, rfl, further⟩
    · obtain ⟨rfl, rfl⟩ := List.cons.inj same
      exact first rfl
    · exact later more q further

theorem sigma_eq_iff {a b : Bool} :
    ((if a then 'ς' else 'σ') = if b then 'ς' else 'σ') ↔ a = b := by
  cases a <;> cases b <;> decide

/-- Lower case depends on the surroundings only through the sigmas. -/
theorem lowerBetween_congr_iff {before before' after after' cs : List Char} :
    lowerBetween before cs after = lowerBetween before' cs after' ↔
      ∀ p q, cs = p ++ 'Σ' :: q →
        endsWord (p.reverse ++ before) (q ++ after) =
          endsWord (p.reverse ++ before') (q ++ after') := by
  -- What stands before a character grows along the text, and what stands after it is the same
  -- suffix on both sides. So the first character is compared at once, and only a sigma can differ.
  induction cs generalizing before before' with
  | nil => simp [lowerBetween]
  | cons c rest ih =>
    have next :
        lowerBetween (c :: before) rest after = lowerBetween (c :: before') rest after' ↔ _ := ih
    rw [forall_sigma_cons_iff, lowerBetween, lowerBetween]
    simp only [List.reverse_cons, List.append_assoc, List.singleton_append, List.reverse_nil,
      List.nil_append, ← next]
    by_cases sigma : c = 'Σ'
    · simp only [sigma, beq_self_eq_true, if_true, List.singleton_append, List.cons.injEq,
        sigma_eq_iff, forall_const]
    · simp only [beq_false_of_ne sigma, Bool.false_eq_true, if_false, List.append_cancel_left_eq,
        sigma, false_imp_iff, true_and]

/-! ## Sigmas that are kept -/

/-- Every sigma of the second text is at the end of a word after the first text and before the
third just when it is where the text stands alone. -/
def KeepsSigmas (before cs after : List Char) : Prop :=
  ∀ p q, cs = p ++ 'Σ' :: q →
    endsWord (p.reverse ++ before.reverse) (q ++ after) = endsWord p.reverse q

theorem lowerBetween_eq_iff {before cs after : List Char} :
    lowerBetween before.reverse cs after = lowerChars cs ↔ KeepsSigmas before cs after := by
  rw [lowerChars_eq_lowerBetween, lowerBetween_congr_iff]
  simp only [List.append_nil]
  rfl

/-- The lower case of a text in three parts is that of its parts, each where it stands. -/
theorem lowerChars_append_append (before cs after : List Char) :
    lowerChars (before ++ cs ++ after) =
      lowerBetween [] before (cs ++ after) ++ lowerBetween before.reverse cs after ++
        lowerBetween (cs.reverse ++ before.reverse) after [] := by
  have last := lowerAfter_append (cs.reverse ++ before.reverse) after []
  rw [List.append_nil, lowerAfter, List.append_nil] at last
  rw [lowerChars, List.append_assoc, lowerAfter_append, lowerAfter_append, List.append_nil, last,
    List.append_assoc]

theorem KeepsSigmas.isInfix {before cs after : List Char} (h : KeepsSigmas before cs after) :
    lowerChars cs <:+: lowerChars (before ++ cs ++ after) := by
  rw [lowerChars_append_append, lowerBetween_eq_iff.2 h]
  exact List.infix_append _ _ _

theorem keepsSigmas_of_not_mem {cs : List Char} (h : 'Σ' ∉ cs) (before after : List Char) :
    KeepsSigmas before cs after := by
  rintro p q rfl
  exact absurd (by simp) h

/-! ## Whole words -/

theorem meetsCased_cons (c : Char) (cs : List Char) :
    meetsCased (c :: cs) = if isCaseIgnorable c then meetsCased cs else isCased c := by
  unfold meetsCased
  by_cases ignored : isCaseIgnorable c = true
  · rw [List.dropWhile_cons_of_pos ignored, if_pos ignored]
  · rw [List.dropWhile_cons_of_neg ignored, if_neg ignored]

/-- What is met first is in the nearer text, unless all of that is ignored. -/
theorem meetsCased_append (cs others : List Char) :
    meetsCased (cs ++ others) =
      if cs.all isCaseIgnorable then meetsCased others else meetsCased cs := by
  induction cs with
  | nil => rfl
  | cons c rest ih =>
    rw [List.cons_append, meetsCased_cons, meetsCased_cons, List.all_cons, ih]
    by_cases ignored : isCaseIgnorable c = true <;> simp [ignored]

theorem meetsCased_of_ignored {cs : List Char} (h : cs.all isCaseIgnorable = true) :
    meetsCased cs = false := by
  have alone := meetsCased_append cs []
  rwa [List.append_nil, if_pos h] at alone

/-- Nothing is seen past a text beyond which there is nothing cased. -/
theorem meetsCased_append_of_uncased {others : List Char} (h : meetsCased others = false)
    (cs : List Char) : meetsCased (cs ++ others) = meetsCased cs := by
  rw [meetsCased_append]
  split
  · rename_i ignored
    rw [h, meetsCased_of_ignored ignored]
  · rfl

/-- A text with nothing cased next to it keeps its sigmas. -/
theorem keepsSigmas_of_apart {before after : List Char}
    (starts : meetsCased before.reverse = false) (ends : meetsCased after = false)
    (cs : List Char) : KeepsSigmas before cs after := by
  intro p q _
  rw [endsWord, endsWord, meetsCased_append_of_uncased starts, meetsCased_append_of_uncased ends]

end FollowGraph.Text
