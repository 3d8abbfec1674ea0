import FollowGraph.Store.Cache

/-!
# Entries of the cache

What each operation of the cache does to the entry of one key. Only the three that are given the
key itself touch it, and asking for an entry drops it only when it has expired, so what a key holds
at a time is the same before and after it is asked for.
-/

set_option autoImplicit false

namespace FollowGraph

section Lookup

variable {α β : Type} [BEq α] [LawfulBEq α]

theorem lookup_filter_ne (items : List (α × β)) {key other : α} (differ : key ≠ other) :
    (items.filter (·.1 != other)).lookup key = items.lookup key := by
  induction items with
  | nil => rfl
  | cons p rest ih =>
    obtain ⟨k, v⟩ := p
    by_cases same : k = other
    · subst same
      simp [List.lookup_cons, ih, beq_false_of_ne differ]
    · simp [List.lookup_cons, same, ih]

theorem lookup_filter_self (items : List (α × β)) (key : α) :
    (items.filter (·.1 != key)).lookup key = none := by
  rw [List.lookup_eq_none_iff]
  intro p hp
  have kept := (List.mem_filter.1 hp).2
  exact bne_iff_ne.2 (bne_iff_ne.1 kept).symm

theorem lookup_replace_ne (items : List (α × β)) (v : β) {key other : α}
    (differ : key ≠ other) :
    (items.map fun p => if p.1 == other then (other, v) else p).lookup key = items.lookup key := by
  induction items with
  | nil => rfl
  | cons p rest ih =>
    obtain ⟨k, u⟩ := p
    by_cases same : k = other
    · subst same
      simp [List.lookup_cons, ih, beq_false_of_ne differ]
    · simp [List.lookup_cons, same, ih]

theorem lookup_replace_self (items : List (α × β)) (v : β) {key : α}
    (there : items.any (·.1 == key) = true) :
    (items.map fun p => if p.1 == key then (key, v) else p).lookup key = some v := by
  induction items with
  | nil => cases there
  | cons p rest ih =>
    obtain ⟨k, u⟩ := p
    by_cases same : k = key
    · simp [same]
    · have later : rest.any (·.1 == key) = true := by simpa [same] using there
      simp [List.lookup_cons, same, beq_false_of_ne (Ne.symm same), ih later]

theorem lookup_filter [DecidableEq α] (items : List (α × β)) (key other : α) :
    (items.filter (·.1 != other)).lookup key = if key = other then none else items.lookup key := by
  split
  · rename_i same
    rw [same, lookup_filter_self]
  · rename_i differ
    exact lookup_filter_ne items differ

/-- What is found under a key once a value was put under one, in place of what was there or at the
end. -/
theorem lookup_put [DecidableEq α] (items : List (α × β)) (v : β) (key other : α) :
    (if items.any (·.1 == other) then
        items.map fun p => if p.1 == other then (other, v) else p
      else items ++ [(other, v)]).lookup key =
      if key = other then some v else items.lookup key := by
  by_cases there : items.any (·.1 == other) = true
  · rw [if_pos there]
    by_cases same : key = other
    · rw [if_pos same, same, lookup_replace_self items v there]
    · rw [if_neg same, lookup_replace_ne items v same]
  · rw [if_neg there, List.lookup_append]
    by_cases same : key = other
    · have none_there : items.lookup other = none := by
        rw [List.lookup_eq_none_iff]
        intro p hp
        refine bne_iff_ne.2 fun equal => there (List.any_eq_true.2 ⟨p, hp, ?_⟩)
        exact beq_iff_eq.2 equal.symm
      simp [same, none_there]
    · simp [same, List.lookup_cons, beq_false_of_ne same]

end Lookup

namespace Cache

variable {cache : Cache} {key other value : Json} {now time : Int} {entry : CacheEntry}

theorem entry?_delete (cache : Cache) (key other : Json) :
    entry? (cache.delete other) key = if key = other then none else cache.entry? key :=
  lookup_filter cache.entries key other

theorem entry?_delete_ne (differ : key ≠ other) :
    entry? (cache.delete other) key = cache.entry? key := by
  rw [entry?_delete, if_neg differ]

@[simp] theorem entry?_delete_self : entry? (cache.delete key) key = none := by
  rw [entry?_delete, if_pos rfl]

theorem entry?_touch_ne (differ : key ≠ other) :
    entry? (cache.touch now other) key = cache.entry? key := by
  unfold touch
  split
  · split
    · exact entry?_delete_ne differ
    · rfl
  · rfl

theorem entry?_set (cache : Cache) (key other value : Json) (time : Int) :
    entry? (cache.set other value time) key =
      if key = other then some ⟨value, time⟩ else cache.entry? key := by
  unfold set entry?
  rw [← lookup_put]
  dsimp only
  split <;> rfl

theorem entry?_set_ne (differ : key ≠ other) :
    entry? (cache.set other value time) key = cache.entry? key := by
  rw [entry?_set, if_neg differ]

theorem entry?_set_self : entry? (cache.set key value time) key = some ⟨value, time⟩ := by
  rw [entry?_set, if_pos rfl]

/-- Asking for a key keeps its entry as long as that has not expired. -/
theorem touch_eq_self (h : cache.entry? key = some entry) (alive : now < entry.expiresAt) :
    cache.touch now key = cache := by
  unfold touch
  rw [h]
  dsimp only
  rw [if_neg (by omega)]

/-- Asking for a key drops its entry if that has expired. -/
theorem entry?_touch_self :
    entry? (cache.touch now key) key =
      (cache.entry? key).filter fun entry => decide (now < entry.expiresAt) := by
  unfold touch
  cases there : cache.entry? key with
  | none => exact there
  | some entry =>
    dsimp only
    rw [Option.filter_some]
    by_cases expired : entry.expiresAt ≤ now
    · rw [if_pos expired, entry?_delete_self, if_neg (by simpa using expired)]
    · rw [if_neg expired, there, if_pos (by simpa using expired)]

/-- What is left after a key was asked for was there before. -/
theorem entry?_of_touch (h : entry? (cache.touch now key) key = some entry) :
    cache.entry? key = some entry := by
  rw [entry?_touch_self] at h
  exact (Option.filter_eq_some_iff.1 h).1

theorem live?_eq_some (h : cache.entry? key = some entry) (alive : now < entry.expiresAt) :
    cache.live? now key = some entry.value := by
  unfold live?
  rw [h]
  dsimp only
  rw [if_neg (by omega)]

end Cache
end FollowGraph
