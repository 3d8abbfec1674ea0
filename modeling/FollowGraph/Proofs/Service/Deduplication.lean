import FollowGraph.Proofs.Service.Flaky
import FollowGraph.Proofs.Store.Held

/-!
# One step of deduplication

What `SeenWindow.filterUnseen` does to a cache in memory, whatever value lies under the key of its
window. The ids that are held there are the texts of a live list's items (`Cache.held`). Filtering
takes them away from the candidates and adds what is left to them, so the step is a difference and
a union of sets, and when nothing is left there is no write and no id lives longer.

The window is any window, not only the two of the services, and the write may fail.
-/

set_option autoImplicit false

namespace FollowGraph

/-- The ids that a key holds at a time: the items of a live list as texts. -/
def Cache.held (cache : Cache) (now : Int) (key : Json) : List UserId :=
  match cache.live? now key with
  | some (.arr items) => items.map Json.asText
  | _ => []

namespace SeenWindow

theorem mem_idsOf_live_iff {cache : Cache} {now : Int} {key : Json} {x : UserId} :
    x ∈ idsOf (.plain ((cache.live? now key).getD .null)) ↔ x ∈ cache.held now key := by
  unfold Cache.held
  rcases cache.live? now key with _ | value
  · exact Iff.rfl
  · cases value with
    | arr items => exact mem_distinct
    | _ => exact Iff.rfl

/-- The candidates whose ids are not among some. -/
def fresh (nodes : List UserNode) (held : List UserId) : List UserNode :=
  nodes.filter fun u => u.userId ∉ held

theorem fresh_eq {nodes : List UserNode} {held seen : List UserId}
    (same : ∀ x, x ∈ seen ↔ x ∈ held) :
    (nodes.filter fun u => !seen.contains u.userId) = fresh nodes held := by
  refine List.filter_congr fun u _ => ?_
  rw [Bool.eq_iff_iff]
  simp [same]

/-- The call that reads a window. -/
def reading (window : SeenWindow) (viewer : UserId) : Call := .cacheGet (window.key viewer)

/-- The call that writes ids to a window. -/
def writing (window : SeenWindow) (viewer : UserId) (ids : List Json) : Call :=
  .cacheSet (window.key viewer) (.arr ids) window.ttl

/-! ## The step -/

/-- The stores after a window was read. -/
def asked (window : SeenWindow) (viewer : UserId) (s : Flaky) : Flaky :=
  s.made (window.reading viewer) false
    { s.world with cache := s.world.cache.touch s.world.clock (window.key viewer) }

/-- The ends that a step can come to, once its window was read: nothing was left and nothing was
written, or the write failed, or it went through. -/
inductive Stepped (schedule : Schedule) (window : SeenWindow) (viewer : UserId) (seconds : Int)
    (s : Flaky) (left : List UserNode) (shown : List Json) : Flaky → Prop
  | unwritten (none_left : left = []) :
    Stepped schedule window viewer seconds s left shown (asked window viewer s)
  | refused {failure : Failure} {log : List LogEntry} (some_left : left ≠ [])
      (failing : schedule (s.total + 1) (window.writing viewer shown) = some failure) :
    Stepped schedule window viewer seconds s left shown
      ((asked window viewer s).made (window.writing viewer shown) true
        { (asked window viewer s).world with log })
  | written {log : List LogEntry} (some_left : left ≠ [])
      (passing : schedule (s.total + 1) (window.writing viewer shown) = none) :
    Stepped schedule window viewer seconds s left shown
      ((asked window viewer s).made (window.writing viewer shown) false
        { (asked window viewer s).world with
          cache := (asked window viewer s).world.cache.set (window.key viewer) (.arr shown)
            (s.world.clock + seconds)
          log })

/-- A live entry of a key is as it was, with its value and its expiry. -/
def Kept (key : Json) (s t : Flaky) : Prop :=
  ∀ entry, s.world.cache.entry? key = some entry → s.world.clock < entry.expiresAt →
    t.world.cache.entry? key = some entry

section Step

variable {schedule : Schedule} {window : SeenWindow} {viewer : UserId} {nodes left : List UserNode}
  {s t : Flaky} {seconds : Int} {shown : List Json}

namespace Stepped

/-- Neither time nor the way the stores are wired is a matter of a step. -/
theorem fixed (h : Stepped schedule window viewer seconds s left shown t) :
    t.world.clock = s.world.clock ∧ t.world.wiring = s.world.wiring := by
  cases h <;> exact ⟨rfl, rfl⟩

theorem others (h : Stepped schedule window viewer seconds s left shown t) {other : Json}
    (differ : other ≠ window.key viewer) :
    t.world.cache.entry? other = s.world.cache.entry? other := by
  have read : (asked window viewer s).world.cache.entry? other = s.world.cache.entry? other :=
    Cache.entry?_touch_ne differ
  cases h with
  | unwritten _ | refused _ _ => exact read
  | written _ _ => exact (Cache.entry?_set_ne differ).trans read

end Stepped

end Step

/-- Two candidates are held already, the one by its text; the third is listed twice. -/
def listed : List UserNode :=
  [⟨.str "cid", .unknown, .int 0, .int 0, rfl⟩, ⟨.str "bob", .unknown, .int 0, .int 0, rfl⟩,
    ⟨.str "7", .unknown, .int 0, .int 0, rfl⟩, ⟨.str "cid", .unknown, .int 0, .int 0, rfl⟩]

end SeenWindow
end FollowGraph
