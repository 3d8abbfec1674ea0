import FollowGraph.Proofs.Program.Footprint
import FollowGraph.Proofs.Program.Outcome

/-!
# The log changes nothing

`World.silent` answers as the stores do and keeps no log. Answers do not depend on the log, so a
program has the same result on both, and leaves the same stores behind but for the log. Runs are
computed on the silent stores, where a program that only reads leaves the world exactly as it was.
-/

set_option autoImplicit false

namespace FollowGraph.World

/-- The stores without a log. -/
def silent : Backend World := { answer, record := fun _ w => w }

@[simp] theorem silent_record (entry : LogEntry) (w : World) : silent.record entry w = w := rfl

/-- Everything but the log. -/
def unlogged (w : World) : World := { w with log := [] }

theorem recordDecoding_unlogged (w : World) (key : Json) (text : String) :
    (w.recordDecoding key text).unlogged = w.unlogged := by
  unfold recordDecoding
  split <;> rfl

/-- An answer that the log has no part in: the same, with the same stores afterwards. -/
def Alike (x y : Except Failure Value × World) : Prop :=
  x.1 = y.1 ∧ x.2.unlogged = y.2.unlogged

theorem cacheGet_unlogged (w : World) (key : Json) :
    Alike (w.unlogged.cacheGet key) (w.cacheGet key) := by
  unfold cacheGet
  cases hs : w.wiring.cacheOnServer with
  | true =>
    simp only [unlogged, hs, if_true]
    cases key.requireHashable with
    | error failure => exact ⟨rfl, rfl⟩
    | ok _ =>
      dsimp only
      cases (w.server.logged (.get key)).text? w.clock key with
      | none => exact ⟨rfl, rfl⟩
      | some text =>
        have here := recordDecoding_unlogged { w with server := w.server.logged (.get key) } key text
        have there := recordDecoding_unlogged
          { w.unlogged with server := w.server.logged (.get key) } key text
        exact ⟨rfl, there.trans here.symm⟩
  | false =>
    simp only [unlogged, hs]
    cases key.requireHashable with
    | error failure => exact ⟨rfl, rfl⟩
    | ok _ => exact ⟨rfl, rfl⟩

theorem cacheSet_unlogged (w : World) (key value ttl : Json) :
    Alike (w.unlogged.cacheSet key value ttl) (w.cacheSet key value ttl) := by
  unfold cacheSet
  cases hs : w.wiring.cacheOnServer with
  | true =>
    let server := w.server.logged (.set key value.write ttl)
    have same : { w.unlogged with server }.serverEntry value.write ttl =
        { w with server }.serverEntry value.write ttl := rfl
    simp only [unlogged, hs, if_true] at same ⊢
    rw [same]
    cases { w with server }.serverEntry value.write ttl <;> cases key.requireHashable <;>
      exact ⟨rfl, rfl⟩
  | false =>
    simp only [unlogged, hs]
    cases expiryTime w.clock ttl <;> cases key.requireHashable <;> exact ⟨rfl, rfl⟩

theorem cacheDelete_unlogged (w : World) (key : Json) :
    Alike (w.unlogged.cacheDelete key) (w.cacheDelete key) := by
  unfold cacheDelete
  cases hs : w.wiring.cacheOnServer <;> simp only [unlogged, hs] <;>
    cases key.requireHashable <;> exact ⟨rfl, rfl⟩

theorem publish_unlogged (w : World) (name payload : Json) :
    Alike (w.unlogged.publish name payload) (w.publish name payload) := by
  unfold publish
  cases hc : w.wiring.channel with
  | some channel =>
    simp only [unlogged, hc]
    exact ⟨rfl, rfl⟩
  | none =>
    simp only [unlogged, hc]
    cases payload.toMembers <;> exact ⟨rfl, rfl⟩

theorem answer_unlogged (c : Call) (w : World) : Alike (w.unlogged.answer c) (w.answer c) := by
  cases c with
  | graph call => exact ⟨rfl, rfl⟩
  | presetMutualCount source target => exact ⟨rfl, rfl⟩
  | cacheGet key => exact cacheGet_unlogged w key
  | cacheSet key value ttl => exact cacheSet_unlogged w key value ttl
  | cacheDelete key => exact cacheDelete_unlogged w key
  | publish name payload => exact publish_unlogged w name payload

theorem answer_congr {c : Call} {w v : World} (h : w.unlogged = v.unlogged) :
    (w.answer c).1 = (v.answer c).1 ∧ (w.answer c).2.unlogged = (v.answer c).2.unlogged := by
  have hw := answer_unlogged c w
  have hv := answer_unlogged c v
  rw [h] at hw
  exact ⟨hw.1.symm.trans hv.1, hw.2.symm.trans hv.2⟩

/-- A program comes to the same with and without a log. -/
theorem run_silent {α : Type} (p : Program α) (w : World) :
    (p.run backend w).1 = (p.run silent w).1 ∧
      (p.run backend w).2.unlogged = (p.run silent w).2.unlogged :=
  (Program.uses_any p).run_alike (fun w v : World => w.unlogged = v.unlogged)
    (fun _ _ _ _ h => answer_congr h) (fun _ _ _ h => h) rfl

/-- With a log, an attempt comes to the same and leaves the same stores behind but for the log. -/
theorem on_backend_of_silent {α : Type} {x : Attempt α} {result : Except Failure α} {w left : World}
    (h : x.on silent w = (result, left)) :
    ∃ v, x.on backend w = (result, v) ∧ v.unlogged = left.unlogged := by
  obtain ⟨same, unlogged⟩ := run_silent (ExceptT.run x) w
  have answered := same.trans (congrArg Prod.fst h)
  have kept := unlogged.trans (congrArg (fun outcome => outcome.2.unlogged) h)
  exact ⟨(x.on backend w).2, Prod.ext answered rfl, kept⟩

end FollowGraph.World
