import Mathlib.Algebra.GroupWithZero.Nat
import FollowGraph.Proofs.Json.RoundTrip
import FollowGraph.Proofs.Service.Effects

/-!
# What a cache holds, wherever it is kept

The services ask a cache by its keys, and all that they can learn of it is what each key was last
set to and until when (`Held`). `World.Holds` says that the cache of some stores holds just that. It
says it twice. In memory an entry is dropped when it is asked for and has expired; on the server the
entry stays, as a text, and is not given out any more. The two differ in what they keep and agree in
what is found now or later.

So neither store is compared with the other one: each keeps its word about what is held, call by
call (`holds_get`, `holds_set`, `holds_delete`), and a run of calls comes to what the list of calls
says (`World.get_after_uses`).
-/

set_option autoImplicit false

namespace FollowGraph

/-- The server gives the value back for which it was given a text. -/
def Json.Kept (value : Json) : Prop := Keyspace.decode value.write = .ok value

theorem Json.kept_of_standard {value : Json} (h : value.Standard Keyspace.depthLimit) :
    value.Kept := by
  unfold Kept Keyspace.decode
  rw [Json.readChars_write h]

/-- The value of an entry, unless that has expired. -/
def CacheEntry.live? (entry : CacheEntry) (now : Int) : Option Json :=
  if now < entry.expiresAt then some entry.value else none

/-- What every key was last set to, and when that expires, unless it was deleted since. -/
abbrev Held := Json → Option CacheEntry

namespace Held

/-- What is found under a key at some time. -/
def at? (held : Held) (now : Int) (key : Json) : Option Json :=
  (held key).bind fun entry => entry.live? now

def nothing : Held := fun _ => none

/-- One key was set, or deleted. -/
def put (held : Held) (key : Json) (new : Option CacheEntry) : Held :=
  fun other => if other = key then new else held other

theorem at?_put (held : Held) (key : Json) (new : Option CacheEntry) (now : Int) (other : Json) :
    (held.put key new).at? now other =
      if other = key then new.bind fun entry => entry.live? now else held.at? now other := by
  unfold at? put
  split <;> rfl

end Held

/-! ## Each store by itself -/

namespace Cache

variable {cache : Cache}

theorem live?_eq_bind (cache : Cache) (now : Int) (key : Json) :
    cache.live? now key = (cache.entry? key).bind fun entry => entry.live? now := by
  unfold live?
  cases cache.entry? key with
  | none => rfl
  | some entry =>
    by_cases expired : entry.expiresAt ≤ now
    · simp [CacheEntry.live?, expired]
    · simp [CacheEntry.live?, expired, Int.not_le.1 expired]

theorem live?_set (cache : Cache) (now : Int) (key other value : Json) (time : Int) :
    (cache.set other value time).live? now key =
      if key = other then CacheEntry.live? ⟨value, time⟩ now else cache.live? now key := by
  rw [live?_eq_bind, live?_eq_bind, entry?_set]
  split <;> rfl

theorem live?_delete (cache : Cache) (now : Int) (key other : Json) :
    (cache.delete other).live? now key = if key = other then none else cache.live? now key := by
  rw [live?_eq_bind, live?_eq_bind, entry?_delete]
  split <;> rfl

/-- What is found later does not depend on what is asked for now. -/
theorem live?_touch {now later : Int} (h : now ≤ later) (key other : Json) :
    (cache.touch now other).live? later key = cache.live? later key := by
  rw [live?_eq_bind, live?_eq_bind]
  by_cases same : key = other
  · rw [same, entry?_touch_self]
    cases cache.entry? other with
    | none => rfl
    | some entry =>
      rw [Option.filter_some]
      by_cases alive : now < entry.expiresAt
      · simp only [alive, decide_true, if_true]
      · have expired : ¬ later < entry.expiresAt := by omega
        simp [alive, CacheEntry.live?, expired]
  · rw [entry?_touch_ne same]

end Cache

namespace Keyspace

variable {server : Keyspace}

theorem text?_put (server : Keyspace) (now : Int) (key other : Json) (value : Json) (time : Int) :
    (server.put other ⟨value.write, some time⟩).text? now key =
      if key = other then (CacheEntry.live? ⟨value, time⟩ now).map Json.write
      else server.text? now key := by
  have entries : (server.put other ⟨value.write, some time⟩).entries.lookup key =
      if key = other then some ⟨value.write, some time⟩ else server.entries.lookup key := by
    rw [← lookup_put]
    unfold put
    split <;> rfl
  unfold text?
  rw [entries]
  by_cases same : key = other
  · by_cases expired : time ≤ now
    · simp [same, CacheEntry.live?, expired]
    · simp [same, CacheEntry.live?, expired, Int.not_le.1 expired]
  · simp only [if_neg same]

theorem text?_erase (server : Keyspace) (now : Int) (key other : Json) :
    (server.erase other).text? now key =
      if key = other then none else server.text? now key := by
  have entries : (server.erase other).entries.lookup key = _ := lookup_filter ..
  unfold text?
  rw [entries]
  by_cases same : key = other <;> simp only [same, if_true, if_false]

end Keyspace

/-! ## Both -/

namespace World

/-- The cache holds just this, now and later. A text on the server is that of a value which it gives
back. -/
structure Holds (held : Held) (w : World) : Prop where
  memory : w.wiring.cacheOnServer = false → ∀ key now, w.clock ≤ now →
    w.cache.live? now key = held.at? now key
  server : w.wiring.cacheOnServer = true → ∀ key now, w.clock ≤ now →
    w.server.text? now key = (held.at? now key).map Json.write
  kept : w.wiring.cacheOnServer = true → ∀ key entry, held key = some entry → entry.value.Kept

variable {held : Held} {w v : World} {key : Json}

theorem holds_initial (wiring : Wiring) (clock : Int) (graph : Graph) :
    Holds .nothing { initial wiring clock with graph } where
  memory _ _ _ _ := rfl
  server _ _ _ _ := rfl
  kept _ _ _ there := by cases there

/-- Only the cache and its texts count, and the time. -/
theorem Holds.congr (h : w.Holds held) (wiring : v.wiring = w.wiring) (clock : w.clock ≤ v.clock)
    (cache : v.cache = w.cache) (entries : v.server.entries = w.server.entries) :
    v.Holds held where
  memory here key now later := cache ▸ h.memory (wiring ▸ here) key now (Int.le_trans clock later)
  server here key now later := by
    have same : v.server.text? now key = w.server.text? now key := by
      unfold Keyspace.text?
      rw [entries]
    exact same.trans (h.server (wiring ▸ here) key now (Int.le_trans clock later))
  kept here := h.kept (wiring ▸ here)

/-- Entries in the log are not part of it. -/
theorem holds_recordDecoding (h : w.Holds held) (key : Json) (text : String) :
    (w.recordDecoding key text).Holds held := by
  unfold recordDecoding
  split <;> exact h.congr rfl (Int.le_refl _) rfl rfl

/-- **Asking finds what is held**, and changes nothing of it. -/
theorem holds_get (h : w.Holds held) (hashable : key.requireHashable = .ok ()) :
    (w.answer (.cacheGet key)).1 = found (held.at? w.clock key) ∧
      (w.answer (.cacheGet key)).2.Holds held := by
  simp only [answer, cacheGet, hashable]
  cases place : w.wiring.cacheOnServer with
  | false =>
    have now := h.memory place key w.clock (Int.le_refl _)
    refine ⟨congrArg found now, ?_⟩
    exact
      { memory := fun here other later after =>
          (Cache.live?_touch after other key).trans (h.memory here other later after)
        server := h.server
        kept := h.kept }
  | true =>
    have asked : Holds held { w with server := w.server.logged (.get key) } :=
      h.congr rfl (Int.le_refl _) rfl rfl
    have now : (w.server.logged (.get key)).text? w.clock key = _ :=
      h.server place key w.clock (Int.le_refl _)
    simp only [if_true, now]
    cases value : held.at? w.clock key with
    | none => exact ⟨rfl, asked⟩
    | some value =>
      obtain ⟨entry, there, alive⟩ := Option.bind_eq_some_iff.1 value
      obtain ⟨-, same⟩ := Option.ite_none_right_eq_some.1 alive
      cases same
      refine ⟨?_, holds_recordDecoding asked key _⟩
      show (Keyspace.decode entry.value.write).map Value.plain = _
      rw [h.kept place key entry there]
      rfl

/-- What one key is put to, it holds, and no other key holds anything else than before. -/
theorem Holds.put (h : w.Holds held) {cache : Cache} {server : Keyspace} {new : Option CacheEntry}
    (memory : w.wiring.cacheOnServer = false → ∀ now other, cache.live? now other =
      if other = key then new.bind fun entry => entry.live? now else w.cache.live? now other)
    (texts : w.wiring.cacheOnServer = true → ∀ now other, server.text? now other =
      if other = key then (new.bind fun entry => entry.live? now).map Json.write
      else w.server.text? now other)
    (kept : w.wiring.cacheOnServer = true → ∀ entry, new = some entry → entry.value.Kept) :
    Holds (held.put key new) { w with cache, server } where
  memory here other now later := by
    rw [memory here, Held.at?_put, h.memory here other now later]
  server here other now later := by
    rw [texts here, Held.at?_put, h.server here other now later]
    split <;> rfl
  kept here other entry there := by
    unfold Held.put at there
    split at there
    · exact kept here entry there
    · exact h.kept here other entry there

/-- **Setting a key makes it hold the value**, for some seconds from now. -/
theorem holds_set (h : w.Holds held) (hashable : key.requireHashable = .ok ()) {value : Json}
    (kept : w.wiring.cacheOnServer = true → value.Kept) (seconds : Int) :
    (w.answer (.cacheSet key value (.int seconds))).1 = .ok .null ∧
      (w.answer (.cacheSet key value (.int seconds))).2.Holds
        (held.put key (some ⟨value, w.clock + seconds⟩)) := by
  have kept' (here : w.wiring.cacheOnServer = true) (entry : CacheEntry)
      (there : some ⟨value, w.clock + seconds⟩ = some entry) : entry.value.Kept := by
    cases there
    exact kept here
  cases place : w.wiring.cacheOnServer with
  | false =>
    simp only [answer, cacheSet, hashable, place, expiryTime_int, Bool.false_eq_true, if_false]
    refine ⟨trivial, h.put (fun _ now other => ?_) (fun here => ?_) kept'⟩
    · exact Cache.live?_set w.cache now other key value _
    · cases place.symm.trans here
  | true =>
    have entry : { w with server := w.server.logged (.set key value.write (.int seconds)) }.serverEntry
        value.write (.int seconds) = .ok ⟨value.write, some (w.clock + seconds)⟩ := rfl
    simp only [answer, cacheSet, hashable, place, if_true, entry]
    refine ⟨trivial, h.put (fun here => ?_) (fun _ now other => ?_) kept'⟩
    · cases place.symm.trans here
    · exact Keyspace.text?_put _ now other key value _

theorem holds_delete (h : w.Holds held) (hashable : key.requireHashable = .ok ()) :
    (w.answer (.cacheDelete key)).1 = .ok .null ∧
      (w.answer (.cacheDelete key)).2.Holds (held.put key none) := by
  cases place : w.wiring.cacheOnServer with
  | false =>
    simp only [answer, cacheDelete, hashable, place, Bool.false_eq_true, if_false]
    refine ⟨trivial, h.put (fun _ now other => ?_) (fun here => ?_) fun _ _ gone => by cases gone⟩
    · exact Cache.live?_delete w.cache now other key
    · cases place.symm.trans here
  | true =>
    simp only [answer, cacheDelete, hashable, place, if_true]
    refine ⟨trivial, h.put (fun here => ?_) (fun _ now other => ?_) fun _ _ gone => by cases gone⟩
    · cases place.symm.trans here
    · exact Keyspace.text?_erase _ now other key

theorem Holds.wait (h : w.Holds held) (seconds : Nat) :
    Holds held { w with clock := w.clock + seconds } :=
  h.congr rfl (Int.le_add_of_nonneg_right (Int.natCast_nonneg seconds)) rfl rfl

end World

/-! ## Runs -/

/-- One thing that happens to a cache by itself. -/
inductive CacheUse where
  | get (key : String)
  | set (key : String) (value : Json) (seconds : Int)
  | delete (key : String)
  | wait (seconds : Nat)
  deriving DecidableEq

namespace CacheUse

/-- The time that passes. -/
def seconds : CacheUse → Nat
  | .wait seconds => seconds
  | _ => 0

def elapsed (uses : List CacheUse) : Nat := (uses.map seconds).sum

/-- A key is set or deleted. -/
def Changes (key : String) : CacheUse → Prop
  | .set other _ _ | .delete other => other = key
  | .get _ | .wait _ => False

/-- A key was last set to a value, not deleted since, and the value is there until some time. -/
def LastSet (key : String) (now : Int) (uses : List CacheUse) (entry : CacheEntry) : Prop :=
  ∃ before value seconds after, uses = before ++ .set key value seconds :: after ∧
    (∀ use ∈ after, ¬ use.Changes key) ∧ entry = ⟨value, now + elapsed before + seconds⟩

end CacheUse

namespace Held

open CacheUse

def use (held : Held) (now : Int) : CacheUse → Held
  | .set key value seconds => held.put (.str key) (some ⟨value, now + seconds⟩)
  | .delete key => held.put (.str key) none
  | .get _ | .wait _ => held

def after (held : Held) (now : Int) : List CacheUse → Held
  | [] => held
  | use :: rest => (held.use now use).after (now + use.seconds) rest

theorem use_of_not_changes {key : String} {use : CacheUse} (h : ¬ use.Changes key) (held : Held)
    (now : Int) : held.use now use (.str key) = held (.str key) := by
  cases use with
  | set other value seconds =>
    exact if_neg fun same => h (Json.str.inj same).symm
  | delete other => exact if_neg fun same => h (Json.str.inj same).symm
  | get _ | wait _ => rfl

/-- What is held in the end was last set in the course of some uses, or was held before and left
alone by them all. -/
theorem after_eq_some_iff (held : Held) (now : Int) (uses : List CacheUse) (key : String)
    (entry : CacheEntry) :
    held.after now uses (.str key) = some entry ↔
      LastSet key now uses entry ∨
        (∀ use ∈ uses, ¬ use.Changes key) ∧ held (.str key) = some entry := by
  induction uses generalizing held now with
  | nil => simp [after, LastSet]
  | cons use rest ih =>
    rw [after, ih]
    have later : LastSet key (now + use.seconds) rest entry → LastSet key now (use :: rest) entry := by
      rintro ⟨before, value, seconds, after, rfl, quiet, rfl⟩
      refine ⟨use :: before, value, seconds, after, rfl, quiet, ?_⟩
      simp [elapsed, Int.add_assoc]
    constructor
    · rintro (last | ⟨quiet, there⟩)
      · exact .inl (later last)
      · by_cases changes : use.Changes key
        · cases use with
          | set other value seconds =>
            obtain rfl : other = key := changes
            have set_now : some (⟨value, now + seconds⟩ : CacheEntry) = some entry :=
              (if_pos rfl).symm.trans there
            refine .inl ⟨[], value, seconds, rest, rfl, quiet, ?_⟩
            simpa [elapsed] using (Option.some.inj set_now).symm
          | delete other =>
            obtain rfl : other = key := changes
            have gone : none = some entry := (if_pos rfl).symm.trans there
            cases gone
          | get _ | wait _ => exact changes.elim
        · rw [use_of_not_changes changes] at there
          exact .inr ⟨List.forall_mem_cons.2 ⟨changes, quiet⟩, there⟩
    · rintro (⟨before, value, seconds, after, split, quiet, rfl⟩ | ⟨quiet, there⟩)
      · cases before with
        | nil =>
          obtain ⟨rfl, rfl⟩ := List.cons.inj split
          refine .inr ⟨quiet, (if_pos rfl).trans ?_⟩
          simp [elapsed]
        | cons first before =>
          obtain ⟨rfl, rfl⟩ := List.cons.inj split
          refine .inl ⟨before, value, seconds, after, rfl, quiet, ?_⟩
          simp [elapsed, Int.add_assoc]
      · obtain ⟨first, others⟩ := List.forall_mem_cons.1 quiet
        exact .inr ⟨others, (use_of_not_changes first held now).trans there⟩

end Held

namespace World

def use (w : World) : CacheUse → World
  | .get key => (w.answer (.cacheGet (.str key))).2
  | .set key value seconds => (w.answer (.cacheSet (.str key) value (.int seconds))).2
  | .delete key => (w.answer (.cacheDelete (.str key))).2
  | .wait seconds => { w with clock := w.clock + seconds }

/-- The stores after some uses, the first of them first. -/
def useAll (w : World) : List CacheUse → World
  | [] => w
  | use :: rest => (w.use use).useAll rest

variable {held : Held} {w : World}

theorem holds_use (h : w.Holds held) {use : CacheUse}
    (kept : w.wiring.cacheOnServer = true → ∀ key value seconds, use = .set key value seconds →
      value.Kept) :
    (w.use use).Holds (held.use w.clock use) ∧ (w.use use).clock = w.clock + use.seconds ∧
      (w.use use).wiring = w.wiring := by
  have fixed {c : Call} : (w.answer c).2.clock = w.clock + (0 : Nat) ∧
      (w.answer c).2.wiring = w.wiring := by
    rw [Int.natCast_zero, Int.add_zero]
    exact (answered_answer c w).fixed
  cases use with
  | get key => exact ⟨(holds_get h rfl).2, fixed⟩
  | set key value seconds =>
    exact ⟨(holds_set h rfl (fun place => kept place key value seconds rfl) seconds).2, fixed⟩
  | delete key => exact ⟨(holds_delete h rfl).2, fixed⟩
  | wait seconds => exact ⟨h.wait seconds, rfl, rfl⟩

theorem holds_useAll (h : w.Holds held) {uses : List CacheUse}
    (kept : w.wiring.cacheOnServer = true → ∀ key value seconds,
      .set key value seconds ∈ uses → value.Kept) :
    (w.useAll uses).Holds (held.after w.clock uses) ∧
      (w.useAll uses).clock = w.clock + CacheUse.elapsed uses := by
  induction uses generalizing w held with
  | nil => exact ⟨h, by simp [useAll, CacheUse.elapsed]⟩
  | cons use rest ih =>
    have first_kept : w.wiring.cacheOnServer = true → ∀ key value seconds,
        use = .set key value seconds → value.Kept := fun place key value seconds same =>
      kept place key value seconds (same ▸ List.mem_cons_self)
    obtain ⟨next, clock, wiring⟩ := holds_use h first_kept
    obtain ⟨last, time⟩ := ih next fun place key value seconds there =>
      kept (wiring ▸ place) key value seconds (List.mem_cons_of_mem _ there)
    rw [clock] at last time
    refine ⟨last, time.trans ?_⟩
    simp [CacheUse.elapsed, Int.add_assoc]

/-- **A cache answers with the value last set**, wherever it is kept, as long as the key was not
deleted since and the time of that setting and the seconds given with it have not passed. -/
theorem get_after_uses (wiring : Wiring) (clock : Int) (uses : List CacheUse)
    (kept : wiring.cacheOnServer = true → ∀ key value seconds,
      .set key value seconds ∈ uses → value.Kept) (key : String) :
    ∃ value? : Option Json,
      (((initial wiring clock).useAll uses).answer (.cacheGet (.str key))).1 = found value? ∧
      ∀ value, value? = some value ↔ ∃ ends, CacheUse.LastSet key clock uses ⟨value, ends⟩ ∧
        clock + CacheUse.elapsed uses < ends := by
  have fresh : Holds .nothing (initial wiring clock) := holds_initial wiring clock .empty
  obtain ⟨holds, time⟩ := holds_useAll fresh kept
  refine ⟨_, (holds_get holds rfl).1, fun value => ?_⟩
  have last (entry : CacheEntry) := Held.after_eq_some_iff .nothing clock uses key entry
  rw [Held.at?, Option.bind_eq_some_iff, time]
  constructor
  · rintro ⟨⟨_, ends⟩, there, found⟩
    obtain ⟨alive, same⟩ := Option.ite_none_right_eq_some.1 found
    cases same
    rcases (last _).1 there with set | ⟨-, nothing⟩
    · exact ⟨ends, set, alive⟩
    · cases nothing
  · rintro ⟨ends, set, alive⟩
    exact ⟨_, (last _).2 (.inl set), if_pos alive⟩

end World
end FollowGraph
