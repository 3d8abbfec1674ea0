import FollowGraph.Store.World

/-!
Stores that fail or answer as told.

A fault names a call and what happens in its place: a failure, or a fixed answer of any kind. It
may be limited to calls with certain arguments, let some matching calls pass first, and act a
limited number of times. Faults are tried in the order in which they were set; the first that acts
answers, and the stores see nothing of the call. Every call is recorded, answered by a fault or
not.
-/

set_option autoImplicit false

namespace FollowGraph

inductive FaultAction where
  | fail (failure : Failure)
  | answer (value : Json)

structure Fault where
  target : String
  action : FaultAction
  /-- Arguments, by position, that a call must have. -/
  condition : List (Nat × Json)
  /-- How many matching calls still pass. -/
  passes : Nat
  /-- How often it may still act; nothing for ever. -/
  remaining : Option Nat

namespace Fault

def concerns (f : Fault) (c : Call) : Bool :=
  f.target == c.name &&
    f.condition.all fun (position, value) =>
      match c.arguments[position]? with
      | some argument => argument.alike value
      | none => false

def isExhausted (f : Fault) : Bool := f.remaining == some 0

/-- What a fault makes of a call that it acts on. -/
def outcome (f : Fault) (c : Call) : Except Failure Value :=
  match f.action, c with
  | .fail failure, _ => .error failure
  | .answer value, .presetMutualCount .. => .ok (.list [.plain value])
  | .answer value, _ => .ok (.plain value)

end Fault

/-- The outcome that the first acting fault gives a call, and the faults after it. -/
def intercept (c : Call) : List Fault → Option (Except Failure Value) × List Fault
  | [] => (none, [])
  | f :: rest =>
    let pass (f : Fault) :=
      let (outcome, rest) := intercept c rest
      (outcome, f :: rest)
    if !f.concerns c then pass f
    -- A call that is let through counts, even if a later fault then answers it.
    else if 0 < f.passes then pass { f with passes := f.passes - 1 }
    else if f.isExhausted then pass f
    else (some (f.outcome c), { f with remaining := f.remaining.map (· - 1) } :: rest)

/-- Stores together with the faults set on them and the calls made to them. -/
structure Rig where
  world : World
  faults : List Fault
  calls : List Call

namespace Rig

def initial (world : World) : Rig := { world, faults := [], calls := [] }

/-- The question for a preset count reaches no store, so it is not listed. -/
def listed (c : Call) (r : Rig) : Rig :=
  match c with
  | .presetMutualCount .. => r
  | c => { r with calls := r.calls ++ [c] }

def answer (c : Call) (r : Rig) : Except Failure Value × Rig :=
  let r := r.listed c
  match intercept c r.faults with
  | (some outcome, faults) => (outcome, { r with faults })
  | (none, faults) =>
    let (outcome, world) := r.world.answer c
    (outcome, { r with world, faults })

def record (entry : LogEntry) (r : Rig) : Rig := { r with world := r.world.record entry }

def backend : Backend Rig := { answer, record }

end Rig
end FollowGraph
