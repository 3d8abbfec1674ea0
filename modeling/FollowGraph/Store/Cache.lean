import FollowGraph.Json.Arithmetic

/-!
The cache in memory: values with the time at which they expire. An expired entry stays until it
is asked for.

`Cache.live?` is the view that counts: what a key holds at a time. Keys are any values that can be
looked up; the operations here take that for granted, and `World` sees to it.
-/

set_option autoImplicit false

namespace FollowGraph

/-- The time some seconds from now; of a fraction of a second all is waited for. -/
def expiryTime (now : Int) (seconds : Json) : Except Failure Int :=
  match seconds.index?, seconds with
  | some n, _ => .ok (now + n)
  | none, .float x => (now + ·) <$> Json.ceiling x
  | none, value => .error (.noOperator "+" "int" value.kindName)

@[simp] theorem expiryTime_int (now n : Int) : expiryTime now (.int n) = .ok (now + n) := rfl

structure CacheEntry where
  value : Json
  /-- A whole number of seconds, like `World.clock`: the fraction that a clock shows with them when
  the entry is written is left out. -/
  expiresAt : Int
  deriving DecidableEq

structure Cache where
  entries : List (Json × CacheEntry)

namespace Cache

def empty : Cache := { entries := [] }

def entry? (cache : Cache) (key : Json) : Option CacheEntry := cache.entries.lookup key

/-- The value under a key, unless it has expired. -/
def live? (cache : Cache) (now : Int) (key : Json) : Option Json :=
  match cache.entry? key with
  | some entry => if entry.expiresAt ≤ now then none else some entry.value
  | none => none

def delete (cache : Cache) (key : Json) : Cache :=
  { entries := cache.entries.filter (·.1 != key) }

/-- The cache after a key was asked for: without the key's entry when that has expired. -/
def touch (cache : Cache) (now : Int) (key : Json) : Cache :=
  match cache.entry? key with
  | some entry => if entry.expiresAt ≤ now then cache.delete key else cache
  | none => cache

def set (cache : Cache) (key value : Json) (expiresAt : Int) : Cache :=
  let entry : CacheEntry := { value, expiresAt }
  if cache.entries.any (·.1 == key) then
    { entries := cache.entries.map fun p => if p.1 == key then (key, entry) else p }
  else { entries := cache.entries ++ [(key, entry)] }

end Cache
end FollowGraph
