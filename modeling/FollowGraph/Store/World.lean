import FollowGraph.Graph.Answer
import FollowGraph.Program
import FollowGraph.Store.Cache
import FollowGraph.Store.Keyspace

/-!
Everything that a run of the services can change: the graph, the cache, the published events, the
key/value server, the clock and the log.

Cache and notifications are kept in memory or on the server, as `World.wiring` says. The services
see no difference but for the log entries that the server's side makes, and for what each side
refuses: memory takes an event's payload apart, the server reads no text that is too deep.
-/

set_option autoImplicit false

namespace FollowGraph

structure Event where
  name : Json
  payload : List (String × Json)
  deriving DecidableEq

/-- The server's channel for notifications, and what the server says about who hears a message on
it. -/
structure Channel where
  name : Json
  receivers : Json
  deriving DecidableEq

structure Wiring where
  cacheOnServer : Bool
  channel : Option Channel
  deriving DecidableEq

structure World where
  wiring : Wiring
  graph : Graph
  cache : Cache
  events : List Event
  server : Keyspace
  /-- The time in whole seconds. It stands still while an operation runs, so that an operation
  happens at one time. The stores themselves read a clock with fractions at every look-up and every
  write: what expires in the middle of an operation, or of a second, does so there and not here. -/
  clock : Int
  log : List LogEntry

namespace World

def initial (wiring : Wiring) (clock : Int) : World :=
  { wiring, clock, graph := .empty, cache := .empty, events := [], server := .empty, log := [] }

/-- Everything in memory, the clock at zero. -/
def empty : World := initial { cacheOnServer := false, channel := none } 0

def record (entry : LogEntry) (w : World) : World := { w with log := w.log ++ [entry] }

/-! ## Cache -/

/-- Log entries about a text on the server that is no JSON. -/
def recordDecoding (w : World) (key : Json) (text : String) : World :=
  match Json.readChars Keyspace.depthLimit text.toList with
  | .ok _ | .error (.tooDeep _) => w
  | .error _ =>
    w.record ⟨.debug, .cacheServer, "Cache value for key=" ++ key.quoted ++ " is not JSON"⟩

/-- The answer to a look-up that found a value or nothing. -/
def found (value : Option Json) : Except Failure Value := .ok (.plain (value.getD .null))

def cacheGet (w : World) (key : Json) : Except Failure Value × World :=
  if w.wiring.cacheOnServer then
    let w := { w with server := w.server.logged (.get key) }
    match key.requireHashable with
    | .error failure => (.error failure, w)
    | .ok () =>
      match w.server.text? w.clock key with
      | none => (found none, w)
      | some text => ((Keyspace.decode text).map .plain, w.recordDecoding key text)
  else
    match key.requireHashable with
    | .error failure => (.error failure, w)
    | .ok () => (found (w.cache.live? w.clock key), { w with cache := w.cache.touch w.clock key })

/-- The server's entry for a text that expires after some seconds, or never. -/
def serverEntry (w : World) (text : String) (ttl : Json) : Except Failure KeyspaceEntry :=
  if ttl = .null then .ok { text, expiresAt := none }
  else do
    let time ← expiryTime w.clock ttl
    pure { text, expiresAt := some time }

/-- Stores a value. When it expires is found out before the key is looked up. -/
def cacheSet (w : World) (key value ttl : Json) : Except Failure Value × World :=
  if w.wiring.cacheOnServer then
    let w := { w with server := w.server.logged (.set key value.write ttl) }
    match w.serverEntry value.write ttl, key.requireHashable with
    | .ok entry, .ok () => (.ok .null, { w with server := w.server.put key entry })
    | .error failure, _ | _, .error failure => (.error failure, w)
  else
    match expiryTime w.clock ttl, key.requireHashable with
    | .ok time, .ok () => (.ok .null, { w with cache := w.cache.set key value time })
    | .error failure, _ | _, .error failure => (.error failure, w)

def cacheDelete (w : World) (key : Json) : Except Failure Value × World :=
  if w.wiring.cacheOnServer then
    let w := { w with server := w.server.logged (.delete key) }
    match key.requireHashable with
    | .error failure => (.error failure, w)
    | .ok () => (.ok .null, { w with server := w.server.erase key })
  else
    match key.requireHashable with
    | .error failure => (.error failure, w)
    | .ok () => (.ok .null, { w with cache := w.cache.delete key })

/-! ## Notifications -/

def publish (w : World) (name payload : Json) : Except Failure Value × World :=
  match w.wiring.channel with
  | some channel =>
    let message := Keyspace.eventMessage name payload
    let w := { w with server := w.server.logged (.publish channel.name message) }
    (.ok .null, w.record
      ⟨.debug, .publisher, "Published " ++ name.display ++ " to " ++ channel.name.display ++ " (" ++
        channel.receivers.display ++ " receivers)"⟩)
  | none =>
    match payload.toMembers with
    | .error failure => (.error failure, w)
    | .ok payload => (.ok .null, { w with events := w.events ++ [{ name, payload }] })

/-! ## Answers -/

def answer (c : Call) (w : World) : Except Failure Value × World :=
  match c with
  | .graph call =>
    let (answer, graph) := w.graph.answer call
    (answer, { w with graph })
  | .cacheGet key => w.cacheGet key
  | .cacheSet key value ttl => w.cacheSet key value ttl
  | .cacheDelete key => w.cacheDelete key
  | .publish event payload => w.publish event payload
  -- Nothing has been set beforehand.
  | .presetMutualCount .. => (.ok (.list []), w)

def backend : Backend World := { answer, record }

end World
end FollowGraph
