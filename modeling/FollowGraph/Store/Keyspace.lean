import FollowGraph.Json.Arithmetic
import FollowGraph.Json.Reader
import FollowGraph.Json.Writer

/-!
The key/value server: texts, some of which expire, and the commands that were sent to it. An
expired text stays in place, and is no longer given out. A command is kept even if the server then
refuses it.

On it stand a cache and a notification channel, both of which send JSON text.
-/

set_option autoImplicit false

namespace FollowGraph

structure KeyspaceEntry where
  text : String
  /-- In whole seconds, like `World.clock`. -/
  expiresAt : Option Int
  deriving DecidableEq

inductive KeyspaceCommand where
  | get (key : Json)
  | set (key : Json) (text : String) (ttl : Json)
  | delete (key : Json)
  | publish (channel : Json) (message : String)
  deriving DecidableEq

structure Keyspace where
  entries : List (Json × KeyspaceEntry)
  commands : List KeyspaceCommand

namespace Keyspace

/-- How a client of the server is opened: whether it gives out texts instead of octets, and for how
many seconds it waits for a connection and for an answer. -/
structure ClientOptions where
  decodesResponses : Bool
  connectTimeout : Int
  timeout : Int

def clientOptions : ClientOptions :=
  { decodesResponses := true, connectTimeout := 2, timeout := 2 }

def ClientOptions.toJson (options : ClientOptions) : Json :=
  .obj [("decode_responses", .bool options.decodesResponses),
    ("socket_connect_timeout", .int options.connectTimeout),
    ("socket_timeout", .int options.timeout)]

def empty : Keyspace := { entries := [], commands := [] }

/-- Whether anything was ever stored here or asked of it. -/
def isTouched (server : Keyspace) : Bool :=
  !server.entries.isEmpty || !server.commands.isEmpty

def logged (server : Keyspace) (command : KeyspaceCommand) : Keyspace :=
  { server with commands := server.commands ++ [command] }

/-- Stores a text without sending a command. -/
def put (server : Keyspace) (key : Json) (entry : KeyspaceEntry) : Keyspace :=
  if server.entries.any (·.1 == key) then
    { server with entries := server.entries.map fun p => if p.1 == key then (key, entry) else p }
  else { server with entries := server.entries ++ [(key, entry)] }

/-- The text under a key, unless it has expired. -/
def text? (server : Keyspace) (now : Int) (key : Json) : Option String :=
  match server.entries.lookup key with
  | some { text, expiresAt := none } => some text
  | some { text, expiresAt := some time } => if time ≤ now then none else some text
  | none => none

def erase (server : Keyspace) (key : Json) : Keyspace :=
  { server with entries := server.entries.filter (·.1 != key) }

/-! ## What is sent -/

/-- How deep lists and objects lie in one another in a text that is still read. -/
def depthLimit : Nat := 980

/-- The value that a stored text stands for: a text that is no JSON stands for itself. One that is
too deep is not read at all. -/
def decode (text : String) : Except Failure Json :=
  match Json.readChars depthLimit text.toList with
  | .ok value => .ok value
  | .error (.tooDeep container) => .error (.tooDeep container)
  | .error _ => .ok (.str text)

def eventMessage (event payload : Json) : String :=
  Json.write (.obj [("event", event), ("payload", payload)])

end Keyspace
end FollowGraph
