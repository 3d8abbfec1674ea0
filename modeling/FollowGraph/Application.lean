import FollowGraph.Cypher.Store
import FollowGraph.Http.Decision
import FollowGraph.Settings
import FollowGraph.Store.World

/-!
The life of the service: it starts, answers requests, and stops.

Start-up makes sure of the database's constraints and only then attaches the services. A request
that fails altogether is over; the service goes on with the next. However a life goes, at its end
the database and the key/value server have been closed once each and the services are detached.
-/

set_option autoImplicit false

namespace FollowGraph

/-- What the clients of the database and of the server are opened with. -/
structure Connections where
  databaseUri : String
  databaseUser : String
  databasePassword : String
  serverUrl : String
  serverOptions : Keyspace.ClientOptions

def Connections.of (settings : Settings) : Connections :=
  { databaseUri := settings.databaseUri
    databaseUser := settings.databaseUser
    databasePassword := settings.databasePassword
    serverUrl := settings.serverUrl
    serverOptions := Keyspace.clientOptions }

/-- The running service. Graph calls go to the database, all others to the key/value server. -/
structure Application where
  connections : Connections
  database : Cypher.Database
  world : World
  attached : Bool
  databaseClosings : Nat
  serverClosings : Nat

namespace Application

/-- Before start-up: a database that answers by a script, an empty server, the clock at zero. -/
def created (settings : Settings) (script : List Cypher.ScriptItem) : Application :=
  let channel : Channel := { name := .str settings.notificationChannel, receivers := .int 0 }
  { connections := .of settings
    database := .ofScript script
    world := .initial { cacheOnServer := true, channel := some channel } 0
    attached := false
    databaseClosings := 0
    serverClosings := 0 }

def answer (c : Call) (a : Application) : Except Failure Value × Application :=
  match c with
  | .graph call =>
    let (answer, database) := (Cypher.Store.answer call).run.run a.database
    (answer, { a with database })
  | c =>
    let (answer, world) := a.world.answer c
    (answer, { a with world })

def backend : Backend Application :=
  { answer, record := fun entry a => { a with world := a.world.record entry } }

/-- Ensures the constraints, then attaches the services. -/
def start (a : Application) : Except Failure Unit × Application :=
  let (outcome, database) := Cypher.Store.ensureConstraints.run.run a.database
  match outcome with
  | .ok () => (.ok (), { a with database, attached := true })
  | .error failure => (.error failure, { a with database })

/-- Detaches the services and closes what was opened. -/
def stop (a : Application) : Application :=
  { a with
    attached := false
    databaseClosings := a.databaseClosings + 1
    serverClosings := a.serverClosings + 1 }

/-- What a request came to, and the queries that were run for it. -/
structure Served where
  outcome : Except Failure Http.Reply
  queries : List Cypher.Query

/-- Runs the program of one request. -/
def during (a : Application) (p : Attempt Http.Reply) : Served × Application :=
  let (outcome, next) := p.run.run backend a
  (⟨outcome, next.database.queries.drop a.database.queries.length⟩, next)

/-- Answers one request. -/
def serve (a : Application) (r : Http.Request) : Served × Application :=
  a.during (Http.answer a.attached r)

/-- Answers requests in order. One that fails does not keep the next from being answered. -/
def serveAll : List Http.Request → Application → List Served × Application
  | [], a => ([], a)
  | r :: rest, a =>
    let (served, next) := a.serve r
    let (others, final) := serveAll rest next
    (served :: others, final)

structure Life where
  /-- The queries of a start-up that succeeded. -/
  startUp : Option (List Cypher.Query)
  served : List Served
  /-- The failure that start-up ended in, if it did. -/
  outcome : Except Failure Unit
  final : Application

/-- Starts, does something if that succeeds, and stops either way. That the clients of database and
server are opened and closed is taken not to fail. -/
def lifespan (settings : Settings) (script : List Cypher.ScriptItem)
    (serving : Application → List Served × Application) : Life :=
  match (created settings script).start with
  | (.error failure, a) =>
    { startUp := none, served := [], outcome := .error failure, final := a.stop }
  | (.ok (), a) =>
    let (served, final) := serving a
    { startUp := some a.database.queries, served, outcome := .ok (), final := final.stop }

/-- A life that answers all the requests that it gets. What can fail in it are statements of the
database and the requests themselves, but not the opening and closing of the two clients. -/
def live (settings : Settings) (script : List Cypher.ScriptItem) (requests : List Http.Request) :
    Life :=
  lifespan settings script (serveAll requests)

end Application
end FollowGraph
