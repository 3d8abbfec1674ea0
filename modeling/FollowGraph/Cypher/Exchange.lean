import FollowGraph.Cypher.Statement

/-!
Talking to the database: sessions, statements run in them, and the records that come back.

The database is a script. Each statement takes the next item of it: records, or a failure; when the
script is used up there are no records. What was run and how many sessions were opened and left is
kept for inspection.
-/

set_option autoImplicit false

namespace FollowGraph.Cypher

/-- One row of a result: named values. -/
abbrev Record := List (String × Json)

inductive ScriptItem where
  | records (rows : List Record)
  | fail (failure : Failure)

/-- How a statement was run. -/
inductive Channel where
  | session
  | transaction
  deriving DecidableEq, Repr

structure Query where
  channel : Channel
  statement : Statement
  parameters : List (String × Json)
  deriving DecidableEq

structure Database where
  script : List ScriptItem
  queries : List Query
  opened : Nat
  left : Nat

def Database.ofScript (script : List ScriptItem) : Database :=
  { script, queries := [], opened := 0, left := 0 }

/-- Something done with the database that may fail. -/
abbrev Exchange := ExceptT Failure (StateM Database)

namespace Exchange

/-- Runs a statement and takes its records from the script. -/
def query (channel : Channel) (statement : Statement) (parameters : List (String × Json)) :
    Exchange (List Record) := fun db =>
  let asked : Query := { channel, statement, parameters }
  let db : Database := { db with queries := db.queries ++ [asked] }
  match db.script with
  | [] => (.ok [], db)
  | .records rows :: rest => (.ok rows, { db with script := rest })
  | .fail failure :: rest => (.error failure, { db with script := rest })

/-- Opens a session for an exchange and leaves it whatever happens. -/
def inSession {α : Type} (body : Exchange α) : Exchange α := fun db =>
  let (result, db) := body.run.run { db with opened := db.opened + 1 }
  (result, { db with left := db.left + 1 })

def sessionQuery (statement : Statement) (parameters : List (String × Json)) :
    Exchange (List Record) :=
  inSession (query .session statement parameters)

def ofExcept {α : Type} (value : Except Failure α) : Exchange α := ExceptT.mk (pure value)

end Exchange

def Record.value (record : Record) (key : String) : Except Failure Json :=
  match record.lookup key with
  | some value => .ok value
  | none => .error (.missingKey (.str key))

/-- The first record, unless there is none or it has no values. -/
def firstFilled? (records : List Record) : Option Record :=
  match records with
  | record :: _ => if record.isEmpty then none else some record
  | [] => none

end FollowGraph.Cypher
