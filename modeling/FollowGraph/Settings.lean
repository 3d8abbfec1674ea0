import FollowGraph.Text.Blank
import FollowGraph.Text.Case

/-!
The settings of the service, read from its environment. A variable that is blank counts as absent.
-/

set_option autoImplicit false

namespace FollowGraph

structure Settings where
  databaseUri : String
  databaseUser : String
  databasePassword : String
  serverUrl : String
  notificationChannel : String
  logLevel : String
  deriving DecidableEq, Repr

namespace Settings

def default : Settings :=
  { databaseUri := "bolt://localhost:7687"
    databaseUser := "neo4j"
    databasePassword := "password"
    serverUrl := "redis://localhost:6379/0"
    notificationChannel := "create_notification"
    logLevel := "INFO" }

/-- A variable without the blanks around it, or a default. -/
def variableOr (environment : List (String × String)) (name default : String) : String :=
  let value := Text.strip ((environment.lookup name).getD "")
  if value.isEmpty then default else value

/-- The settings that an environment makes. The log level is in upper case. -/
def ofEnvironment (environment : List (String × String)) : Settings :=
  { databaseUri := variableOr environment "NEO4J_URI" default.databaseUri
    databaseUser := variableOr environment "NEO4J_USER" default.databaseUser
    databasePassword := variableOr environment "NEO4J_PASSWORD" default.databasePassword
    serverUrl := variableOr environment "REDIS_URL" default.serverUrl
    notificationChannel :=
      variableOr environment "NOTIFICATION_CHANNEL" default.notificationChannel
    logLevel := Text.upper (variableOr environment "LOG_LEVEL" default.logLevel) }

end Settings
end FollowGraph
