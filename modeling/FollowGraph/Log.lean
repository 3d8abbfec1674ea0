/-!
Log entries, and the names of the loggers that they go to.

An entry carries the part of the library that made it. Which logger that part writes to depends
on how it is used: as one of the services below a common root, or by itself.
-/

set_option autoImplicit false

namespace FollowGraph

inductive LogLevel where
  | debug
  | info
  | warning
  | error
  deriving DecidableEq, Repr

def LogLevel.name : LogLevel → String
  | .debug => "DEBUG"
  | .info => "INFO"
  | .warning => "WARNING"
  | .error => "ERROR"

/-- The parts of the library that make log entries. -/
inductive LogSource where
  | queries
  | mutual
  | enrichment
  | follow
  | block
  | search
  | suggestionCache
  | interestCache
  | users
  | suggest
  | interest
  | cacheServer
  | publisher
  deriving DecidableEq, Repr

structure LogEntry where
  level : LogLevel
  source : LogSource
  text : String
  deriving DecidableEq, Repr

/-- How a part is used: as a service below a root logger, or by itself. -/
inductive LoggerScheme where
  | below (root : String)
  | standalone
  deriving DecidableEq, Repr

namespace LogSource

def label : LogSource → String
  | .queries => "queries"
  | .mutual => "mutual"
  | .enrichment => "enrichment"
  | .follow => "follow"
  | .block => "block"
  | .search => "search"
  | .suggestionCache => "suggestion_cache"
  | .interestCache => "interest_cache"
  | .users => "users"
  | .suggest => "suggest"
  | .interest => "interest"
  | .cacheServer => "cache"
  | .publisher => "notifications"

def standaloneName : LogSource → String
  | .queries => "socialgraph.application.relationship_queries"
  | .mutual => "socialgraph.application.mutual_service"
  | .enrichment => "socialgraph.application.enrichment"
  | .follow => "socialgraph.application.follow_service"
  | .block => "socialgraph.application.block_service"
  | .search => "socialgraph.application.search_service"
  | .suggestionCache | .interestCache => "socialgraph.application.suggestion_cache"
  | .users => "socialgraph.application.user_service"
  | .suggest => "socialgraph.application.suggest_service"
  | .interest => "socialgraph.application.interest_service"
  | .cacheServer => "socialgraph.infrastructure.cache.redis_cache"
  | .publisher => "socialgraph.infrastructure.notifications"

/-- The logger that entries of a part go to. The two stores on a server always log by
themselves. -/
def loggerName (source : LogSource) : LoggerScheme → String
  | .standalone => source.standaloneName
  | .below root =>
    match source with
    | .cacheServer | .publisher => source.standaloneName
    -- The empty name and the name of the root of all loggers are no part of a path.
    | _ =>
      if root.isEmpty || root == "root" then source.label else root ++ "." ++ source.label

end LogSource
end FollowGraph
