import SignedGateway.Json.Basic

namespace SignedGateway

/-!
# The log of one request

While a request is handled, properties and errors are noted under names.  A name
noted again keeps its place and takes the new value.  When the request is done
the log becomes one event, a warning if any error was noted.
-/

/-- What is noted while a request is handled. -/
inductive LogEntry where
  | property (name value : String)
  | error (name text : String)
  deriving DecidableEq, Repr

structure RequestLog where
  requestId : String
  properties : List (String × String)
  errors : List (String × String)
  deriving DecidableEq, Repr, Inhabited

inductive EventLevel where
  | info
  | warning
  deriving DecidableEq, Repr

/-- What is reported about a request that is done.  Properties and errors are
objects in the order in which their names came up. -/
structure RequestEvent where
  level : EventLevel
  message : String
  requestId : String
  properties : String
  errors : Option String
  deriving DecidableEq, Repr

namespace RequestLog

def start (requestId : String) : RequestLog :=
  ⟨requestId, [], []⟩

/-- Note a value in the place of its name, or at the end. -/
def assign (name value : String) : List (String × String) → List (String × String)
  | [] => [(name, value)]
  | (other, held) :: rest =>
      if other = name then (other, value) :: rest else (other, held) :: assign name value rest

def note (log : RequestLog) : LogEntry → RequestLog
  | .property name value => { log with properties := assign name value log.properties }
  | .error name text => { log with errors := assign name text log.errors }

/-- What a caller without a log does with an entry. -/
def discard (log : RequestLog) (_ : LogEntry) : RequestLog :=
  log

/-- The event that reports the request. -/
def event (log : RequestLog) : RequestEvent :=
  if log.errors.isEmpty then
    ⟨.info, "Request completed", log.requestId, Json.renderPairs log.properties, none⟩
  else
    ⟨.warning, "Request failed", log.requestId, Json.renderPairs log.properties,
      some (Json.renderPairs log.errors)⟩

end RequestLog
end SignedGateway
