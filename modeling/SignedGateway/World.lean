import SignedGateway.Error
import SignedGateway.RequestLog
import SignedGateway.Session.Store
import SignedGateway.Session.Supply

namespace SignedGateway

/-!
# Actions

Handling a request reads the clock, draws fresh text, notes entries in the log,
looks up and stores sessions, and asks collaborators for which the gateway only
knows what they answer.  An action is a function of the world in which all of
this stands; `outside` is the part that belongs to the collaborators, and nothing
is assumed about it.

An attempt is an action that may end early.  What it did before stays done.
-/

/-- Answers of the credentials service by access key and session token. -/
abbrev LookupCache := List ((String × Option String) × Option CredentialRecord)

structure World (Outside : Type) where
  now : Calendar.Moment
  supply : Supply
  sessions : SessionStore
  cache : LookupCache
  log : RequestLog
  outside : Outside

/-- A world in which nothing has happened yet. -/
def World.start {Outside : Type} (now : Calendar.Moment) (supply : Supply) (requestId : String)
    (outside : Outside) : World Outside :=
  ⟨now, supply, SessionStore.empty, [], RequestLog.start requestId, outside⟩

abbrev Act (Outside α : Type) : Type :=
  StateM (World Outside) α

abbrev Attempt (Outside α : Type) : Type :=
  ExceptT (Halt GatewayError) (StateM (World Outside)) α

namespace Act

variable {Outside α : Type}

def now : Act Outside Calendar.Moment := do
  return (← get).now

def note (entry : LogEntry) : Act Outside Unit :=
  modify fun world => { world with log := world.log.note entry }

/-- Fresh text made by `make` from the next stream of digits. -/
def draw (make : Supply → String) : Act Outside String := do
  let world ← get
  set { world with supply := world.supply.next }
  return make world.supply

end Act

namespace Attempt

variable {Outside α : Type}

/-- The outcome of an attempt as a value. -/
def outcome (attempt : Attempt Outside α) : Act Outside (Except (Halt GatewayError) α) :=
  attempt.run

def ofOutcome (action : Act Outside (Except (Halt GatewayError) α)) : Attempt Outside α :=
  ExceptT.mk action

/-- An action as a step of an attempt. -/
def act (action : Act Outside α) : Attempt Outside α :=
  ExceptT.lift action

def note (entry : LogEntry) : Attempt Outside Unit :=
  act (Act.note entry)

def fail (error : GatewayError) : Attempt Outside α :=
  throw (.failed error)

/-- A result that needs no world. -/
def ofExcept (result : Except GatewayError α) : Attempt Outside α :=
  match result with
  | .ok value => pure value
  | .error error => fail error

/-- A result that a date may cut off. -/
def ofHalting (result : Except (Halt GatewayError) α) : Attempt Outside α :=
  ExceptT.mk (pure result)

/-- The result of a check on a signature. -/
def ofCheck (result : Except (Halt AuthError) α) : Attempt Outside α :=
  match result with
  | .ok value => pure value
  | .error halt => throw (halt.map AuthError.toGatewayError)

end Attempt
end SignedGateway
