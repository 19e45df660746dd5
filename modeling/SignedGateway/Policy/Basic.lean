import SignedGateway.Policy.Action
import SignedGateway.Request
import SignedGateway.World

namespace SignedGateway
namespace Policy

/-!
# Policies

A policy is asked once per request.  It first looks at the request and gives a
verdict function bound to it, or fails; that function is then asked about the
request's action.  A decision is noted in the log, and a denial ends the request.
-/

inductive Decision where
  | allowed
  | denied (reason : Option String)
  deriving DecidableEq, Repr

namespace Decision

def isAllowed : Decision → Bool
  | .allowed => true
  | .denied _ => false

/-- What a decision means for the request. -/
def toExcept : Decision → Except GatewayError Unit
  | .allowed => .ok ()
  | .denied reason => .error (.authorization reason)

end Decision

/-- Judges the action of the request that it is bound to. -/
abbrev Judge (Outside : Type) : Type :=
  Option String → Attempt Outside Decision

end Policy

/-- Binds a judge to a request and to what it was verified with. -/
structure Policy (Outside : Type) where
  judgeFor : StoreRequest → SigningContext → Attempt Outside (Policy.Judge Outside)

namespace Policy

variable {Outside : Type}

/-- Note the failure of an attempt under a name. -/
def notingFailure {α : Type} (name : String) (attempt : Attempt Outside α) : Attempt Outside α :=
  Attempt.ofOutcome do
    match ← attempt.outcome with
    | .ok value => return .ok value
    | .error (.failed error) =>
        Act.note (.error name error.message)
        return .error (.failed error)
    | .error .outOfCalendar => return .error .outOfCalendar

/-- The policy that allows everything. -/
def allowAll : Policy Outside :=
  ⟨fun _ _ => pure fun _ => pure .allowed⟩

/-- Ask the policy about a request and note the decision. -/
def verdict (policy : Policy Outside) (request : StoreRequest) (context : SigningContext) :
    Attempt Outside Decision := do
  let judge ← policy.judgeFor request context
  let decision ← judge (actionOf request.rawQuery)
  Attempt.note (.property "security.allowed" (if decision.isAllowed then "true" else "false"))
  return decision

end Policy
end SignedGateway
