import SignedGateway.Policy.Basic

namespace SignedGateway
namespace Policy

/-!
# Policies over a table catalog

Objects may be the files of tables.  A catalog says which table a request touches,
if any, and decides about operations on tables and on everything else.  What it is
asked and what it decides is noted in the log.
-/

/-- A catalog bound to one request. -/
structure Catalog (Outside : Type) where
  tableName : StoreRequest → Option String → Attempt Outside (Option String)
  tableOperation : StoreRequest → String → Option String → Attempt Outside Decision
  otherOperation : StoreRequest → Option String → Attempt Outside Decision

namespace Catalog

variable {Outside : Type}

/-- Ask about the table if there is one, and otherwise about the request. -/
def ask (catalog : Catalog Outside) (request : StoreRequest) (action : Option String) :
    Attempt Outside Decision := do
  match ← catalog.tableName request action with
  | some table =>
      Attempt.note (.property "security.table" table)
      catalog.tableOperation request table action
  | none => catalog.otherOperation request action

/-- Note a decision with its reason. -/
def noteDecision : Decision → Attempt Outside Unit
  | .allowed => Attempt.note (.property "security.decision" "allow")
  | .denied none => Attempt.note (.property "security.decision" "deny")
  | .denied (some reason) => do
      Attempt.note (.property "security.decision" "deny")
      Attempt.note (.property "security.reason" reason)

def judge (catalog : Catalog Outside) (request : StoreRequest) : Judge Outside := fun action => do
  Attempt.note (.property "security.bucket" request.bucket)
  Attempt.note (.property "security.key" request.key)
  Attempt.note (.property "security.action" (action.getD ""))
  let decision ← notingFailure "security" (catalog.ask request action)
  noteDecision decision
  return decision

/-- The policy of a catalog, which is obtained anew for every request. -/
def policy (obtain : StoreRequest → SigningContext → Attempt Outside (Catalog Outside)) :
    Policy Outside :=
  ⟨fun request context => do
    let catalog ← notingFailure "security" (obtain request context)
    return catalog.judge request⟩

end Catalog
end Policy
end SignedGateway
