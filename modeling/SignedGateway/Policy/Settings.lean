import SignedGateway.Policy.Server
import SignedGateway.Json.Record
import SignedGateway.Settings.Environment

namespace SignedGateway

/-!
# Which policy is used

Either everything is allowed or a policy server is asked.
-/

inductive PolicyProvider where
  | allowAll
  | server
  deriving DecidableEq, Repr

namespace PolicyProvider

def words : List (String × PolicyProvider) :=
  [("open", .allowAll), ("opa", .server)]

def kind : String := "security provider"

def name : PolicyProvider → String
  | .allowAll => "open"
  | .server => "opa"

end PolicyProvider

structure PolicySettings where
  provider : PolicyProvider
  serverUri : Option String
  headers : List (String × String)
  timeout : Nat
  deriving DecidableEq, Repr

namespace PolicySettings

def standard : PolicySettings :=
  ⟨.allowAll, none, [], 5⟩

def fromEnvironment (environment : Environment) : Except GatewayError PolicySettings := do
  let provider ←
    environment.word "SECURITY_PROVIDER" PolicyProvider.kind PolicyProvider.words standard.provider
  return {
    provider := provider
    serverUri := environment.get? "OPA_SERVER_URI"
    headers := environment.pairs "OPA_HEADERS" ':'
    timeout := environment.number "OPA_TIMEOUT_SECONDS" standard.timeout }

def ofTree : Json.Reader PolicySettings := fun tree => do
  let record ←
    Json.Record.ofTree ["provider", "opaServerUri", "opaHeaders", "opaTimeoutSeconds"] tree
  return {
    provider := ← record.required "provider" (Json.Reader.oneOf PolicyProvider.words)
    serverUri := ← record.optionalNamed "opaServerUri" Json.Reader.text
    headers := ← record.required "opaHeaders" (Json.Reader.list Json.Reader.pair)
    timeout := ← record.required "opaTimeoutSeconds" Json.Reader.word }

def toJson (settings : PolicySettings) : Json :=
  Json.ofFields
    [("provider", .text settings.provider.name),
     ("opaServerUri", Json.ofOption (settings.serverUri.map Json.text)),
     ("opaHeaders", Json.ofPairs settings.headers),
     ("opaTimeoutSeconds", Json.ofNat settings.timeout)]

/-- The policy that the settings ask for. -/
def policy {Outside : Type} (settings : PolicySettings) (transport : Http.Transport Outside) :
    Except GatewayError (Policy Outside) :=
  match settings.provider with
  | .allowAll => .ok Policy.allowAll
  | .server =>
      match settings.serverUri with
      | none => .error (Environment.missing ["OPA_SERVER_URI"] "opa")
      | some uri => .ok (Policy.Server.policy ⟨uri, settings.headers⟩ transport)

end PolicySettings
end SignedGateway
