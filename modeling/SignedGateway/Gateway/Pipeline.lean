import SignedGateway.BucketMapping
import SignedGateway.Credential.Source
import SignedGateway.Gateway.Outbound
import SignedGateway.Policy.Basic
import SignedGateway.Signature.Verifier

namespace SignedGateway

/-!
# From a client's request to one for the store

A request passes five collaborators in turn: the source of records, the policy,
the mapping of buckets, the connections and the address rule.  Each is asked at
most once, and whatever one of them refuses is the answer; the later ones are then
not asked.
-/

/-- The collaborators and functions that a request passes. -/
structure Pipeline (Outside : Type) where
  suite : Digest.Suite
  maxDrift : Nat
  credentials : CredentialSource Outside
  policy : Policy Outside
  remap : CredentialRecord → StoreRequest → Act Outside (Option Remapped)
  connections : ConnectionRule Outside
  endpoint : EndpointRule Outside

namespace Pipeline

variable {Outside : Type}

/-- A pipeline that allows everything, maps no bucket, and takes connections from
the records. -/
def standard (suite : Digest.Suite) (maxDrift : Nat) (credentials : CredentialSource Outside) :
    Pipeline Outside :=
  { suite := suite
    maxDrift := maxDrift
    credentials := credentials
    policy := Policy.allowAll
    remap := fun _ _ => pure none
    connections := Connection.fromRecord
    endpoint := Addressing.standard.rule }

def clock (pipeline : Pipeline Outside) : Act Outside Clock := do
  return ⟨← Act.now, pipeline.maxDrift⟩

def unsupportedService (name : String) : GatewayError :=
  .authentication .authorizationHeaderMalformed
    ("unsupported service in credential scope: " ++ name)

def unknownAccessKey : GatewayError :=
  .notFound .invalidAccessKeyId
    "The AWS Access Key Id you provided does not exist in our records."

def noConnection (bucket : String) : GatewayError :=
  .notFound .noSuchBucket ("no remote connection is registered for bucket " ++ bucket)

/-- Find the caller's record and verify the signature and the declared digest. -/
def authenticate (pipeline : Pipeline Outside) (request : StoreRequest) :
    Attempt Outside SigningContext := do
  let authorization := request.authorization
  let some service := SigningService.ofName? authorization.service
    | Attempt.fail (unsupportedService authorization.service)
  let some record ← pipeline.credentials.lookup authorization.accessKey authorization.securityToken
    | Attempt.fail unknownAccessKey
  let clock ← Attempt.act pipeline.clock
  Attempt.ofCheck (Signature.verify pipeline.suite clock record request)
  Attempt.ofCheck
    ((Signature.verifyPayload pipeline.suite request.headers request.body).mapError Halt.failed)
  return ⟨service, record, some authorization.region⟩

/-- The request with its alias resolved. -/
def resolve (pipeline : Pipeline Outside) (record : CredentialRecord) (request : StoreRequest) :
    Act Outside StoreRequest := do
  match ← pipeline.remap record request with
  | some remapped => return remapped.applyTo request
  | none => return request

/-- Authorise a verified request and make the one for the store. -/
def route (pipeline : Pipeline Outside) (request : StoreRequest) (context : SigningContext) :
    Attempt Outside OutboundRequest := do
  let decision ← pipeline.policy.verdict request context
  Attempt.ofExcept decision.toExcept
  let resolved ← Attempt.act (pipeline.resolve context.record request)
  Attempt.note (.property "bucket" resolved.bucket)
  Attempt.note (.property "key" resolved.key)
  let some connection ← pipeline.connections context resolved
    | Attempt.fail (noConnection resolved.bucket)
  let outbound ←
    Outbound.prepare pipeline.suite pipeline.maxDrift pipeline.endpoint connection context.record
      resolved
  Attempt.note (.property "upstream" outbound.uri.render)
  return outbound

def notProxied (service : SigningService) : GatewayError :=
  .malformed .invalidRequest (service.name ++ " requests are not proxied")

/-- Verify a request, authorise it and make the one for the store. -/
def process (pipeline : Pipeline Outside) (request : StoreRequest) :
    Attempt Outside OutboundRequest := do
  let context ← pipeline.authenticate request
  match context.service with
  | .s3 => pipeline.route request context
  | .sts => Attempt.fail (notProxied .sts)

end Pipeline
end SignedGateway
