import SignedGateway.Signature.Canonical
import SignedGateway.Signature.Clock
import SignedGateway.Signature.Key

namespace SignedGateway
namespace Signature

/-!
# Signing a request

All headers are signed except those that intermediaries may change.  The day of
the scope is the beginning of the request's date.
-/

/-- Headers that are never signed. -/
def ignoredHeaders : List String :=
  ["authorization", "connection", "expect", "user-agent", "x-amzn-trace-id"]

/-- The digest of an empty body. -/
def emptyPayloadHash : String :=
  "e3b0c44298fc1c149afbf4c8996fb92427ae41e4649b934ca495991b7852b855"

/-- The header in which a client declares the digest of the body. -/
def payloadHeader : String := "x-amz-content-sha256"

structure Signed where
  authorization : String
  signature : String
  signedHeaders : List String
  deriving DecidableEq, Repr

/-- What is signed of a request. -/
structure Signable where
  method : String
  path : String
  headers : MultiMap
  query : MultiMap
  date : String
  region : String

/-- The text up to a number of bytes, if a character ends there. -/
def takeBytes : Nat → List Char → Option (List Char)
  | 0, _ => some []
  | _ + 1, [] => none
  | size + 1, c :: rest =>
      if c.utf8Size ≤ size + 1 then (takeBytes (size + 1 - c.utf8Size) rest).map (c :: ·) else none
  termination_by _ cs => cs.length

/-- The day of a scope: the first eight bytes of the date. -/
def scopeDate (date : String) : Except AuthError String :=
  match takeBytes 8 date.toList with
  | some day => .ok (String.ofList day)
  | none => .error (.invalidDate date)

/-- The names of the headers that are signed. -/
def namesToSign (headers : MultiMap) : List String :=
  headers.keys.filter fun name => !ignoredHeaders.contains name

/-- Sign a request with one of the credentials of a record. -/
def sign (suite : Digest.Suite) (clock : Clock) (context : SigningContext) (selector : Selector)
    (request : Signable) : Except AuthError Signed := do
  clock.checkDrift request.date
  let credential ←
    match context.record.select selector with
    | .ok credential => pure credential
    | .error _ => throw (.noRemoteCredential context.record.emulated.accessKey)
  let names := namesToSign request.headers
  let headerPairs := request.headers.pairs.filter fun pair => names.contains pair.1
  let hash := (request.headers.getFirst? payloadHeader).getD emptyPayloadHash
  let day ← scopeDate request.date
  let scope : KeyScope := ⟨day, request.region, context.service.name⟩
  let canonicalRequest :=
    Canonical.request request.method request.path request.query.pairs headerPairs names hash
  let signature := ofCanonical suite credential.secretKey request.date scope canonicalRequest
  return {
    authorization :=
      Authorization.renderHeader credential.accessKey scope.text (Canonical.signedHeaders names)
        signature
    signature := signature
    signedHeaders := Text.sort names }

end Signature
end SignedGateway
