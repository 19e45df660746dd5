import SignedGateway.Request
import SignedGateway.Text.Blank
import SignedGateway.Text.Decimal

namespace SignedGateway
namespace Authorization

/-!
# How a request says who signed it

A signature travels in the `Authorization` header or, for a presigned request, in
query parameters.  Both name the credential with its scope, the headers that are
signed, and the signature.  The text written for a header is read back by the
same rules.
-/

/-- The only algorithm that the gateway signs and verifies with. -/
def algorithm : String := "AWS4-HMAC-SHA256"

/-- The query parameter that holds the signature of a presigned request. -/
def signatureParameter : String := "X-Amz-Signature"

/-- The query parameters of a presigned request; none of them reaches the store. -/
def presignedParameters : List String :=
  ["X-Amz-Algorithm", "X-Amz-Credential", "X-Amz-Date", "X-Amz-Expires", "X-Amz-SignedHeaders",
   signatureParameter, "X-Amz-Security-Token"]

/-- An access key with the day, region and service that a signature is for. -/
structure Scope where
  accessKey : String
  date : String
  region : String
  service : String
  deriving DecidableEq, Repr

/-- A scope has five parts, ends in `aws4_request` and names an access key. -/
def parseScope (credential : String) : Except AuthError Scope :=
  match Text.splitUpTo '/' 5 credential with
  | [accessKey, date, region, service, last] =>
      if last = "aws4_request" ∧ accessKey ≠ "" then .ok ⟨accessKey, date, region, service⟩
      else .error .invalidCredential
  | _ => .error .invalidCredential

/-- The names in a list of signed headers, in lower case. -/
def parseSignedHeaders (text : String) : List String :=
  ((Text.splitOn ';' text).filter (· != "")).map Text.lower

/-- The fields of a header as far as they have been read. -/
structure HeaderFields where
  credential : Option String
  signedHeaders : Option String
  signature : Option String
  deriving DecidableEq, Repr

/-- One field of a header; of two fields with one name the later counts. -/
def readField (fields : HeaderFields) (part : String) : HeaderFields :=
  let field := Text.trim part
  match Text.afterHead "Credential=" field with
  | some value => { fields with credential := some value }
  | none =>
      match Text.afterHead "SignedHeaders=" field with
      | some value => { fields with signedHeaders := some value }
      | none =>
          match Text.afterHead "Signature=" field with
          | some value => { fields with signature := some value }
          | none => fields

def readFields (text : String) : HeaderFields :=
  (Text.splitOn ',' text).foldl readField ⟨none, none, none⟩

/-- Read the `Authorization` header.  The token of a temporary credential travels
apart from it. -/
def parseHeader (header : String) (securityToken : Option String) :
    Except AuthError Authorization := do
  let some (name, rest) := Text.splitOnce ' ' (Text.trim header) | throw .invalidAuthHeader
  if name ≠ algorithm then throw (.unsupportedAlgorithm name)
  let fields := readFields rest
  let some credential := fields.credential | throw .invalidAuthHeader
  let some signedHeaders := fields.signedHeaders | throw .invalidAuthHeader
  let some signature := fields.signature | throw .invalidAuthHeader
  let scope ← parseScope credential
  return {
    accessKey := scope.accessKey
    date := scope.date
    region := scope.region
    service := scope.service
    signedHeaders := parseSignedHeaders signedHeaders
    signature := signature
    securityToken := securityToken
    expires := none }

/-- The header that carries a signature. -/
def renderHeader (accessKey scope signedHeaders signature : String) : String :=
  algorithm ++ " Credential=" ++ accessKey ++ "/" ++ scope ++ ", SignedHeaders=" ++ signedHeaders ++
    ", Signature=" ++ signature

/-- Whether the parameters claim to be those of a presigned request. -/
def claimsPresigned (query : MultiMap) : Bool :=
  query.contains "X-Amz-Algorithm" || query.contains signatureParameter

def requiredParameter (query : MultiMap) (name : String) : Except AuthError String :=
  match query.getFirst? name with
  | some value => .ok value
  | none => .error (.missingQueryParam name)

/-- The authorization of a presigned request, with its date. -/
structure Presigned where
  authorization : Authorization
  date : String
  deriving DecidableEq, Repr

/-- Read the parameters of a presigned request.  Every parameter is asked for
before the values are looked into. -/
def parsePresigned (query : MultiMap) : Except AuthError Presigned := do
  let name ← requiredParameter query "X-Amz-Algorithm"
  if name ≠ algorithm then throw (.unsupportedAlgorithm name)
  let credential ← requiredParameter query "X-Amz-Credential"
  let date ← requiredParameter query "X-Amz-Date"
  let lifetime ← requiredParameter query "X-Amz-Expires"
  let signedHeaders ← requiredParameter query "X-Amz-SignedHeaders"
  let signature ← requiredParameter query signatureParameter
  let expires ←
    match Text.readWord lifetime with
    | .ok seconds => pure seconds
    | .error _ => throw (.missingQueryParam "X-Amz-Expires (invalid integer)")
  let scope ← parseScope credential
  return {
    authorization := {
      accessKey := scope.accessKey
      date := scope.date
      region := scope.region
      service := scope.service
      signedHeaders := parseSignedHeaders signedHeaders
      signature := signature
      securityToken := query.getFirst? "X-Amz-Security-Token"
      expires := some expires }
    date := date }

end Authorization
end SignedGateway
