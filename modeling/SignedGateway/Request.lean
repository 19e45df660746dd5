import SignedGateway.Credential
import SignedGateway.MultiMap

namespace SignedGateway

/-!
# Requests for objects

A request as the gateway understands it: who signed it and how, which object it
asks for, and the headers, parameters and body that go with it.
-/

/-- How a request was signed.  `expires` holds the seconds for which a presigned
request stays valid; a request signed in its header has none. -/
structure Authorization where
  accessKey : String
  date : String
  region : String
  service : String
  signedHeaders : List String
  signature : String
  securityToken : Option String
  expires : Option Nat
  deriving DecidableEq, Repr

namespace Authorization

/-- The scope of a signature: day, region and service. -/
def scopeText (date region service : String) : String :=
  date ++ "/" ++ region ++ "/" ++ service ++ "/aws4_request"

def scope (authorization : Authorization) : String :=
  scopeText authorization.date authorization.region authorization.service

def isPresigned (authorization : Authorization) : Bool :=
  authorization.expires.isSome

end Authorization

/-- A request for an object, a bucket (empty key) or the service (both empty). -/
structure StoreRequest where
  requestId : String
  authorization : Authorization
  date : String
  bucket : String
  key : String
  headers : MultiMap
  query : MultiMap
  method : String
  rawPath : String
  rawQuery : Option String
  body : List UInt8
  deriving DecidableEq, Repr

/-- The same request for another object. -/
def StoreRequest.withBucketAndKey (request : StoreRequest) (bucket key : String) : StoreRequest :=
  { request with bucket := bucket, key := key }

/-- The services that a signature may be for. -/
inductive SigningService where
  | s3
  | sts
  deriving DecidableEq, Repr

def SigningService.name : SigningService → String
  | .s3 => "s3"
  | .sts => "sts"

def SigningService.ofName? (name : String) : Option SigningService :=
  if name = "s3" then some .s3 else if name = "sts" then some .sts else none

/-- What a signature is made or checked with. -/
structure SigningContext where
  service : SigningService
  record : CredentialRecord
  region : Option String
  deriving Repr

end SignedGateway
