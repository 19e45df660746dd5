import SignedGateway.Credential.Source
import SignedGateway.Http.Transport
import SignedGateway.Uri.Query

namespace SignedGateway

/-!
# The credentials service

Records may be kept by a service that is asked over HTTP, one access key at a
time.  It answers with a record, or with nothing for an unknown key.  Answers can
be kept so that the same key and token are not asked for again; failures are
never kept.
-/

structure CredentialService where
  endpoint : String
  headers : List (String × List UInt8)
  keepsAnswers : Bool
  deriving DecidableEq, Repr

namespace CredentialService

/-- Header fields that may be sent. -/
def checkHeaders : List (String × String) → Except GatewayError (List (String × List UInt8))
  | [] => .ok []
  | (name, value) :: rest =>
      if !Http.isFieldName name then
        .error (.configuration
          ("invalid credentials header name " ++ name ++ ": invalid HTTP header name"))
      else if !Http.isFieldValue (Utf8.bytesOf value) then
        .error (.configuration "invalid credentials header value: failed to parse header value")
      else do return (name, Utf8.bytesOf value) :: (← checkHeaders rest)

/-- A service at an endpoint that is asked with some headers. -/
def make (endpoint : String) (headers : List (String × String)) (keepsAnswers : Bool) :
    Except GatewayError CredentialService := do
  return ⟨Text.trimMarkEnd '/' endpoint, ← checkHeaders headers, keepsAnswers⟩

/-- Where a record is asked for.  The access key is one segment in which only
letters and digits stand for themselves. -/
def lookupUrl (service : CredentialService) (accessKey : String) (token : Option String) : String :=
  service.endpoint ++ "/" ++ Uri.Percent.encodeWith Uri.Percent.isAlphanumeric accessKey ++
    (match token with
      | some text => "?sessionToken=" ++ Uri.Form.encode text
      | none => "")

/-- Bytes that make up an answer without content. -/
def isBlankByte (byte : UInt8) : Bool :=
  byte == 0x20 || byte == 0x09 || byte == 0x0A || byte == 0x0C || byte == 0x0D

/-- The record in a body. -/
def readRecord (body : List UInt8) : Except Json.ReadError CredentialRecord :=
  Json.Tree.parseBytes body >>= CredentialRecord.ofTree

/-- What an exchange says about a key. -/
def interpret : Http.Exchange → Except GatewayError (Option CredentialRecord)
  | .unreachable detail => .error (.provider none ("credentials request failed: " ++ detail))
  | .answered reply complete =>
      if reply.status = 404 then .ok none
      else if !Http.isSuccess reply.status then
        .error (.provider (some reply.status)
          ("credentials service returned " ++ Http.statusText reply.status))
      else if !complete then
        .error (.provider none "cannot read credentials response: the body breaks off")
      else if reply.body.all isBlankByte then .ok none
      else
        match readRecord reply.body with
        | .ok record => .ok (some record)
        | .error fault =>
            .error (.provider none ("invalid credentials response: " ++ fault.message))

variable {Outside : Type}

/-- Ask the service. -/
def fetch (service : CredentialService) (transport : Http.Transport Outside) :
    RecordLookup Outside := fun accessKey token => do
  let exchange ←
    Attempt.act (transport.send "GET" (service.lookupUrl accessKey token) service.headers [])
  Attempt.ofExcept (interpret exchange)

/-- Use a kept answer, or ask and keep the answer. -/
def fetchOnce (service : CredentialService) (transport : Http.Transport Outside) :
    RecordLookup Outside := fun accessKey token => do
  match (← get).cache.lookup (accessKey, token) with
  | some answer => return answer
  | none =>
      let answer ← service.fetch transport accessKey token
      modify fun world => { world with cache := ((accessKey, token), answer) :: world.cache }
      return answer

def lookup (service : CredentialService) (transport : Http.Transport Outside) :
    RecordLookup Outside :=
  if service.keepsAnswers then service.fetchOnce transport else service.fetch transport

end CredentialService
end SignedGateway
