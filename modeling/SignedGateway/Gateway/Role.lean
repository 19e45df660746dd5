import SignedGateway.Calendar.Stamp
import SignedGateway.Credential.Source
import SignedGateway.Http.Answer
import SignedGateway.Request
import SignedGateway.Uri.Query

namespace SignedGateway
namespace Role

/-!
# Requests for a role

A client asks for a temporary credential with parameters in its query or in a form
in its body; of parameters with one name the first counts, and an empty one counts
as missing.  The answer is a document with the credential.
-/

/-- The parameters of the query and then those of the body. -/
def parameters (request : StoreRequest) : List (String × String) :=
  request.query.pairs ++ Uri.Form.parsePairs request.body

def parameter? (parameters : List (String × String)) (name : String) : Option String :=
  (parameters.lookup name).filter (· != "")

/-- Refuse every action but the one that asks for a role. -/
def checkAction (parameters : List (String × String)) : Except GatewayError Unit :=
  match parameter? parameters "Action" with
  | none => .error (.malformed .invalidRequest "missing STS Action")
  | some action =>
      if action = "AssumeRole" then .ok ()
      else .error (.malformed .invalidRequest ("unsupported STS action " ++ action))

/-- The length of session that is asked for. -/
def readDuration (parameters : List (String × String)) : Except GatewayError (Option Nat) :=
  match parameter? parameters "DurationSeconds" with
  | none => .ok none
  | some text =>
      match Text.readWord text with
      | .ok seconds => .ok (some seconds)
      | .error _ => .error (.malformed .invalidArgument ("invalid DurationSeconds " ++ text))

/-- What a verified client asks for. -/
def read (request : StoreRequest) (context : SigningContext) : Except GatewayError RoleRequest := do
  let parameters := parameters request
  checkAction parameters
  let some roleArn := parameter? parameters "RoleArn"
    | throw (.malformed .invalidArgument "missing RoleArn")
  let duration ← readDuration parameters
  return {
    caller := context.record.emulated
    region := context.region.getD request.authorization.region
    roleArn := roleArn
    externalId := parameter? parameters "ExternalId"
    sessionName := parameter? parameters "RoleSessionName"
    duration := duration }

/-- The document that hands over a temporary credential. -/
def document (assumed : AssumedRole) (requestId : String) : String :=
  Xml.document
    (.element "AssumeRoleResponse" [("xmlns", "https://sts.amazonaws.com/doc/2011-06-15/")]
      [.element "AssumeRoleResult" []
        [.element "Credentials" []
          [Xml.leaf "AccessKeyId" assumed.credential.accessKey,
           Xml.leaf "SecretAccessKey" assumed.credential.secretKey,
           Xml.leaf "SessionToken" (assumed.credential.session.getD ""),
           Xml.leaf "Expiration" assumed.expiration.iso],
         .element "AssumedRoleUser" []
          [Xml.leaf "AssumedRoleId" assumed.roleId, Xml.leaf "Arn" assumed.arn]],
       .element "ResponseMetadata" [] [Xml.leaf "RequestId" requestId]])

def notPermitted : GatewayError :=
  .authorization (some "role assumption is not permitted")

variable {Outside : Type}

/-- Answer a verified request for a role. -/
def answer (credentials : CredentialSource Outside) (request : StoreRequest)
    (context : SigningContext) : Attempt Outside Http.Response := do
  let asked ← Attempt.ofExcept (read request context)
  let some assumed ← credentials.assumeRole asked
    | Attempt.fail notPermitted
  return Http.xmlResponse 200 (document assumed request.requestId)

end Role
end SignedGateway
