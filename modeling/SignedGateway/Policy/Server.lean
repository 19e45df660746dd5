import SignedGateway.Http.Transport
import SignedGateway.Json.Tree
import SignedGateway.Policy.Basic

namespace SignedGateway
namespace Policy

/-!
# Policy servers

A policy server is sent a document that describes the request and answers with a
document of its own.  The request is allowed when the answer's `result` is `true`;
whatever else a server answers denies it, and a server that gives no proper answer
makes the request fail.
-/

/-- A document for a server, with the header fields that go with it. -/
structure Question where
  serverUri : String
  document : Json
  headers : List (String × String)
  deriving Repr

/-- What a policy is told about the request, apart from who signed it. -/
def requestDocument (request : StoreRequest) (action : Option String) : Json :=
  Json.ofFields
    [("id", .text request.requestId), ("method", .text request.method),
     ("bucket", .text request.bucket), ("key", .text request.key),
     ("action", Json.ofOption (action.map Json.text)), ("path", .text request.rawPath),
     ("query",
       Json.ofFields (request.query.entries.map fun entry => (entry.1, Json.ofStrings entry.2)))]

/-- What a policy is told about the request and about who signed it. -/
def documentFor (request : StoreRequest) (context : SigningContext) (action : Option String) :
    Json :=
  Json.ofFields
    [("request", requestDocument request action),
     ("accessKey", .text context.record.emulated.accessKey),
     ("identity", Json.ofOption (context.record.identity.map Identity.toJson)),
     ("region", Json.ofOption (context.region.map Json.text)),
     ("service", .text context.service.name)]

/-- The form in which a server takes a document. -/
def envelope (document : Json) : Json :=
  Json.ofFields [("input", document)]

/-- What a server's answer decides. -/
def decisionOf (answer : Json) : Decision :=
  match answer.field? "result" with
  | some (.bool true) => .allowed
  | _ => .denied none

/-- A policy server and the header fields that it is sent. -/
structure Server where
  uri : String
  headers : List (String × String)
  deriving DecidableEq, Repr

namespace Server

def questionFor (server : Server) (request : StoreRequest) (context : SigningContext)
    (action : Option String) : Question :=
  ⟨server.uri, documentFor request context action, server.headers⟩

/-- The header fields that travel with a document. -/
def documentHeaders (headers : List (String × String)) : List (String × List UInt8) :=
  (("content-type", "application/json") :: headers).map fun pair => (pair.1, Utf8.bytesOf pair.2)

/-- What an exchange with a server decides. -/
def interpret : Http.Exchange → Except GatewayError Decision
  | .unreachable detail => .error (.provider none ("policy server request failed: " ++ detail))
  | .answered reply complete =>
      if !Http.isSuccess reply.status then
        .error (.provider none ("policy server returned " ++ Http.statusText reply.status))
      else if !complete then
        .error (.provider none "invalid policy server response: the body breaks off")
      else
        match Utf8.decode reply.body with
        | none => .error (.provider none "invalid policy server response: no text")
        | some text =>
            match Json.parse text with
            | .ok answer => .ok (decisionOf answer)
            | .error fault =>
                .error (.provider none ("invalid policy server response: " ++ fault.message))

variable {Outside : Type}

/-- Put a question to its server. -/
def ask (transport : Http.Transport Outside) (question : Question) : Attempt Outside Decision := do
  let exchange ←
    Attempt.act
      (transport.send "POST" question.serverUri (documentHeaders question.headers)
        (Utf8.bytesOf (envelope question.document).render))
  Attempt.ofExcept (interpret exchange)

/-- Ask about a request and note the decision or the failure. -/
def judge (server : Server) (transport : Http.Transport Outside) (request : StoreRequest)
    (context : SigningContext) : Judge Outside := fun action => do
  let decision ← notingFailure "opa" (ask transport (server.questionFor request context action))
  Attempt.note (.property "opa.decision" (if decision.isAllowed then "allow" else "deny"))
  return decision

/-- The policy of a server. -/
def policy (server : Server) (transport : Http.Transport Outside) : Policy Outside :=
  ⟨fun request context => pure (server.judge transport request context)⟩

end Server
end Policy
end SignedGateway
