import SignedGateway.Gateway.Pipeline
import SignedGateway.Gateway.Role
import SignedGateway.Http.Transport
import SignedGateway.Incoming.Request
import SignedGateway.Settings.Gateway

namespace SignedGateway

/-!
# The gateway as a service

Every message gets one answer.  A message that makes a request is logged: its
method and caller, what the pipeline noted, and the status of the answer.  A
request for the store is forwarded once, and the store's answer is passed on
without the headers that belong to a single connection.
-/

/-- What arrived as the body of a message. -/
inductive ReceivedBody where
  | whole (bytes : List UInt8)
  | broken
  deriving DecidableEq, Repr

/-- A message whose body has not been accepted yet. -/
structure Arrival where
  method : String
  uri : Uri
  headers : Http.Fields
  body : ReceivedBody
  deriving DecidableEq, Repr

/-- An answer, and the event that reports the request if the message made one. -/
structure Handled where
  response : Http.Response
  event : Option RequestEvent
  deriving DecidableEq, Repr

structure GatewayService (Outside : Type) where
  pipeline : Pipeline Outside
  transport : Http.Transport Outside
  ownPath : Option String
  maxBody : Nat

namespace GatewayService

/-- Headers that belong to a single connection. -/
def hopByHopHeaders : List String :=
  ["connection", "keep-alive", "proxy-authenticate", "proxy-authorization", "te", "trailer",
   "transfer-encoding", "upgrade"]

def isHealthCheck (arrival : Arrival) : Bool :=
  arrival.method == "GET" && (arrival.uri.path == "/health" || arrival.uri.path == "/_health")

def healthDocument : String :=
  Json.renderPairs [("status", "running"), ("service", "s3proxy")]

def healthResponse : Http.Response :=
  ⟨200, [("content-type", [Utf8.bytesOf "application/json"])], Utf8.bytesOf healthDocument⟩

/-- The headers that every answer has. -/
def withCommonHeaders (requestId : String) (response : Http.Response) : Http.Response :=
  let identified := Http.Fields.insert response.headers "x-amz-request-id" (Utf8.bytesOf requestId)
  { response with headers := Http.Fields.insert identified "server" (Utf8.bytesOf "s3proxy") }

def bodyTooLarge : GatewayError :=
  .malformed .entityTooLarge "Your proposed upload exceeds the maximum allowed size"

def bodyUnreadable : GatewayError :=
  .malformed .invalidRequest "failed to read request body"

/-- The body of a message, if it came whole and is not too large. -/
def acceptBody (limit : Nat) : ReceivedBody → Except GatewayError (List UInt8)
  | .broken => .error bodyUnreadable
  | .whole bytes => if limit < bytes.length then .error bodyTooLarge else .ok bytes

def storeUnreachable : GatewayError :=
  .provider (some 502) "upstream request failed"

def storeReplyTruncated : GatewayError :=
  .provider (some 502) "upstream response was truncated"

/-- The store's answer without the headers of its connection. -/
def relayed (reply : Http.Response) : Http.Response :=
  { reply with
    headers := reply.headers.filter fun field => !hopByHopHeaders.contains field.1 }

/-- What an exchange with the store is answered with. -/
def interpret : Http.Exchange → Except GatewayError Http.Response
  | .unreachable _ => .error storeUnreachable
  | .answered reply complete => if complete then .ok (relayed reply) else .error storeReplyTruncated

variable {Outside : Type}

def forward (service : GatewayService Outside) (outbound : OutboundRequest) :
    Attempt Outside Http.Response := do
  let exchange ←
    Attempt.act
      (service.transport.send outbound.method outbound.uri.render
        (Http.Fields.pairs outbound.headers) outbound.body)
  Attempt.ofExcept (interpret exchange)

/-- Serve a request: one for a role by the gateway itself, any other by the store. -/
def dispatch (service : GatewayService Outside) (request : StoreRequest) :
    Attempt Outside Http.Response := do
  if request.authorization.service = SigningService.sts.name then
    let context ← service.pipeline.authenticate request
    Role.answer service.pipeline.credentials request context
  else
    let outbound ← service.pipeline.process request
    service.forward outbound

/-- Begin the log of a request. -/
def beginLog (request : StoreRequest) : Act Outside Unit := do
  modify fun world => { world with log := RequestLog.start request.requestId }
  Act.note (.property "method" request.method)
  Act.note (.property "access_key" request.authorization.accessKey)

/-- Note how a request ended, and report it. -/
def finish (request : StoreRequest) (result : Except GatewayError Http.Response) :
    Act Outside Handled := do
  match result with
  | .ok response =>
      Act.note (.property "status" (Text.decimal response.status))
      return ⟨response, some (← get).log.event⟩
  | .error error =>
      Act.note (.property "status" (Text.decimal error.status))
      Act.note (.error "pipeline" error.message)
      return ⟨Http.errorResponse error (some request.rawPath) request.requestId,
        some (← get).log.event⟩

/-- Serve a request and report it; nothing answers one whose dates leave the
calendar. -/
def serve (service : GatewayService Outside) (request : StoreRequest) :
    Act Outside (Option Handled) := do
  beginLog request
  match ← (service.dispatch request).outcome with
  | .ok response => return some (← finish request (.ok response))
  | .error (.failed error) => return some (← finish request (.error error))
  | .error .outOfCalendar => return none

/-- The answer to a message under a given identifier, without the common headers. -/
def respond (service : GatewayService Outside) (requestId : String) (arrival : Arrival) :
    Act Outside (Option Handled) := do
  let refuse (error : GatewayError) : Handled :=
    ⟨Http.errorResponse error (some arrival.uri.path) requestId, none⟩
  if isHealthCheck arrival then return some ⟨healthResponse, none⟩
  else
    match acceptBody service.maxBody arrival.body with
    | .error error => return some (refuse error)
    | .ok body =>
        match Incoming.read ⟨arrival.method, arrival.uri, arrival.headers, body⟩ service.ownPath
            requestId with
        | .error error => return some (refuse error)
        | .ok request => service.serve request

/-- Handle a message. -/
def handle (service : GatewayService Outside) (arrival : Arrival) :
    Act Outside (Option Handled) := do
  let requestId ← Act.draw Supply.identifier
  let handled ← service.respond requestId arrival
  return handled.map fun done =>
    { done with response := withCommonHeaders requestId done.response }

end GatewayService
end SignedGateway
