import SignedGateway.Http.Message
import SignedGateway.Incoming.Chunked
import SignedGateway.Signature.Signer
import SignedGateway.Store.Connection
import SignedGateway.Uri.Query

namespace SignedGateway

/-!
# Requests for the store

What the gateway sends to the store is the client's request, addressed to the
store and signed anew with the credential of the connection.  The client's
signature, and the headers that concern only the client's own exchange, are left
out; a body in chunks is sent as a whole.  Every header that is sent is signed,
with the few exceptions that no signature covers.
-/

structure OutboundRequest where
  method : String
  uri : Uri
  headers : Http.Fields
  body : List UInt8
  role : Option SessionRole
  bucket : String
  key : String
  deriving DecidableEq, Repr

namespace Outbound

/-- Headers of the client that are not sent, or are made anew. -/
def droppedHeaders : List String :=
  ["authorization", "host", "x-amz-date", "x-amz-security-token", "content-length", "expect",
   "connection", "keep-alive", "proxy-authorization", "proxy-connection", "te", "trailer",
   "transfer-encoding", "upgrade"]

/-- The parameters that are sent: all but those that presign a request. -/
def parameters (query : MultiMap) : MultiMap :=
  MultiMap.ofPairs true
    (query.pairs.filter fun pair => !Authorization.presignedParameters.contains pair.1)

/-- The client's headers that are kept. -/
def keptHeaders (headers : MultiMap) : MultiMap :=
  MultiMap.ofPairs false (headers.pairs.filter fun pair => !droppedHeaders.contains pair.1)

/-- The codings that are left, of the first line that lists any. -/
def remainingCodings (headers : MultiMap) : Option String :=
  (headers.getFirst? "content-encoding").bind Chunked.otherCodings

/-- The headers of a body that came in chunks and is sent as a whole. -/
def wholeBodyHeaders (client kept : MultiMap) (hash : String) : MultiMap :=
  let bare := (kept.remove "content-encoding").remove "x-amz-decoded-content-length"
  let coded :=
    match remainingCodings client with
    | some codings => bare.put "content-encoding" codings
    | none => bare
  coded.put Signature.payloadHeader hash

/-- The body that is sent, and the headers that describe it. -/
def payload (suite : Digest.Suite) (request : StoreRequest) :
    Except GatewayError (List UInt8 × MultiMap) :=
  let kept := keptHeaders request.headers
  if Chunked.isAnnounced request.headers then
    match Chunked.decode request.body with
    | .error fault => .error fault.toGatewayError
    | .ok body =>
        .ok (body, wholeBodyHeaders request.headers kept (Signature.payloadHash suite body))
  else if request.headers.contains Signature.payloadHeader then .ok (request.body, kept)
  else
    .ok (request.body,
      kept.put Signature.payloadHeader (Signature.payloadHash suite request.body))

/-- The date that is signed.  A presigned request may be old, so it is dated anew. -/
def dateOf (clock : Clock) (request : StoreRequest) : String :=
  if request.authorization.isPresigned then clock.now.stamp else request.date

/-- The headers that are made anew. -/
def addressed (headers : MultiMap) (host date : String) (token : Option String) : MultiMap :=
  let dated := (headers.put "host" host).put "x-amz-date" date
  match token with
  | some text => dated.put "x-amz-security-token" text
  | none => dated

/-- The headers as fields of a message. -/
def fieldsFrom (fields : Http.Fields) : List (String × String) → Except GatewayError Http.Fields
  | [] => .ok fields
  | (name, value) :: rest =>
      if !Http.isFieldName name then
        .error (.malformed .invalidArgument ("invalid header name " ++ name))
      else if !Http.isFieldValue (Utf8.bytesOf value) then
        .error (.malformed .invalidArgument ("invalid value for header " ++ name))
      else fieldsFrom (Http.Fields.append fields name (Utf8.bytesOf value)) rest

/-- The headers and the signature as fields of a message. -/
def signedFields (headers : MultiMap) (authorization : String) :
    Except GatewayError Http.Fields := do
  let fields ← fieldsFrom [] headers.pairs
  if Http.isFieldValue (Utf8.bytesOf authorization) then
    return Http.Fields.insert fields "authorization" (Utf8.bytesOf authorization)
  else
    throw (.configuration "invalid upstream authorization: failed to parse header value")

/-- What signs for the store: the caller's record with the connection's credential
and role in it. -/
def contextFor (record : CredentialRecord) (credential : Credential) (role : Option SessionRole)
    (region : String) : SigningContext :=
  ⟨.s3, { record with remote := some credential, role := role }, some region⟩

/-- Where the request goes. -/
def targetOf (request : StoreRequest) : StoreTarget :=
  { key := request.key
    bucket := request.bucket
    region := request.authorization.region
    query := Uri.Query.render? (parameters request.query) }

/-- The request for the store once its address is known. -/
def assemble (suite : Digest.Suite) (clock : Clock) (request : StoreRequest)
    (record : CredentialRecord) (credential : Credential) (role : Option SessionRole) (uri : Uri) :
    Except GatewayError OutboundRequest := do
  let some authority := uri.authority
    | throw (.configuration ("upstream URI " ++ uri.render ++ " has no host"))
  let (body, described) ← payload suite request
  let region := request.authorization.region
  let date := dateOf clock request
  let headers := addressed described authority.text date credential.session
  let signed ←
    (Signature.sign suite clock (contextFor record credential role region) .remote
      { method := request.method
        path := uri.path
        headers := headers
        query := parameters request.query
        date := date
        region := region }).mapError AuthError.toGatewayError
  let fields ← signedFields headers signed.authorization
  if Http.isToken request.method then
    return {
      method := request.method
      uri := uri
      headers := fields
      body := body
      role := role
      bucket := request.bucket
      key := request.key }
  else throw (.malformed .invalidRequest ("invalid method " ++ request.method))

variable {Outside : Type}

/-- The request for the store over a connection.  The connection's own address rule
goes before the general one, and the clock is read when the address is known. -/
def prepare (suite : Digest.Suite) (maxDrift : Nat) (general : EndpointRule Outside)
    (connection : Connection Outside) (record : CredentialRecord) (request : StoreRequest) :
    Attempt Outside OutboundRequest := do
  let uri ← (connection.endpoint.getD general) (targetOf request)
  let now ← Attempt.act Act.now
  Attempt.ofExcept
    (assemble suite ⟨now, maxDrift⟩ request record connection.credential connection.role uri)

end Outbound
end SignedGateway
