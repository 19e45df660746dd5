import SignedGateway.Signature.Signer

namespace SignedGateway
namespace Signature

/-!
# Verifying a request

The verifier builds the canonical request from what the request says was signed
and compares signatures.  It insists that the host and every header that belongs
to the protocol are among the signed ones, and that no signed header is missing.
-/

/-- Stands for the digest of the body in the signature of a presigned request. -/
def unsignedPayload : String := "UNSIGNED-PAYLOAD"

/-- The beginning of the names of headers that belong to the protocol. -/
def protocolHead : String := "x-amz-"

/-- Refuse a request whose host or whose protocol headers are not signed. -/
def checkSignedHeaders (signed : List String) (headers : MultiMap) : Except AuthError Unit :=
  if !signed.contains "host" then .error (.missingHeader "host")
  else
    match headers.keys.find? fun name =>
        Text.startsWith protocolHead name && !signed.contains name with
    | some name => .error (.missingHeader name)
    | none => .ok ()

/-- The signed headers with their values; none may be missing. -/
def signedPairs (headers : MultiMap) : List String → Except AuthError (List (String × String))
  | [] => .ok []
  | name :: rest =>
      match headers.get name with
      | [] => .error (.missingHeader name)
      | values => do return values.map (fun value => (name, value)) ++ (← signedPairs headers rest)

/-- The headers that the signature covers, after the check that they are enough. -/
def coveredHeaders (request : StoreRequest) : Except AuthError (List (String × String)) := do
  let signed := request.authorization.signedHeaders
  checkSignedHeaders signed request.headers
  signedPairs request.headers signed

/-- The parameters and the payload hash that the signature covers, after the check
of the date that goes with the way in which the request was signed. -/
def coveredParts (suite : Digest.Suite) (clock : Clock) (request : StoreRequest) :
    Except (Halt AuthError) (List (String × String) × String) :=
  match request.authorization.expires with
  | none =>
      match clock.checkDrift request.date with
      | .error fault => .error (.failed fault)
      | .ok () =>
          .ok (request.query.pairs,
            (request.headers.getFirst? payloadHeader).getD (payloadHash suite request.body))
  | some lifetime =>
      match clock.checkLifetime request.date lifetime with
      | .error halt => .error halt
      | .ok () =>
          .ok (request.query.pairs.filter (fun pair => pair.1 != Authorization.signatureParameter),
            unsignedPayload)

/-- The signature that the request should have. -/
def expected (suite : Digest.Suite) (secret : String) (request : StoreRequest)
    (parameters headerPairs : List (String × String)) (hash : String) : String :=
  let authorization := request.authorization
  ofCanonical suite secret request.date
    ⟨authorization.date, authorization.region, authorization.service⟩
    (Canonical.request request.method request.rawPath parameters headerPairs
      authorization.signedHeaders hash)

/-- Check that a request was signed with the secret of a record. -/
def verify (suite : Digest.Suite) (clock : Clock) (record : CredentialRecord)
    (request : StoreRequest) : Except (Halt AuthError) Unit := do
  let (parameters, hash) ← coveredParts suite clock request
  let headerPairs ← (coveredHeaders request).mapError Halt.failed
  if request.authorization.signature =
      expected suite record.emulated.secretKey request parameters headerPairs hash then
    return ()
  else throw (.failed .signatureDoesNotMatch)

/-- Whether a declared hash is a digest and no marker. -/
def isConcreteHash (text : String) : Bool :=
  text.toList.length == 64 && text.toList.all fun c => (Text.hexValue c).isSome

/-- Compare the digest that the client declares with the body. -/
def verifyPayload (suite : Digest.Suite) (headers : MultiMap) (body : List UInt8) :
    Except AuthError Unit :=
  match headers.getFirst? payloadHeader with
  | none => .ok ()
  | some declared =>
      if isConcreteHash declared && !Text.sameLetters declared (payloadHash suite body) then
        .error .contentHashMismatch
      else .ok ()

end Signature
end SignedGateway
