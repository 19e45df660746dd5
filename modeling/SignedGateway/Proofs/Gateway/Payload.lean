import SignedGateway.Proofs.Gateway.Client
import SignedGateway.Proofs.Gateway.Routing

namespace SignedGateway

/-!
# The body of a request that is let in

A client that signs in its header may declare a digest of its body.  The last line of the
text that it signs is what it declares, and the digest of the body if it declares nothing.
What is declared in the form of a digest is compared with the body.  Anything else is taken
for a marker: it is signed like a digest, and it says nothing about the body.
-/

namespace Signature

variable {suite : Digest.Suite} {clock : Clock} {record : CredentialRecord}
  {request : StoreRequest} {headers : MultiMap} {declared : String}

/-- Only a declaration in the form of a digest can be wrong. -/
theorem verifyPayload_eq_ok_iff {body : List UInt8}
    (declares : headers.getFirst? payloadHeader = some declared) :
    verifyPayload suite headers body = .ok () ↔
      (isConcreteHash declared = true →
        Text.sameLetters declared (payloadHash suite body) = true) := by
  rw [verifyPayload, declares]
  dsimp only
  cases isConcreteHash declared <;>
    cases Text.sameLetters declared (payloadHash suite body) <;> simp

/-- What is declared stands for the body in what is signed. -/
theorem verify_of_declared (declares : request.headers.getFirst? payloadHeader = some declared)
    (body : List UInt8) :
    verify suite clock record { request with body := body } = verify suite clock record request := by
  have parts : coveredParts suite clock { request with body := body } =
      coveredParts suite clock request := by
    unfold coveredParts
    dsimp only
    rw [declares]
    rfl
  unfold verify
  rw [parts]
  rfl

end Signature

/-- The request was signed with a secret, and the last line of what was signed is a given one. -/
def StoreRequest.SignedOver (request : StoreRequest) (suite : Digest.Suite)
    (secret lastLine : String) : Prop :=
  let authorization := request.authorization
  authorization.signature =
    Signature.ofCanonical suite secret request.date
      ⟨authorization.date, authorization.region, authorization.service⟩
      (Canonical.request request.method request.rawPath request.query.pairs
        (Signature.valuesOf request.headers authorization.signedHeaders)
        authorization.signedHeaders lastLine)

namespace Client

/-! ## A client that declares something -/

/-- What the client signs when it uploads an object with a declaration.  Its headers are those
that the gateway makes for the store. -/
def declaring (declared : String) : Signature.Signable :=
  { signable "/b/k" "" with
    method := "PUT"
    headers := storeHeaders declared }

theorem tidy_storeHeaders (hash : String) : (storeHeaders hash).Tidy where
  distinct := by
    change ["x-amz-content-sha256", "host", "x-amz-date"].Nodup
    decide
  normalized := by
    change ∀ key ∈ ["x-amz-content-sha256", "host", "x-amz-date"], MultiMap.normalize false key = key
    decide
  filled := by
    intro entry member empty
    have values : ∀ values ∈ [[hash], ["s3.r.amazonaws.com"], [date]], values ≠ [] := by
      simp
    exact values entry.2 (List.mem_map_of_mem member) empty

theorem declaringSendable (declared : String) : Signature.Sendable (declaring declared) :=
  ⟨tidy_storeHeaders declared, rfl, rfl, rfl, ⟨_, rfl⟩⟩

def declaringHeader (suite : Digest.Suite) (declared : String) : String :=
  match Signature.sign suite clock ⟨.s3, record, some "r"⟩ .emulated (declaring declared) with
  | .ok signed => signed.authorization
  | .error _ => ""

/-- The upload with its declaration and any body. -/
def declaringMessage (suite : Digest.Suite) (declared : String) (body : List UInt8) :
    Http.Request :=
  { method := "PUT"
    uri := ⟨none, none, some ⟨"/b/k", none⟩⟩
    headers := Http.Fields.ofMap
      ((declaring declared).sentHeaders (declaringHeader suite declared))
    body := body }

/-- The gateway reads the upload, finds the declaration and lets it in if it allows the body. -/
theorem exists_declared (suite : Digest.Suite) {declared : String}
    (valid : Http.isFieldValue (Utf8.bytesOf declared) = true) (body : List UInt8)
    (allowed : Signature.isConcreteHash declared = true →
      Text.sameLetters declared (Signature.payloadHash suite body) = true) :
    ∃ request, Incoming.read (declaringMessage suite declared body) none "id" = .ok request ∧
      request.body = body ∧ request.authorization.expires = none ∧
      request.headers.getFirst? Signature.payloadHeader = some declared ∧
      ((pipeline suite).authenticate request).perform world =
        (.ok ⟨.s3, record, some "r"⟩, world) := by
  have selected : record.select .emulated = .ok credential := rfl
  have dated : (declaring declared).date = date := rfl
  have region : (declaring declared).region = "r" := rfl
  rcases exists_signed suite .s3 selected dated region
    (isFieldValue_signedNames (names_perm declared)) (by decide) with
    ⟨signed, signs, signedValid⟩
  have made : declaringHeader suite declared = signed.authorization := by
    rw [declaringHeader, signs]
  have path : (declaringMessage suite declared body).uri.path = (declaring declared).path := rfl
  rcases exists_read (declaringSendable declared) region signs signedValid
    (fieldsFrom_storeHeaders valid) path body "id" with ⟨day, request, read, back, query, same, _⟩
  rw [← made] at read
  have declares : request.headers.getFirst? Signature.payloadHeader = some declared := by
    rw [(back.restates (declaringSendable declared)).headers.getFirst?_payloadHeader]
    rfl
  have verified : Signature.verify suite ⟨world.now, clock.maxDrift⟩ record request = .ok () := by
    change Signature.verify suite clock record request = .ok ()
    rw [back.verify_iff (declaringSendable declared) clock_accepts rfl, query]
    rfl
  have matching : Signature.verifyPayload suite request.headers request.body = .ok () := by
    rw [same]
    exact (Signature.verifyPayload_eq_ok_iff declares).mpr allowed
  have named : SigningService.ofName? request.authorization.service = some .s3 := by
    rw [back.authorization]
    rfl
  have found : directory.find? request.authorization.accessKey
      request.authorization.securityToken = some record := by
    rw [back.authorization]
    rfl
  have looked : (directory.lookup request.authorization.accessKey
      request.authorization.securityToken).perform world = (.ok (some record), world) := by
    rw [← found]
    rfl
  have entered : ((pipeline suite).letIn request .s3 record).perform world =
      (.ok ⟨.s3, record, some request.authorization.region⟩, world) :=
    Pipeline.perform_letIn_of_checks .s3 verified matching
  have asked : request.authorization.region = "r" := by
    rw [back.authorization]
    rfl
  rw [asked] at entered
  refine ⟨request, read, same, ?_, declares, ?_⟩
  · rw [back.authorization]
    rfl
  · rw [Pipeline.authenticate_eq named]
    exact (Attempt.perform_bind_of_ok looked _).trans entered

end Client

namespace Pipeline

variable {Outside : Type} {pipeline : Pipeline Outside} {request : StoreRequest}
  {context : SigningContext} {declared : String}

/-- A request with a marker in place of a digest is let in with one body as with any other. -/
theorem authenticate_of_marker
    (declares : request.headers.getFirst? Signature.payloadHeader = some declared)
    (marker : Signature.isConcreteHash declared = false) (body : List UInt8) :
    pipeline.authenticate { request with body := body } = pipeline.authenticate request := by
  have matching (body : List UInt8) :
      Signature.verifyPayload pipeline.suite request.headers body = .ok () := by
    rw [Signature.verifyPayload_eq_ok_iff declares, marker]
    exact nofun
  unfold authenticate
  dsimp only
  simp only [Signature.verify_of_declared declares, matching]

/-- A request that is signed in its header and let in is signed over the digest of its body if
it declares none.  What it declares is signed as it stands: in the form of a digest it is that
of the body, up to the case of letters, and in any other form it leaves the body free. -/
theorem payload_bound {world after : World Outside} (inHeader : request.authorization.expires = none)
    (accepted : (pipeline.authenticate request).perform world = (.ok context, after)) :
    (request.headers.getFirst? Signature.payloadHeader = none →
      request.SignedOver pipeline.suite context.record.emulated.secretKey
        (Signature.payloadHash pipeline.suite request.body)) ∧
    ∀ declared, request.headers.getFirst? Signature.payloadHeader = some declared →
      request.SignedOver pipeline.suite context.record.emulated.secretKey declared ∧
      (Signature.isConcreteHash declared = true →
        Text.sameLetters declared (Signature.payloadHash pipeline.suite request.body) = true) ∧
      (Signature.isConcreteHash declared = false → ∀ body,
        pipeline.authenticate { request with body := body } = pipeline.authenticate request) := by
  rcases found_of_authenticate accepted with ⟨_, checked, _⟩
  rcases checks_eq_ok checked with ⟨verified, matching⟩
  rcases Signature.verify_eq_ok verified with ⟨_, _, parameters, lastLine, parts, signature⟩
  have dated : Clock.checkDrift ⟨after.now, pipeline.maxDrift⟩ request.date = .ok () := by
    rw [Signature.coveredParts, inHeader] at parts
    dsimp only at parts
    split at parts
    · cases parts
    · next passed => exact passed
  rw [Signature.coveredParts_of_header inHeader dated] at parts
  cases parts
  constructor
  · intro undeclared
    rw [undeclared] at signature
    exact signature
  · intro declared declares
    rw [declares] at signature
    exact ⟨signature, (Signature.verifyPayload_eq_ok_iff declares).mp matching,
      fun marker => authenticate_of_marker declares marker⟩

/-- A client may declare the digest of its body in capitals, and it is let in with this body. -/
theorem payload_bound_of_capitals :
    ∃ request after context,
      Incoming.read (Client.declaringMessage .sha256
        "CA978112CA1BBDCAFAC231B39A23DC4DA786EFF8147C4E72B9807785AFEE48BB" [97]) none "id" =
          .ok request ∧
      request.authorization.expires = none ∧
      ((Client.pipeline .sha256).authenticate request).perform Client.world =
        (.ok context, after) ∧
      request.SignedOver .sha256 context.record.emulated.secretKey
        "CA978112CA1BBDCAFAC231B39A23DC4DA786EFF8147C4E72B9807785AFEE48BB" ∧
      Text.sameLetters "CA978112CA1BBDCAFAC231B39A23DC4DA786EFF8147C4E72B9807785AFEE48BB"
        (Signature.payloadHash .sha256 request.body) = true := by
  have form : Signature.isConcreteHash
      "CA978112CA1BBDCAFAC231B39A23DC4DA786EFF8147C4E72B9807785AFEE48BB" = true := by
    decide +kernel
  have same : Text.sameLetters "CA978112CA1BBDCAFAC231B39A23DC4DA786EFF8147C4E72B9807785AFEE48BB"
      (Signature.payloadHash .sha256 [97]) = true := by
    decide +kernel
  rcases Client.exists_declared .sha256 (by decide +kernel) [97] fun _ => same with
    ⟨request, read, _, inHeader, declares, accepted⟩
  rcases (payload_bound inHeader accepted).2 _ declares with ⟨signed, bound, _⟩
  exact ⟨request, _, _, read, inHeader, accepted, signed, bound form⟩

/-- A client may declare a word that is neither a digest nor one of the markers that the protocol
has, and it is let in though the digest of its body is another. -/
theorem payload_unbound_of_other_word :
    ∃ request after context,
      Incoming.read (Client.declaringMessage .sha256 "none" [97]) none "id" = .ok request ∧
      request.authorization.expires = none ∧
      request.headers.getFirst? Signature.payloadHeader = some "none" ∧
      "none" ≠ "UNSIGNED-PAYLOAD" ∧ Text.startsWith "STREAMING-" "none" = false ∧
      ((Client.pipeline .sha256).authenticate request).perform Client.world =
        (.ok context, after) ∧
      Text.sameLetters "none" (Signature.payloadHash .sha256 request.body) = false := by
  have form : Signature.isConcreteHash "none" = false := by
    decide
  have other : Text.sameLetters "none" (Signature.payloadHash .sha256 [97]) = false := by
    decide +kernel
  rcases Client.exists_declared .sha256 (by decide) [97]
    (fun concrete => absurd (form.symm.trans concrete) (by decide)) with
      ⟨request, read, body, inHeader, declares, accepted⟩
  rw [← body] at other
  exact ⟨request, _, _, read, inHeader, declares, by decide, by decide, accepted, other⟩

end Pipeline
end SignedGateway
