import SignedGateway.Proofs.Gateway.Asking
import SignedGateway.Proofs.Signature.Arrangement
import SignedGateway.Proofs.Signature.Lifetime

namespace SignedGateway
namespace Client

/-!
# A client with a link

A presigned request has its date, its lifetime and its signature among its parameters.  Such a
link outlives its date: it is dated a minute before midnight, and it is let through at midnight.
-/

def linkDate : String := "20231231T235900Z"

/-- The parameters for which the link is signed. -/
def linkParameters : List (String × String) :=
  [("X-Amz-Algorithm", Authorization.algorithm),
    ("X-Amz-Credential", "client/20231231/r/s3/aws4_request"), ("X-Amz-Date", linkDate),
    ("X-Amz-Expires", "600"), ("X-Amz-SignedHeaders", "host")]

def sealedParameters (signature : String) : List (String × String) :=
  linkParameters ++ [(Authorization.signatureParameter, signature)]

def linkQuery (signature : String) : String :=
  Uri.Query.renderPairs (sealedParameters signature)

def linkMessage (signature : String) : Http.Request where
  method := "GET"
  uri := ⟨none, none, some ⟨"/b/k", some (linkQuery signature)⟩⟩
  headers := [("host", [Utf8.bytesOf "gateway"])]
  body := []

/-- The request that is read from the link. -/
def linkRequest (signature : String) : StoreRequest where
  requestId := "id"
  authorization := ⟨"client", "20231231", "r", "s3", ["host"], signature, none, some 600⟩
  date := linkDate
  bucket := "b"
  key := "k"
  headers := ⟨false, [("host", ["gateway"])]⟩
  query := ⟨true, (sealedParameters signature).map fun pair => (pair.1, [pair.2])⟩
  method := "GET"
  rawPath := "/b/k"
  rawQuery := some (linkQuery signature)
  body := []

/-- The signature of the client, which signs everything but the signature. -/
def linkSignature (suite : Digest.Suite) : String :=
  Signature.expected suite credential.secretKey (linkRequest "") linkParameters
    [("host", "gateway")] Signature.unsignedPayload

theorem parse_linkQuery (signature : String) :
    Uri.Query.parse (linkQuery signature) = (linkRequest signature).query := by
  have read : Uri.Query.parsePairs (linkQuery signature) = sealedParameters signature := by
    rw [linkQuery, Uri.Query.parsePairs_renderPairs]
    apply Uri.Query.visible_eq_self
    simp [sealedParameters, linkParameters, Authorization.signatureParameter]
  rw [Uri.Query.parse, read]
  rfl

theorem headersOf_linkMessage (signature : String) :
    Incoming.headersOf (linkMessage signature) = (linkRequest signature).headers := by
  have texts : ((linkMessage signature).headers.pairs.map fun pair =>
      (pair.1, Utf8.decodeLossy pair.2)) = [("host", "gateway")] := by
    simp [linkMessage, Http.Fields.pairs, Utf8.decodeLossy_bytesOf]
  unfold Incoming.headersOf
  rw [texts]
  rfl

theorem linkQuery_ne_empty (signature : String) : linkQuery signature ≠ "" := by
  intro empty
  have parsed := parse_linkQuery signature
  rw [empty] at parsed
  have keys := congrArg MultiMap.entries parsed
  cases keys

theorem read_linkMessage (signature : String) :
    Incoming.read (linkMessage signature) none "id" = .ok (linkRequest signature) := by
  have query : Incoming.queryOf (linkMessage signature) = some (linkQuery signature) :=
    if_pos (bne_iff_ne.mpr (linkQuery_ne_empty signature))
  have parsed : Uri.Query.parse ((linkMessage signature).uri.query.getD "") =
      (linkRequest signature).query := parse_linkQuery signature
  apply Incoming.read_eq_ok_iff.mpr
  refine ⟨"/b/k", (linkRequest signature).authorization, linkDate, rfl, ?_, ?_⟩
  · rw [headersOf_linkMessage, parsed]
    rfl
  · rw [headersOf_linkMessage, parsed, query]
    rfl

/-! ## Passing the gateway -/

theorem verify_linkRequest (suite : Digest.Suite) :
    Signature.verify suite clock record (linkRequest (linkSignature suite)) = .ok () := by
  have headers : (linkRequest (linkSignature suite)).headers = ⟨false, [("host", ["gateway"])]⟩ :=
    rfl
  have enough : Signature.Enough ["host"] (linkRequest (linkSignature suite)).headers := by
    rw [headers]
    exact ⟨by decide, by decide, by decide⟩
  have alive : clock.checkLifetime linkDate 600 = .ok () := by
    decide +kernel
  have covered : Signature.coveredParts suite clock (linkRequest (linkSignature suite)) =
      .ok (linkParameters, Signature.unsignedPayload) := by
    rw [Signature.coveredParts_of_lifetime rfl alive]
    rfl
  exact Signature.verify_eq_ok_iff.mpr ⟨enough, linkParameters, _, covered, rfl⟩

/-- The link is let through at midnight. -/
theorem exists_outbound_of_link (suite : Digest.Suite) :
    ∃ outbound after,
      ((pipeline suite).process (linkRequest (linkSignature suite))).perform world =
        (.ok outbound, after) := by
  have verified := verify_linkRequest suite
  generalize linkSignature suite = signature at verified ⊢
  have target : Outbound.targetOf (linkRequest signature) = ⟨"k", "b", "r", none⟩ := rfl
  have placed : Addressing.standard.endpoint (Outbound.targetOf (linkRequest signature)) =
      .ok (Uri.absolute "https" ⟨"s3.r.amazonaws.com"⟩ ⟨"/b/k", none⟩) := by
    rw [target]
    decide +kernel
  have stamped : Outbound.dateOf clock (linkRequest signature) = date := by
    change clock.now.stamp = date
    decide +kernel
  have token : Http.isToken (linkRequest signature).method = true := isToken_get
  have describes : Outbound.payload suite (linkRequest signature) =
      .ok ([], ⟨false, [("x-amz-content-sha256", [Signature.payloadHash suite []])]⟩) := rfl
  rcases exists_assemble rfl stamped token
    (writable_digest (Signature.isFieldValue_hexOfBytes _)) describes ⟨"/b/k", none⟩ with
      ⟨outbound, made⟩
  have named : SigningService.ofName? (linkRequest signature).authorization.service = some .s3 :=
    rfl
  have found : directory.find? (linkRequest signature).authorization.accessKey
      (linkRequest signature).authorization.securityToken = some record := rfl
  have matching : Signature.verifyPayload suite (linkRequest signature).headers
      (linkRequest signature).body = .ok () := rfl
  rw [← aliased_none]
  exact ⟨outbound, Pipeline.perform_process_aliased named found verified matching rfl
    (applyTo_none _) placed made⟩

end Client
end SignedGateway
