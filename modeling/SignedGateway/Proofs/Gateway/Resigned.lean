import SignedGateway.Proofs.Gateway.Asking
import SignedGateway.Proofs.Gateway.Routing

namespace SignedGateway
namespace Outbound

/-!
# What a gateway sends is verified by a gateway

A request for the store is read back by the same rules by which the client's request
was read.  Its body fits its digest, and the parameters of its URI are the ones that were
signed, so its signature is verified.
-/

/-! ## Reading and verifying what is sent -/

/-- What a header and a query can carry: an access key without the marks of a header,
a region without a comma, and no parameter for which nothing is written. -/
structure Legible (credential : Credential) (request : StoreRequest) : Prop where
  named : credential.accessKey ≠ ""
  keyFree : '/' ∉ credential.accessKey.toList ∧ ',' ∉ credential.accessKey.toList
  regionFree : ',' ∉ request.authorization.region.toList
  filled : ("", "") ∉ (parameters request.query).pairs

end Outbound

/-- The message that reaches the store. -/
def OutboundRequest.message (outbound : OutboundRequest) : Http.Request :=
  ⟨outbound.method, outbound.uri, outbound.headers, outbound.body⟩

namespace Outbound

/-- A request for the store is read again, names the credential, has the body that its
digest is for, and is verified. -/
theorem exists_read_again {suite : Digest.Suite} {clock : Clock} {request : StoreRequest}
    {record : CredentialRecord} {credential : Credential} {role : Option SessionRole} {uri : Uri}
    {outbound : OutboundRequest} {addressing : Addressing} (tidy : request.headers.Tidy)
    (insensitive : request.headers.caseSensitive = false)
    (slashFree : '/' ∉ request.authorization.region.toList)
    (matching : Signature.verifyPayload suite request.headers request.body = .ok ())
    (legible : Legible credential request)
    (placed : addressing.endpoint (targetOf request) = .ok uri)
    (made : assemble suite clock request record credential role uri = .ok outbound)
    (requestId : String) :
    ∃ again, Incoming.read outbound.message none requestId = .ok again ∧
      again.authorization.accessKey = credential.accessKey ∧
      Signature.verifyPayload suite again.headers again.body = .ok () ∧
      ∀ verifying : CredentialRecord, verifying.emulated = credential →
        Signature.verify suite clock verifying again = .ok () := by
  rcases assemble_eq_ok made with
    ⟨host, body, described, signed, describes, signs, writes, _, sameMethod, sameUri, sameBody, _⟩
  have description := describes_payload tidy insensitive matching describes
  have sendable := sendable_signable description clock request credential uri host
  have selected : (contextFor record credential role request.authorization.region).record.select
      .remote = .ok credential := rfl
  rcases sendable.exists_readBack legible.named
    legible.keyFree ⟨slashFree, legible.regionFree⟩ selected signs writes
    (rfl : uri.path = (signable clock request credential uri described host).path) body
    requestId with
      ⟨day, again, read, back, query, readBody, _⟩
  have message : outbound.message = ⟨request.method, uri, outbound.headers, body⟩ := by
    rw [OutboundRequest.message, sameMethod, sameUri, sameBody]
  rcases Signature.sign_eq_ok selected signs with ⟨checked, _⟩
  refine ⟨again, message ▸ read, ?_, ?_, fun verifying emulated => ?_⟩
  · rw [back.authorization]
    rfl
  · rcases back.headers with ⟨header, sent⟩
    have same : again.headers.getFirst? Signature.payloadHeader =
        described.getFirst? Signature.payloadHeader := by
      rw [sent, sendable.getFirst?_sentHeaders header (by decide)]
      exact getFirst?_addressed_payload host _ credential.session description.insensitive
    rw [verifyPayload_congr same, readBody]
    exact description.fits
  · -- The parameters that are read are the ones that were signed, so the signatures agree.
    rw [back.verify_iff sendable checked emulated, query,
      (parse_query_eq_iff placed).mpr legible.filled]
    rfl

end Outbound

namespace Client

/-- A header and a query can carry what the client asks for. -/
theorem legible {suite : Digest.Suite} {key : String} {request : StoreRequest}
    (asked : Asked suite key request) : Outbound.Legible storeCredential request := by
  refine ⟨by decide, by decide, ?_, ?_⟩
  · rw [asked.region]
    decide
  · rw [asked.query]
    decide +kernel

end Client

namespace Pipeline

variable {Outside : Type} {pipeline : Pipeline Outside}

/-- An alias changes neither the headers nor the body nor who signed. -/
theorem Passage.resolved_keeps {request : StoreRequest} (passage : Passage pipeline request) :
    passage.resolved.headers = request.headers ∧ passage.resolved.body = request.body ∧
      passage.resolved.authorization = request.authorization := by
  rcases passage.exists_resolved_eq with ⟨bucket, key, query, same⟩
  rw [same]
  exact ⟨rfl, rfl, rfl⟩

/-- What the pipeline makes of a request that was read is read again in its turn.  It
names the credential of the connection, its body fits its digest, and it is verified at
the time at which it was signed.  That is the time at which the request came, if nobody
takes any time. -/
theorem resigned_verified {message : Http.Request} {ownPath : Option String}
    {requestId : String} {request : StoreRequest} {world after : World Outside}
    {outbound : OutboundRequest}
    (read : Incoming.read message ownPath requestId = .ok request)
    (accepted : (pipeline.process request).perform world = (.ok outbound, after)) :
    ∃ passage : Passage pipeline request,
      ((pipeline.watched.process request).perform (world.withCalls [])).2.calls = passage.calls ∧
        (pipeline.Prompt → passage.clock = ⟨world.now, pipeline.maxDrift⟩) ∧
        ∀ addressing : Addressing,
          passage.connection.endpoint.getD pipeline.endpoint = addressing.rule →
          Outbound.Legible passage.connection.credential passage.resolved →
          ∀ againId, ∃ again,
            Incoming.read outbound.message none againId = .ok again ∧
              again.authorization.accessKey = passage.connection.credential.accessKey ∧
              Signature.verifyPayload pipeline.suite again.headers again.body = .ok () ∧
              ∀ verifying : CredentialRecord,
                verifying.emulated = passage.connection.credential →
                Signature.verify pipeline.suite passage.clock verifying again = .ok () := by
  rcases Incoming.read_eq_ok_iff.mp read with ⟨routed, authorization, date, below, authorized, rfl⟩
  have slashFree := Incoming.slash_not_mem_of_authorize authorized
  rcases passage_of_process accepted with ⟨passage, calls, made⟩
  refine ⟨passage, calls, passage.clock_of_prompt calls,
    fun addressing addressed legible againId => ?_⟩
  have placed := Passage.endpoint_eq made addressed
  rw [Outbound.uri_of_assemble made] at placed
  rcases passage.resolved_keeps with ⟨sameHeaders, sameBody, sameAuthorization⟩
  have matching := passage.matching
  rw [← sameHeaders, ← sameBody] at matching
  refine Outbound.exists_read_again ?_ ?_ ?_ matching legible placed made againId
  · rw [sameHeaders]
    exact Incoming.tidy_headersOf message
  · rw [sameHeaders]
    exact Incoming.headersOf_caseSensitive message
  · rw [sameAuthorization]
    exact slashFree

/-- What the standard gateway makes of a client's request is verified at the same time. -/
theorem resigned_verified_of_client :
    ∃ request outbound after again,
      Incoming.read (Client.message .sha256 "a%2Fb") none "id" = .ok request ∧
      ((Client.pipeline .sha256).process request).perform Client.world = (.ok outbound, after) ∧
      Incoming.read outbound.message none "again" = .ok again ∧
      again.authorization.accessKey = Client.storeCredential.accessKey ∧
      Signature.verify .sha256 Client.clock ⟨Client.storeCredential, none, none, none⟩ again =
        .ok () := by
  rcases Client.exists_asked .sha256 "a%2Fb" with ⟨request, read, asked⟩
  rcases asked.exists_outbound (by decide +kernel) with ⟨_, outbound, after, _, accepted⟩
  rcases resigned_verified read accepted with ⟨passage, _, atOnce, readAgain⟩
  rcases asked.unmapped_eq passage with ⟨connection, resolved⟩
  rw [connection, resolved, atOnce (Client.prompt_pipeline .sha256)] at readAgain
  rcases readAgain Addressing.standard Client.addressed_pipeline (Client.legible asked) "again" with
    ⟨again, againRead, named, _, verified⟩
  exact ⟨request, outbound, after, again, read, accepted, againRead, named, verified _ rfl⟩

end Pipeline
end SignedGateway
