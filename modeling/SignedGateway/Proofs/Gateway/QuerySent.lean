import SignedGateway.Proofs.Gateway.Asking
import SignedGateway.Proofs.Gateway.Routing

namespace SignedGateway

/-!
# The query that is signed and the query that is sent

A gateway that maps no bucket signs the client's parameters without those that presigned
its request.  The query that it sends is written anew for the same parameters, and they
are read from it again, in the same order and whatever escapes the client has used.  There
is one exception: for a lone equals sign, which is a parameter without a name and a value,
nothing is written at all.
-/

/-- The client's own parameters, without those that presigned the request. -/
def StoreRequest.clientParameters (request : StoreRequest) : MultiMap :=
  (Uri.Query.parse (request.rawQuery.getD "")).without Authorization.presignedParameters

theorem StoreRequest.parameters_eq_clientParameters {message : Http.Request}
    {ownPath : Option String} {requestId : String} {request : StoreRequest}
    (read : Incoming.read message ownPath requestId = .ok request) :
    Outbound.parameters request.query = request.clientParameters := by
  rw [clientParameters, Incoming.query_of_read read, Outbound.parameters_eq_without]

section Kept

variable {message : Http.Request} {ownPath : Option String} {requestId : String}
  {request resolved : StoreRequest} {addressing : Addressing} {uri : Uri}
  (read : Incoming.read message ownPath requestId = .ok request)
  (kept : resolved.query = request.query)
  (placed : addressing.endpoint (Outbound.targetOf resolved) = .ok uri)

include read kept placed

/-- Where the query stays as it is, all of the client's parameters are sent for which there is
something to write. -/
theorem StoreRequest.parse_query_of_kept :
    Uri.Query.parse (uri.query.getD "") =
      MultiMap.ofPairs true (Uri.Query.visible request.clientParameters.pairs) := by
  rw [Outbound.parse_query placed, kept, parameters_eq_clientParameters read]

/-- The client's parameters are all sent exactly if none of them was a lone equals sign. -/
theorem StoreRequest.parse_query_eq_iff_of_kept :
    Uri.Query.parse (uri.query.getD "") = request.clientParameters ↔
      "=" ∉ Text.splitOn '&' (request.rawQuery.getD "") := by
  rw [← parameters_eq_clientParameters read, ← kept, Outbound.parse_query_eq_iff placed, kept,
    Incoming.query_of_read read, Outbound.mem_pairs_parameters_parse_iff]

end Kept

/-- For a lone equals sign nothing is written. -/
theorem Outbound.query_eq_none_of_equals_sign {request : StoreRequest} {addressing : Addressing}
    {uri : Uri} (alone : request.query = Uri.Query.parse "=")
    (placed : addressing.endpoint (targetOf request) = .ok uri) : uri.query = none := by
  have written : (targetOf request).query = some "" := by
    rw [targetOf, alone]
    dsimp only
    decide +kernel
  rw [Addressing.query_of_endpoint (isQueryChar_of_mem_targetOf request) placed, written]
  rfl

namespace Pipeline

variable {Outside : Type} {pipeline : Pipeline Outside}

/-- A request that is accepted without an alias is signed for the client's own parameters.
All of them are read from its URI again for which there is something to write.  So the
parameters that were signed are the ones that are sent exactly if the client has written no
lone equals sign. -/
theorem query_signed_and_sent {message : Http.Request} {ownPath : Option String}
    {requestId : String} {request : StoreRequest} {world after : World Outside}
    {outbound : OutboundRequest}
    (read : Incoming.read message ownPath requestId = .ok request)
    (unmapped : pipeline.remap = fun _ _ => pure none)
    (accepted : (pipeline.process request).perform world = (.ok outbound, after)) :
    ∃ passage : Passage pipeline request,
      ((pipeline.watched.process request).perform (world.withCalls [])).2.calls = passage.calls ∧
        outbound.SignedOver pipeline.suite passage.connection.credential outbound.uri.path
          request.clientParameters ∧
        ∀ addressing : Addressing,
          passage.connection.endpoint.getD pipeline.endpoint = addressing.rule →
          Uri.Query.parse (outbound.uri.query.getD "") =
              MultiMap.ofPairs true (Uri.Query.visible request.clientParameters.pairs) ∧
          (Uri.Query.parse (outbound.uri.query.getD "") = request.clientParameters ↔
            "=" ∉ Text.splitOn '&' (request.rawQuery.getD "")) := by
  rcases passage_of_process accepted with ⟨passage, calls, made⟩
  have resolved := passage.resolved_of_unmapped unmapped
  have signed := Outbound.signedOver_of_assemble made
  rw [← Outbound.uri_of_assemble made, resolved,
    StoreRequest.parameters_eq_clientParameters read] at signed
  refine ⟨passage, calls, signed, fun addressing addressed => ?_⟩
  have placed := Passage.endpoint_eq made addressed
  have kept := congrArg StoreRequest.query resolved
  exact ⟨StoreRequest.parse_query_of_kept read kept placed,
    StoreRequest.parse_query_eq_iff_of_kept read kept placed⟩

/-- A client of the standard gateway asks for the access rules by an escaped name, for a
parameter without a name, and for one that is given twice.  The store is asked for these
parameters as they were signed. -/
theorem query_of_client :
    ∃ request outbound after,
      Incoming.read (Client.asking .sha256 "/b/k" "%61cl&=1&v=%&v=") none "id" = .ok request ∧
      ((Client.pipeline .sha256).process request).perform Client.world = (.ok outbound, after) ∧
      outbound.SignedOver .sha256 Client.storeCredential outbound.uri.path
        request.clientParameters ∧
      request.clientParameters.pairs = [("acl", ""), ("", "1"), ("v", "%"), ("v", "")] ∧
      Uri.Query.parse (outbound.uri.query.getD "") = request.clientParameters := by
  rcases Client.exists_heard .sha256 "/b/k" (by decide : "%61cl&=1&v=%&v=" ≠ "") with
    ⟨request, read, heard⟩
  have place := heard.object (by decide +kernel : Route.bucketAndKey "/b/k" = ("b", "k"))
  have bounded : Addressing.standard.Bounded (Outbound.targetOf request) := by
    rw [Outbound.targetOf, place.1, place.2, heard.region, heard.query]
    decide +kernel
  rcases heard.exists_outbound_unmapped bounded with ⟨outbound, after, _, _, accepted⟩
  rcases query_signed_and_sent read rfl accepted with ⟨passage, _, signed, sent⟩
  rw [(heard.unmapped_eq passage).1] at signed sent
  have same := (sent Addressing.standard Client.addressed_pipeline).2
  refine ⟨request, outbound, after, read, accepted, signed, ?_, same.mpr ?_⟩
  · rw [StoreRequest.clientParameters, heard.rawQuery]
    decide +kernel
  · rw [heard.rawQuery]
    decide

/-- A client that asks with a lone equals sign has a parameter that is signed and not sent. -/
theorem query_of_lone_equals_sign :
    ∃ request outbound after,
      Incoming.read (Client.asking .sha256 "/b/k" "=") none "id" = .ok request ∧
      ((Client.pipeline .sha256).process request).perform Client.world = (.ok outbound, after) ∧
      outbound.SignedOver .sha256 Client.storeCredential outbound.uri.path
        request.clientParameters ∧
      request.clientParameters.pairs = [("", "")] ∧
      outbound.uri.query = none ∧
      Uri.Query.parse (outbound.uri.query.getD "") ≠ request.clientParameters := by
  rcases Client.exists_heard .sha256 "/b/k" (by decide : "=" ≠ "") with ⟨request, read, heard⟩
  have place := heard.object (by decide +kernel : Route.bucketAndKey "/b/k" = ("b", "k"))
  have bounded : Addressing.standard.Bounded (Outbound.targetOf request) := by
    rw [Outbound.targetOf, place.1, place.2, heard.region, heard.query]
    decide +kernel
  rcases heard.exists_outbound_unmapped bounded with ⟨outbound, after, placed, _, accepted⟩
  rcases passage_of_process accepted with ⟨passage, _, made⟩
  have signed := Outbound.signedOver_of_assemble made
  rw [← Outbound.uri_of_assemble made, passage.resolved_of_unmapped rfl,
    StoreRequest.parameters_eq_clientParameters read, (heard.unmapped_eq passage).1] at signed
  have asked : request.clientParameters.pairs = [("", "")] := by
    rw [StoreRequest.clientParameters, heard.rawQuery]
    decide +kernel
  have unsent := Outbound.query_eq_none_of_equals_sign heard.query placed
  refine ⟨request, outbound, after, read, accepted, signed, asked, unsent, fun same => ?_⟩
  rw [unsent] at same
  rw [← same] at asked
  revert asked
  decide +kernel

end Pipeline
end SignedGateway
