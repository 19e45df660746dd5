import SignedGateway.Proofs.Gateway.Asking
import SignedGateway.Proofs.Gateway.Routing

namespace SignedGateway

/-!
# The path that is sent is canonical

A path for the store is written segment by segment in the same coded form in which a canonical
request writes it, so making it canonical changes nothing: what stands in the signed text is the
very path of the URI.  This holds in both styles and for every bucket and key, with empty segments
and slashes in a row among them.
-/

namespace Addressing

variable {addressing : Addressing} {bucket key : String}

/-- The path of an object is read as its segments, below the root. -/
theorem segments_pathFor :
    Route.segments (addressing.pathFor bucket key) = "" :: addressing.segmentsFor bucket key := by
  rw [pathFor_eq, Route.segments_slash_append, Route.segments_joinWith_encode segmentsFor_ne_nil]

/-- The path of an object is its own canonical form. -/
theorem canonicalUri_pathFor :
    Canonical.uri (addressing.pathFor bucket key) = addressing.pathFor bucket key := by
  have filled : addressing.segmentsFor bucket key ≠ [] := segmentsFor_ne_nil
  rcases List.exists_cons_of_ne_nil filled with ⟨first, rest, segments⟩
  have root : Uri.Percent.encode "" = "" := rfl
  rw [Route.canonicalUri_eq, Route.rooted_of_ne pathFor_ne_empty, segments_pathFor, pathFor_eq,
    segments, List.map_cons, List.map_cons, Text.joinWith_cons_cons, root,
    String.empty_append]

end Addressing

namespace Pipeline

/-- The path of an endpoint is its own canonical form, whatever bucket and key it is for.  A request
that is accepted and addressed there is handed on with this very URI and is signed over its path,
which stands in the signed text as it is. -/
theorem path_signed_as_it_stands {addressing : Addressing} {target : StoreTarget} {uri : Uri}
    (found : addressing.endpoint target = .ok uri) :
    Canonical.uri uri.path = uri.path ∧
      ∀ {Outside : Type} {pipeline : Pipeline Outside} {request : StoreRequest}
        {world after : World Outside} {outbound : OutboundRequest},
        (pipeline.process request).perform world = (.ok outbound, after) →
        ∃ passage : Passage pipeline request,
          ((pipeline.watched.process request).perform (world.withCalls [])).2.calls =
              passage.calls ∧
            (passage.connection.endpoint.getD pipeline.endpoint = addressing.rule →
              Outbound.targetOf passage.resolved = target →
              outbound.uri = uri ∧
                outbound.SignedOver pipeline.suite passage.connection.credential uri.path
                  (Outbound.parameters passage.resolved.query)) := by
  constructor
  · rw [Addressing.path_of_endpoint found, Addressing.canonicalUri_pathFor]
  · intro Outside pipeline request world after outbound accepted
    rcases passage_of_process accepted with ⟨passage, calls, made⟩
    refine ⟨passage, calls, fun addressed aimed => ?_⟩
    have same : outbound.uri = uri := by
      have placed := Passage.endpoint_eq made addressed
      rw [aimed, found] at placed
      exact (Except.ok.inj placed).symm
    have signed := Outbound.signedOver_of_assemble made
    rw [← Outbound.uri_of_assemble made, same] at signed
    exact ⟨same, signed⟩

/-- A client asks for a key with an empty segment, a space, a percent sign and a letter beyond
ASCII.  Its path is signed as it is sent. -/
theorem path_of_client_signed_as_it_stands :
    ∃ request outbound after,
      Incoming.read (Client.message .sha256 "a//%20%25ü/") none "id" = .ok request ∧
      ((Client.pipeline .sha256).process request).perform Client.world = (.ok outbound, after) ∧
      request.key = "a// %ü/" ∧ outbound.uri.path = "/b/a//%20%25%C3%BC/" ∧
      Canonical.uri outbound.uri.path = outbound.uri.path := by
  rcases Client.exists_asked .sha256 "a//%20%25ü/" with ⟨request, read, asked⟩
  rcases asked.exists_outbound (by decide +kernel) with ⟨placed, outbound, after, made, accepted⟩
  have sameUri := Outbound.uri_of_assemble made
  rw [← sameUri] at placed
  have fixed := path_signed_as_it_stands placed
  refine ⟨request, outbound, after, read, accepted, ?_, ?_, fixed.1⟩
  · rw [asked.key_eq]
    decide +kernel
  · rw [sameUri]
    decide +kernel

end Pipeline
end SignedGateway
