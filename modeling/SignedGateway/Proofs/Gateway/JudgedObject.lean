import SignedGateway.Proofs.Gateway.Asking
import SignedGateway.Proofs.Gateway.Routing
import SignedGateway.Proofs.Store.PathStyle

namespace SignedGateway
namespace Pipeline

/-!
# The object that is judged and the object that is sent

The policy judges a request by its bucket and key.  The store is sent a path, and a path
style puts bucket and key into it so that they can be read from it again.  The two are
about the same object whenever the bucket is not empty.  A path such as `//b/k` names an
empty bucket, though, and what is sent for it is `/b/k`: the store is asked for an object
in a bucket that no policy was shown.
-/

/-- In a path style the path of an endpoint is read as the bucket and key that it was
made for exactly if there is a bucket or no key.  So the policy was shown the object
that the store is asked for exactly for these requests, if no bucket is mapped. -/
theorem object_judged_and_sent {addressing : Addressing} (pathStyle : addressing.style = .path) :
    (∀ target uri, addressing.endpoint target = .ok uri →
      (Route.bucketAndKey uri.path = (target.bucket, target.key) ↔
        target.bucket ≠ "" ∨ target.key = "")) ∧
    ∀ {Outside : Type} {pipeline : Pipeline Outside} {request : StoreRequest}
      {context : SigningContext} {world after : World Outside} {outbound : OutboundRequest},
      pipeline.remap = (fun _ _ => pure none) →
      (pipeline.route request context).perform world = (.ok outbound, after) →
      ∃ forwarding : Forwarding pipeline context request,
        ((pipeline.watched.route request context).perform (world.withCalls [])).2.calls =
            forwarding.calls ∧
          (forwarding.connection.endpoint.getD pipeline.endpoint = addressing.rule →
            (Route.bucketAndKey outbound.uri.path = (request.bucket, request.key) ↔
              request.bucket ≠ "" ∨ request.key = "")) := by
  have readBack (target : StoreTarget) (uri : Uri) (found : addressing.endpoint target = .ok uri) :
      Route.bucketAndKey uri.path = (target.bucket, target.key) ↔
        target.bucket ≠ "" ∨ target.key = "" := by
    rw [Addressing.path_of_endpoint found]
    exact Addressing.bucketAndKey_pathFor_iff pathStyle target.bucket target.key
  refine ⟨readBack, ?_⟩
  intro Outside pipeline request context world after outbound unmapped routed
  rcases forwarding_of_route unmapped routed with ⟨forwarding, calls, made⟩
  refine ⟨forwarding, calls, fun addressed => ?_⟩
  exact readBack (Outbound.targetOf request) outbound.uri (Forwarding.endpoint_eq made addressed)

/-- A client of the standard gateway gets the object that the policy was shown. -/
theorem object_of_client :
    ∃ request context outbound between after,
      Incoming.read (Client.message .sha256 "k") none "id" = .ok request ∧
      ((Client.pipeline .sha256).route request context).perform between = (.ok outbound, after) ∧
      Route.bucketAndKey (Client.place "k").path = ("b", "k") ∧
      Route.bucketAndKey outbound.uri.path = (request.bucket, request.key) := by
  rcases Client.exists_asked .sha256 "k" with ⟨request, read, asked⟩
  rcases asked.exists_outbound (by decide +kernel) with ⟨found, outbound, _, _, processed⟩
  rcases exists_route_of_process processed with ⟨context, between, routed⟩
  rcases object_judged_and_sent (rfl : Addressing.standard.style = .path) with ⟨readBack, sent⟩
  rcases sent rfl routed with ⟨forwarding, _, named⟩
  have bucket : request.bucket ≠ "" := by
    rw [asked.bucket_eq]
    decide
  have placed := (readBack _ _ found).mpr (Or.inl bucket)
  refine ⟨request, context, outbound, between, _, read, routed, ?_, ?_⟩
  · change Route.bucketAndKey (Client.place "k").path = (request.bucket, request.key) at placed
    rw [placed, asked.bucket_eq, asked.key_eq]
    decide +kernel
  · exact (named forwarding.addressed_standard).mpr (Or.inl bucket)

/-- Without a bucket the first segment of the key is taken for one. -/
theorem object_without_bucket :
    Route.bucketAndKey "//b/k" = ("", "b/k") ∧
      ∃ uri, Addressing.standard.endpoint ⟨"b/k", "", "us-east-1", none⟩ = .ok uri ∧
        Route.bucketAndKey uri.path = ("b", "k") := by
  have host : Uri.Authority.parse
      (Addressing.standard.authorityText (Addressing.standard.hostFor "" "us-east-1")) =
        .ok ⟨"s3.us-east-1.amazonaws.com"⟩ := by
    decide +kernel
  have place : Uri.Target.parse
      (Addressing.withQuery (Addressing.standard.pathFor "" "b/k") none).toList =
        .ok ⟨"/b/k", none⟩ := by
    decide +kernel
  refine ⟨by decide +kernel,
    Uri.absolute "https" ⟨"s3.us-east-1.amazonaws.com"⟩ ⟨"/b/k", none⟩, ?_, by decide +kernel⟩
  rw [Addressing.endpoint]
  dsimp only
  rw [host]
  dsimp only
  rw [place]
  rfl

end Pipeline
end SignedGateway
