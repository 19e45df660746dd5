import SignedGateway.Proofs.Gateway.Confinement

namespace SignedGateway

/-!
# Which listings are confined

What a client may list by an alias is limited by the prefix that the gateway puts into its
query.  The gateway does so for a request that has listing parameters only, by the names
that it knows and those of the store's own headers.  One parameter of any other name is
enough for the request to count as something else that is asked of the bucket.  It is then
sent with the parameters that it came with, and is limited only if its client has limited
it.
-/

/-- The parameters ask for keys below the path, and for no others. -/
def BucketMapping.Limits (mapping : BucketMapping) (parameters : MultiMap) : Prop :=
  parameters.get "prefix" ≠ [] ∧
    ∀ value ∈ parameters.get "prefix", ∃ rest, value = mapping.path ++ "/" ++ rest

namespace BucketMapping

theorem limits_congr {mapping : BucketMapping} {parameters others : MultiMap}
    (same : parameters.get "prefix" = others.get "prefix") :
    mapping.Limits parameters ↔ mapping.Limits others := by
  rw [Limits, Limits, same]

theorem limits_of_get {mapping : BucketMapping} {parameters : MultiMap} {rest : String}
    (only : parameters.get "prefix" = [mapping.path ++ "/" ++ rest]) :
    mapping.Limits parameters := by
  rw [Limits, only]
  refine ⟨List.cons_ne_nil _ _, fun value member => ?_⟩
  exact ⟨rest, List.mem_singleton.mp member⟩

end BucketMapping

namespace Pipeline

variable {Outside : Type} {pipeline : Pipeline Outside}

section Listed

variable {request : StoreRequest} (passage : Passage pipeline request)
  {message : Http.Request} {ownPath : Option String} {requestId : String}
  {outbound : OutboundRequest} {addressing : Addressing}
  (read : Incoming.read message ownPath requestId = .ok request)
  (made : passage.outcome = .ok outbound)
  (addressed : passage.connection.endpoint.getD pipeline.endpoint = addressing.rule)

include read made addressed

/-- A request that keeps its parameters is sent with the prefixes of its client. -/
theorem Passage.prefixes_of_kept (kept : passage.resolved.query = request.query) :
    (Uri.Query.parse (outbound.uri.query.getD "")).get "prefix" =
      request.clientParameters.get "prefix" := by
  have keyed := (Outbound.tidy_parameters request.query).keyed
  have sensitive := Outbound.parameters_caseSensitive request.query
  rw [StoreRequest.parameters_eq_clientParameters read] at keyed sensitive
  rw [StoreRequest.parse_query_of_kept read kept (Passage.endpoint_eq made addressed)]
  exact Uri.Query.get_ofPairs_visible keyed sensitive (by decide)

end Listed

/-- Of all that can be asked of a bucket by an alias for a part of it, exactly what has listing
parameters only is limited to the part by the gateway.  Whatever has another parameter is
sent as it came. -/
theorem listing_limited {settings : MappingSettings} {message : Http.Request}
    {ownPath : Option String} {requestId : String} {request : StoreRequest}
    {world after : World Outside} {outbound : OutboundRequest} {mapping : BucketMapping}
    (read : Incoming.read message ownPath requestId = .ok request)
    (mapped : pipeline.remap = fun _ request => pure (settings.remap request))
    (accepted : (pipeline.process request).perform world = (.ok outbound, after))
    (found : settings.find? request.bucket = some mapping) (part : mapping.path ≠ "")
    (asks : Text.sameLetters request.method "GET" = true) (bucketOnly : request.key = "") :
    ∃ passage : Passage pipeline request,
      ((pipeline.watched.process request).perform (world.withCalls [])).2.calls = passage.calls ∧
        ∀ addressing : Addressing,
          passage.connection.endpoint.getD pipeline.endpoint = addressing.rule →
          ((∀ name ∈ request.query.keys, BucketMapping.isListingParameter name = true) →
            mapping.Limits (Uri.Query.parse (outbound.uri.query.getD ""))) ∧
          ((∃ name ∈ request.query.keys, BucketMapping.isListingParameter name = false) →
            Uri.Query.parse (outbound.uri.query.getD "") =
                MultiMap.ofPairs true (Uri.Query.visible request.clientParameters.pairs) ∧
              (mapping.Limits (Uri.Query.parse (outbound.uri.query.getD "")) ↔
                mapping.Limits request.clientParameters)) := by
  rcases passage_of_process accepted with ⟨passage, calls, made⟩
  refine ⟨passage, calls, fun addressing addressed => ⟨fun known => ?_, fun unknown => ?_⟩⟩
  · have listing := BucketMapping.isListing_iff.mpr ⟨asks, bucketOnly, known⟩
    have confined := (passage.confinedTo read mapped made found part).sent addressing addressed
    exact BucketMapping.limits_of_get (confined.listPrefix listing)
  · have other := (BucketMapping.isListing_eq_false_iff asks bucketOnly).mpr unknown
    have kept : passage.resolved.query = request.query := by
      rw [passage.resolved_of_alias mapped found, BucketMapping.applyTo_remap_of_no_listing other]
    exact ⟨StoreRequest.parse_query_of_kept read kept (Passage.endpoint_eq made addressed),
      BucketMapping.limits_congr (passage.prefixes_of_kept read made addressed kept)⟩

/-- A client that lists the alias with two prefixes and a parameter of the store gets the
content of the part below the first of them. -/
theorem listing_limited_of_client :
    ∃ request outbound after,
      Incoming.read (Client.asking .sha256 "/alias" "list-type=2&X-Amz-Meta&prefix=a%2F&prefix=b")
        none "id" = .ok request ∧
      ((Client.aliased .sha256 Client.settings.remap).process request).perform Client.world =
        (.ok outbound, after) ∧
      Client.part.Limits (Uri.Query.parse (outbound.uri.query.getD "")) := by
  rcases Client.exists_heard .sha256 "/alias"
    (by decide : "list-type=2&X-Amz-Meta&prefix=a%2F&prefix=b" ≠ "") with ⟨request, read, heard⟩
  have place := heard.object (by decide +kernel : Route.bucketAndKey "/alias" = ("alias", ""))
  have found := Client.find?_alias place.1
  have asks : Text.sameLetters request.method "GET" = true := by
    rw [heard.method]
    decide
  have known : ∀ name ∈ request.query.keys, BucketMapping.isListingParameter name = true := by
    rw [heard.query]
    decide +kernel
  have listing := BucketMapping.isListing_iff.mpr ⟨asks, place.2, known⟩
  have bounded : Addressing.standard.Bounded
      (Outbound.targetOf ((Client.part.remap request).applyTo request)) := by
    rw [BucketMapping.applyTo_remap_of_listing (by decide) listing, Outbound.targetOf]
    dsimp only [BucketMapping.confinedPrefix]
    rw [heard.region, heard.query]
    decide +kernel
  rcases heard.exists_outbound (Client.applyTo_remap place.1) bounded with
    ⟨outbound, after, _, _, accepted⟩
  rcases listing_limited read rfl accepted found (by decide) asks place.2 with
    ⟨passage, _, limited⟩
  exact ⟨request, outbound, after, read, accepted,
    (limited Addressing.standard (heard.addressed passage)).1 known⟩

/-- A client that adds a parameter of its own may list what is not in the part. -/
theorem listing_unlimited_of_unknown_parameter :
    ∃ request outbound after,
      Incoming.read (Client.asking .sha256 "/alias" "list-type=2&prefix=other%2F&x=1") none "id" =
        .ok request ∧
      ((Client.aliased .sha256 Client.settings.remap).process request).perform Client.world =
        (.ok outbound, after) ∧
      Client.settings.find? request.bucket = some Client.part ∧
      request.method = "GET" ∧ request.key = "" ∧ "list-type" ∈ request.query.keys ∧
      outbound.bucket = "real" ∧
      (Uri.Query.parse (outbound.uri.query.getD "")).get "prefix" = ["other/"] ∧
      ¬Client.part.Limits (Uri.Query.parse (outbound.uri.query.getD "")) := by
  rcases Client.exists_heard .sha256 "/alias"
    (by decide : "list-type=2&prefix=other%2F&x=1" ≠ "") with ⟨request, read, heard⟩
  have place := heard.object (by decide +kernel : Route.bucketAndKey "/alias" = ("alias", ""))
  have found := Client.find?_alias place.1
  have asks : Text.sameLetters request.method "GET" = true := by
    rw [heard.method]
    decide
  have unknown : ∃ name ∈ request.query.keys, BucketMapping.isListingParameter name = false := by
    rw [heard.query]
    decide +kernel
  have other := (BucketMapping.isListing_eq_false_iff asks place.2).mpr unknown
  have bounded : Addressing.standard.Bounded
      (Outbound.targetOf ((Client.part.remap request).applyTo request)) := by
    rw [BucketMapping.applyTo_remap_of_no_listing other, Outbound.targetOf]
    dsimp only
    rw [place.2, heard.region, heard.query]
    decide +kernel
  rcases heard.exists_outbound (Client.applyTo_remap place.1) bounded with
    ⟨outbound, after, _, _, accepted⟩
  rcases passage_of_process accepted with ⟨passage, _, made⟩
  have resolved := passage.resolved_of_alias rfl found
  have kept : passage.resolved.query = request.query := by
    rw [resolved, BucketMapping.applyTo_remap_of_no_listing other]
  have sent := Outbound.object_of_assemble made
  rw [resolved, (BucketMapping.object_applyTo_remap Client.part request).1,
    Prod.mk.injEq] at sent
  have outside : (Uri.Query.parse (outbound.uri.query.getD "")).get "prefix" = ["other/"] := by
    rw [passage.prefixes_of_kept read made (heard.addressed passage) kept,
      StoreRequest.clientParameters, heard.rawQuery]
    decide +kernel
  have unlimited : ¬Client.part.Limits (Uri.Query.parse (outbound.uri.query.getD "")) := by
    rw [BucketMapping.Limits, outside]
    rintro ⟨_, within⟩
    rcases within "other/" List.mem_cons_self with ⟨rest, same⟩
    have first := congrArg (fun text => text.toList.head?) same
    simp [Client.part] at first
  have listed : "list-type" ∈ request.query.keys := by
    rw [heard.query]
    decide +kernel
  exact ⟨request, outbound, after, read, accepted, found, heard.method, place.2, listed, sent.1,
    outside, unlimited⟩

end Pipeline
end SignedGateway
