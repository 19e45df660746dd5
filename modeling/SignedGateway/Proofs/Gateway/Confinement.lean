import SignedGateway.Proofs.BucketMapping
import SignedGateway.Proofs.Gateway.QuerySent
import SignedGateway.Proofs.Gateway.Resigned
import SignedGateway.Proofs.Store.PathStyle

namespace SignedGateway

/-!
# What an alias confines

An alias stands for a part of a bucket.  Every object that is asked for by the alias is
looked for below the path of the part, and a listing asks for the keys below it: its
`prefix` is replaced by one that begins with the path, and its other parameters stay.  A
bucket that is no alias is asked for as it is, but for a lone equals sign among its
parameters, for which nothing is sent.

A request counts as a listing only if all of its parameters are ones that a listing may
have.  Any other request for the bucket itself keeps its parameters, so its `prefix`, if it
has one, is the client's.
-/

/-! ## Queries with another prefix -/

namespace StoreRequest

variable {message : Http.Request} {ownPath : Option String} {requestId : String}
  {request : StoreRequest} (read : Incoming.read message ownPath requestId = .ok request)

include read

/-- A prefix that is put in place of the client's is sent with the client's other
parameters. -/
theorem parameters_put_prefix (text : String) :
    Outbound.parameters (request.query.put "prefix" text) =
      request.clientParameters.put "prefix" text := by
  have lower : Text.lower "prefix" = "prefix" := by
    decide
  have lasting : "prefix" ∉ Authorization.presignedParameters := by
    decide
  have tidy := MultiMap.tidy_ofPairs true (Uri.Query.parsePairs (request.rawQuery.getD ""))
  have sensitive := MultiMap.ofPairs_caseSensitive true
    (Uri.Query.parsePairs (request.rawQuery.getD ""))
  rw [clientParameters, ← MultiMap.put_without _ lower lasting, Incoming.query_of_read read]
  exact Outbound.parameters_of_tidy (tidy.put "prefix" text) sensitive

/-- A listing has no parameter without a name. -/
theorem not_mem_pairs_put_prefix (listing : BucketMapping.isListing request = true)
    (text : String) : ("", "") ∉ (request.clientParameters.put "prefix" text).pairs := by
  intro member
  rcases MultiMap.mem_keys_put (MultiMap.mem_keys_of_mem_pairs member) with isPrefix | old
  · rw [MultiMap.normalize_of_lower _ (by decide)] at isPrefix
    exact absurd isPrefix (by decide)
  · rw [clientParameters, ← Incoming.query_of_read read, MultiMap.without,
      MultiMap.keys_restrict] at old
    have listed := (BucketMapping.isListing_iff.mp listing).2.2 "" (List.mem_filter.mp old).1
    revert listed
    decide

end StoreRequest

/-! ## Requests by an alias -/

namespace MappingSettings

/-- Whatever the settings say, an alias stands for a bucket and a path with no slash at either
end. -/
theorem trimmed_of_find? {settings : MappingSettings} {bucket : String} {mapping : BucketMapping}
    (found : settings.find? bucket = some mapping) : mapping.Trimmed := by
  rcases Option.map_eq_some_iff.mp found with ⟨target, _, rfl⟩
  exact BucketMapping.trimmed_parse target

end MappingSettings

namespace Pipeline

variable {Outside : Type} {pipeline : Pipeline Outside}

section Forwarded

variable {request : StoreRequest} (passage : Passage pipeline request) {settings : MappingSettings}

theorem Passage.resolved_of_alias
    (mapped : pipeline.remap = fun _ request => pure (settings.remap request))
    {mapping : BucketMapping} (found : settings.find? request.bucket = some mapping) :
    passage.resolved = (mapping.remap request).applyTo request := by
  rw [Passage.resolved, passage.remapped_eq mapped, MappingSettings.remap, found]
  rfl

theorem Passage.resolved_of_no_alias
    (mapped : pipeline.remap = fun _ request => pure (settings.remap request))
    (unknown : settings.find? request.bucket = none) : passage.resolved = request := by
  rw [Passage.resolved, passage.remapped_eq mapped, MappingSettings.remap, unknown]
  rfl

variable {message : Http.Request} {ownPath : Option String} {requestId : String}
  {outbound : OutboundRequest} {addressing : Addressing}
  (read : Incoming.read message ownPath requestId = .ok request)
  (made : passage.outcome = .ok outbound)
  (addressed : passage.connection.endpoint.getD pipeline.endpoint = addressing.rule)

include read made addressed

/-- A listing is sent with the confined prefix and the client's other parameters. -/
theorem Passage.sent_of_listing {mapping : BucketMapping} (part : mapping.path ≠ "")
    (listing : BucketMapping.isListing request = true)
    (resolved : passage.resolved = (mapping.remap request).applyTo request) :
    Uri.Query.parse (outbound.uri.query.getD "") =
      request.clientParameters.put "prefix" (mapping.confinedPrefix request) := by
  have filled := StoreRequest.not_mem_pairs_put_prefix read listing
    (mapping.confinedPrefix request)
  have asked : Outbound.parameters passage.resolved.query =
      request.clientParameters.put "prefix" (mapping.confinedPrefix request) := by
    rw [resolved, BucketMapping.applyTo_remap_of_listing part listing]
    exact StoreRequest.parameters_put_prefix read (mapping.confinedPrefix request)
  -- What was asked for is read back whole, as nothing in it goes unwritten.
  rw [← asked] at filled ⊢
  exact (Outbound.parse_query_eq_iff (Passage.endpoint_eq made addressed)).mpr filled

end Forwarded

end Pipeline

namespace Client

/-! ## A client of a gateway with an alias -/

/-- The one alias of the gateway. -/
def settings : MappingSettings :=
  ⟨[("alias", "real/part")]⟩

def part : BucketMapping :=
  ⟨"real", "part"⟩

section Aliased

variable {request : StoreRequest} (known : request.bucket = "alias")

include known

theorem find?_alias : settings.find? request.bucket = some part := by
  rw [known]
  decide +kernel

theorem applyTo_remap :
    ((settings.remap request).map (·.applyTo request)).getD request =
      (part.remap request).applyTo request := by
  rw [MappingSettings.remap, find?_alias known]
  rfl

end Aliased

end Client

/-! ## Confined requests -/

/-- The URI that is found for a request by an alias.  In a path style its path is that of the
key below the part's path.  A listing has one prefix in it, which begins with the part's
path, and the client's other parameters. -/
structure BucketMapping.Confines (mapping : BucketMapping) (addressing : Addressing)
    (request : StoreRequest) (uri : Uri) : Prop where
  path : addressing.style = .path → request.key ≠ "" →
    Uri.Percent.decode uri.path =
      "/" ++ mapping.bucket ++ "/" ++ (mapping.path ++ "/" ++ request.key)
  listPrefix : isListing request = true →
    (Uri.Query.parse (uri.query.getD "")).get "prefix" = [mapping.confinedPrefix request]
  others : isListing request = true →
    (Uri.Query.parse (uri.query.getD "")).without ["prefix"] =
      request.clientParameters.without ["prefix"]

namespace Pipeline

variable {Outside : Type} {pipeline : Pipeline Outside}

/-- A request by an alias is forwarded for the part of the bucket that the alias stands for:
its key, if it has one, goes below the path, and so does what a listing asks for. -/
structure Passage.ConfinedTo (mapping : BucketMapping) {request : StoreRequest}
    (passage : Passage pipeline request) (outbound : OutboundRequest) : Prop where
  trimmed : mapping.Trimmed
  bucket : outbound.bucket = mapping.bucket
  key : outbound.key = mapping.keyUnder request.key
  keyBelow : request.key ≠ "" → outbound.key = mapping.path ++ "/" ++ request.key
  keysApart : Function.Injective mapping.keyUnder
  noKey : BucketMapping.isListing request = true → outbound.key = ""
  sent : ∀ addressing : Addressing,
    passage.connection.endpoint.getD pipeline.endpoint = addressing.rule →
    mapping.Confines addressing request outbound.uri

/-- A request for a bucket that is no alias keeps its bucket and its key.  It is signed for its
client's parameters, and they are sent, but for a lone equals sign. -/
structure Passage.Kept {request : StoreRequest} (passage : Passage pipeline request)
    (outbound : OutboundRequest) : Prop where
  bucket : outbound.bucket = request.bucket
  key : outbound.key = request.key
  signed : outbound.SignedOver pipeline.suite passage.connection.credential outbound.uri.path
    request.clientParameters
  sent : ∀ addressing : Addressing,
    passage.connection.endpoint.getD pipeline.endpoint = addressing.rule →
    Uri.Query.parse (outbound.uri.query.getD "") =
        MultiMap.ofPairs true (Uri.Query.visible request.clientParameters.pairs) ∧
      (Uri.Query.parse (outbound.uri.query.getD "") = request.clientParameters ↔
        "=" ∉ Text.splitOn '&' (request.rawQuery.getD ""))

section Confined

variable {settings : MappingSettings} {message : Http.Request} {ownPath : Option String}
  {requestId : String} {request : StoreRequest} {world after : World Outside}
  {outbound : OutboundRequest}
  (read : Incoming.read message ownPath requestId = .ok request)
  (mapped : pipeline.remap = fun _ request => pure (settings.remap request))

include read mapped

theorem Passage.confinedTo (passage : Passage pipeline request)
    (made : passage.outcome = .ok outbound) {mapping : BucketMapping}
    (found : settings.find? request.bucket = some mapping) (part : mapping.path ≠ "") :
    passage.ConfinedTo mapping outbound := by
  have trimmed := MappingSettings.trimmed_of_find? found
  have resolved := passage.resolved_of_alias mapped found
  have moved := BucketMapping.object_applyTo_remap mapping request
  rw [← resolved] at moved
  have object := Outbound.object_of_assemble made
  rw [moved.1, moved.2, Prod.mk.injEq] at object
  have below (named : request.key ≠ "") : mapping.keyUnder request.key =
      mapping.path ++ "/" ++ request.key := BucketMapping.keyUnder_of_key part named
  refine ⟨trimmed, object.1, object.2, fun named => object.2.trans (below named),
    mapping.keyUnder_injective, fun listing => ?_, fun addressing addressed => ?_⟩
  · rw [object.2, (BucketMapping.isListing_iff.mp listing).2.1, BucketMapping.keyUnder_empty]
  · refine ⟨fun pathStyle named => ?_, fun listing => ?_, fun listing => ?_⟩
    · rw [Addressing.path_of_endpoint (Passage.endpoint_eq made addressed), Outbound.targetOf]
      dsimp only
      rw [moved.1, moved.2, below named,
        Addressing.decode_pathFor pathStyle (trimmed.bucketNamed part)]
    · rw [passage.sent_of_listing read made addressed part listing resolved,
        MultiMap.get_put, if_pos rfl]
    · rw [passage.sent_of_listing read made addressed part listing resolved,
        MultiMap.put_without_of_mem _ (by decide) (by decide)]

theorem Passage.kept (passage : Passage pipeline request)
    (made : passage.outcome = .ok outbound) (unknown : settings.find? request.bucket = none) :
    passage.Kept outbound := by
  have resolved := passage.resolved_of_no_alias mapped unknown
  have object := Outbound.object_of_assemble made
  have signed := Outbound.signedOver_of_assemble made
  rw [resolved, Prod.mk.injEq] at object
  rw [← Outbound.uri_of_assemble made, resolved,
    StoreRequest.parameters_eq_clientParameters read] at signed
  refine ⟨object.1, object.2, signed, fun addressing addressed => ?_⟩
  have placed := Passage.endpoint_eq made addressed
  have same := congrArg StoreRequest.query resolved
  exact ⟨StoreRequest.parse_query_of_kept read same placed,
    StoreRequest.parse_query_eq_iff_of_kept read same placed⟩

/-- Whatever mappings are set, a request by an alias for a part of a bucket is confined to that
part, and a request for a bucket that is no alias is forwarded as it is, but for a lone equals
sign. -/
theorem alias_confines
    (accepted : (pipeline.process request).perform world = (.ok outbound, after)) :
    ∃ passage : Passage pipeline request,
      ((pipeline.watched.process request).perform (world.withCalls [])).2.calls = passage.calls ∧
        (∀ mapping, settings.find? request.bucket = some mapping → mapping.path ≠ "" →
          passage.ConfinedTo mapping outbound) ∧
        (settings.find? request.bucket = none → passage.Kept outbound) := by
  rcases passage_of_process accepted with ⟨passage, calls, made⟩
  exact ⟨passage, calls, fun mapping found part => passage.confinedTo read mapped made found part,
    fun unknown => passage.kept read mapped made unknown⟩

end Confined

/-- The key that a client asks for by an alias is looked for below the part's path. -/
theorem key_below_part_of_client :
    ∃ request outbound after,
      Incoming.read (Client.asking .sha256 "/alias/a%2Fb" "acl") none "id" = .ok request ∧
      ((Client.aliased .sha256 Client.settings.remap).process request).perform Client.world =
        (.ok outbound, after) ∧
      outbound.key = "part/a/b" ∧ Uri.Percent.decode outbound.uri.path = "/real/part/a/b" := by
  rcases Client.exists_heard .sha256 "/alias/a%2Fb" (by decide : "acl" ≠ "") with
    ⟨request, read, heard⟩
  have place := heard.object
    (by decide +kernel : Route.bucketAndKey "/alias/a%2Fb" = ("alias", "a/b"))
  have found := Client.find?_alias place.1
  have named : request.key ≠ "" := by
    rw [place.2]
    decide
  have moved := @BucketMapping.applyTo_remap_of_no_listing Client.part request
    (BucketMapping.isListing_eq_false_of_key named)
  have bounded : Addressing.standard.Bounded
      (Outbound.targetOf ((Client.part.remap request).applyTo request)) := by
    rw [moved, Outbound.targetOf]
    dsimp only
    rw [place.2, heard.region, heard.query]
    decide +kernel
  rcases heard.exists_outbound (Client.applyTo_remap place.1) bounded with
    ⟨outbound, after, _, _, accepted⟩
  rcases alias_confines read rfl accepted with ⟨passage, _, confined, _⟩
  have within := confined Client.part found (by decide)
  have below := within.keyBelow named
  have path := (within.sent Addressing.standard (heard.addressed passage)).path rfl named
  rw [place.2] at below path
  exact ⟨request, outbound, after, read, accepted, below, path⟩

/-- A client that asks a bucket which is no alias with a lone equals sign has a parameter that
is signed and not sent. -/
theorem parameter_lost_without_alias :
    ∃ request outbound after,
      Incoming.read (Client.asking .sha256 "/b/k" "=") none "id" = .ok request ∧
      ((Client.aliased .sha256 Client.settings.remap).process request).perform Client.world =
        (.ok outbound, after) ∧
      Client.settings.find? request.bucket = none ∧
      request.clientParameters.pairs = [("", "")] ∧
      outbound.SignedOver .sha256 Client.storeCredential outbound.uri.path
        request.clientParameters ∧
      outbound.uri.query = none := by
  rcases Client.exists_heard .sha256 "/b/k" (by decide : "=" ≠ "") with ⟨request, read, heard⟩
  have place := heard.object (by decide +kernel : Route.bucketAndKey "/b/k" = ("b", "k"))
  have unknown : Client.settings.find? request.bucket = none := by
    rw [place.1]
    decide +kernel
  have unmapped : ((Client.settings.remap request).map (·.applyTo request)).getD request =
      request := by
    rw [MappingSettings.remap, unknown]
    rfl
  have bounded : Addressing.standard.Bounded (Outbound.targetOf request) := by
    rw [Outbound.targetOf, place.1, place.2, heard.region, heard.query]
    decide +kernel
  have asked : request.clientParameters.pairs = [("", "")] := by
    rw [StoreRequest.clientParameters, heard.rawQuery]
    decide +kernel
  rcases heard.exists_outbound unmapped bounded with ⟨outbound, after, placed, _, accepted⟩
  rcases passage_of_process accepted with ⟨passage, _, made⟩
  have signed := (passage.kept read rfl made unknown).signed
  rw [(heard.passage_eq passage).1] at signed
  exact ⟨request, outbound, after, read, accepted, unknown, asked, signed,
    Outbound.query_eq_none_of_equals_sign heard.query placed⟩

end Pipeline
end SignedGateway
