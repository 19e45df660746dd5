import SignedGateway.Proofs.Gateway.Client
import SignedGateway.Proofs.Gateway.Parameters
import SignedGateway.Proofs.Gateway.Promptness

namespace SignedGateway
namespace Client

/-!
# What a client asks for

What the client asks for is read as it was signed, as long as its query is not empty.  It
is let through by a gateway that may have other names for its buckets, whatever the
aliases make of it, unless that is too long for a URI.
-/

/-- The request that is read when the client asks for a path with a query. -/
structure Heard (suite : Digest.Suite) (path rawQuery : String) (request : StoreRequest) :
    Prop where
  back : ∃ day,
    Signature.ReadBack (signable path rawQuery) suite credential ⟨day, "r", "s3"⟩ request
  query : request.query = Uri.Query.parse rawQuery
  rawQuery : request.rawQuery = some rawQuery
  body : request.body = []
  place : (request.bucket, request.key) = Route.bucketAndKey path

/-- Whatever the client asks for, its message is read under any identifier. -/
theorem exists_heard_under (suite : Digest.Suite) (path requestId : String) {rawQuery : String}
    (nonempty : rawQuery ≠ "") :
    ∃ request, Incoming.read (asking suite path rawQuery) none requestId = .ok request ∧
      Heard suite path rawQuery request := by
  have selected : record.select .emulated = .ok credential := rfl
  have dated : (signable path rawQuery).date = date := rfl
  have region : (signable path rawQuery).region = "r" := rfl
  have names : (Signature.namesToSign (signable path rawQuery).headers).Perm signedNames :=
    List.Perm.refl _
  rcases exists_signed suite .s3 selected dated region (isFieldValue_signedNames names)
    (by decide) with ⟨signed, signs, valid⟩
  have made : header suite path rawQuery = signed.authorization := by
    rw [header, signs]
  have same : (asking suite path rawQuery).uri.path = (signable path rawQuery).path := rfl
  rcases exists_read (sendable path rawQuery) rfl signs valid rfl same [] requestId with
    ⟨day, request, read, back, query, body, place⟩
  rw [← made] at read
  refine ⟨request, read, ⟨day, back⟩, query, ?_, body, place⟩
  rcases Incoming.read_eq_ok_iff.mp read with ⟨_, _, _, _, _, rfl⟩
  exact if_pos (bne_iff_ne.mpr nonempty)

theorem exists_heard (suite : Digest.Suite) (path : String) {rawQuery : String}
    (nonempty : rawQuery ≠ "") :
    ∃ request, Incoming.read (asking suite path rawQuery) none "id" = .ok request ∧
      Heard suite path rawQuery request :=
  exists_heard_under suite path "id" nonempty

/-- A place is found for a request that is signed for the client's region. -/
theorem endpoint_targetOf {request : StoreRequest} (region : request.authorization.region = "r")
    (bounded : Addressing.standard.Bounded (Outbound.targetOf request)) :
    Addressing.standard.endpoint (Outbound.targetOf request) =
      .ok (Uri.absolute "https" ⟨"s3.r.amazonaws.com"⟩
        ⟨Addressing.standard.pathFor request.bucket request.key,
          (Outbound.targetOf request).query.filter (· != "")⟩) := by
  have plain := Outbound.isQueryChar_of_mem_targetOf request
  rw [Outbound.targetOf, region] at plain bounded ⊢
  exact endpoint_eq plain bounded

namespace Heard

variable {suite : Digest.Suite} {path rawQuery : String} {request : StoreRequest}
  (heard : Heard suite path rawQuery request)

include heard

theorem method : request.method = "GET" := by
  rcases heard.back with ⟨day, back⟩
  exact back.method

theorem region : request.authorization.region = "r" := by
  rcases heard.back with ⟨day, back⟩
  rw [back.authorization]
  rfl

theorem found : directory.find? request.authorization.accessKey
    request.authorization.securityToken = some record := by
  rcases heard.back with ⟨day, back⟩
  rw [back.authorization]
  rfl

theorem matching : Signature.verifyPayload suite request.headers request.body = .ok () := by
  rcases heard.back with ⟨day, back⟩
  rcases back.headers with ⟨header, headers⟩
  rw [Signature.verifyPayload, headers]
  rfl

theorem payload_eq : Outbound.payload suite request =
    .ok ([], ⟨false, [("x-amz-content-sha256", ["UNSIGNED-PAYLOAD"])]⟩) := by
  rcases heard.back with ⟨day, back⟩
  rcases back.headers with ⟨header, headers⟩
  rw [Outbound.payload, headers, heard.body]
  rfl

theorem object {bucket key : String} (named : Route.bucketAndKey path = (bucket, key)) :
    request.bucket = bucket ∧ request.key = key := by
  have place := heard.place
  rw [named, Prod.mk.injEq] at place
  exact place

theorem untold : request.authorization.securityToken = none := by
  rcases heard.back with ⟨day, back⟩
  rw [back.authorization]
  rfl

/-- What is made for the store of what the client asks for comes out of the gateway, under
whatever name it has for the bucket and whatever has happened before. -/
theorem exists_processed {aliases : StoreRequest → Option Remapped} {resolved : StoreRequest}
    (mapped : ((aliases request).map (·.applyTo request)).getD request = resolved) {uri : Uri}
    (placed : Addressing.standard.endpoint (Outbound.targetOf resolved) = .ok uri)
    {outbound : OutboundRequest}
    (made : Outbound.assemble suite clock resolved record storeCredential none uri = .ok outbound)
    {start : World Unit} (time : start.now = clock.now) :
    ∃ after, ((aliased suite aliases).process request).perform start = (.ok outbound, after) := by
  rcases heard.back with ⟨day, back⟩
  have sendable := sendable path rawQuery
  exact exists_processed_of_mapped sendable rfl (back.restates sendable) heard.untold heard.query
    heard.matching mapped placed made time

/-- The gateway lets the client's request through. -/
theorem exists_outbound {aliases : StoreRequest → Option Remapped} {resolved : StoreRequest}
    (mapped : ((aliases request).map (·.applyTo request)).getD request = resolved)
    (bounded : Addressing.standard.Bounded (Outbound.targetOf resolved)) :
    ∃ outbound after,
      Addressing.standard.endpoint (Outbound.targetOf resolved) = .ok outbound.uri ∧
        Outbound.assemble suite clock resolved record storeCredential none outbound.uri =
          .ok outbound ∧
        ((aliased suite aliases).process request).perform world = (.ok outbound, after) := by
  rcases heard.back with ⟨day, back⟩
  have token : Http.isToken (signable path rawQuery).method = true := isToken_get
  have region : resolved.authorization.region = "r" := by
    rcases Remapped.exists_getD_applyTo_eq (aliases request) request with ⟨_, _, _, kept⟩
    rw [← mapped, kept]
    exact heard.region
  have placed := endpoint_targetOf region bounded
  have sendable := sendable path rawQuery
  rcases exists_outbound_of_mapped sendable rfl (back.restates sendable) heard.untold heard.query
    heard.matching token mapped placed (writable_digest (by decide)) heard.payload_eq with
    ⟨outbound, after, made, done⟩
  refine ⟨outbound, after, ?_, ?_, done⟩
  · rw [Outbound.uri_of_assemble made, placed]
  · rw [Outbound.uri_of_assemble made]
    exact made

/-- There is only one way through the gateway: with the credential of its directory and the
alias that it has. -/
theorem passage_eq {aliases : StoreRequest → Option Remapped}
    (passage : Pipeline.Passage (aliased suite aliases) request) :
    passage.connection = ⟨storeCredential, none, none⟩ ∧ passage.remapped = aliases request := by
  rcases passage.found with ⟨before, after, found, _⟩
  have same : passage.record = record := by
    change (Except.ok (directory.find? _ _), before) = _ at found
    rw [heard.found, Prod.mk.injEq, Except.ok.injEq, Option.some.injEq] at found
    exact found.1.symm
  rcases passage.mapped with ⟨_, _, mapped⟩
  rcases passage.joined with ⟨_, _, joined⟩
  constructor
  · have connected := congrArg Prod.fst joined
    rw [same] at connected
    exact (Option.some.inj (Except.ok.inj connected)).symm
  · exact (congrArg Prod.fst mapped).symm

/-! The same without aliases. -/

theorem exists_processed_unmapped {uri : Uri}
    (placed : Addressing.standard.endpoint (Outbound.targetOf request) = .ok uri)
    {outbound : OutboundRequest}
    (made : Outbound.assemble suite clock request record storeCredential none uri = .ok outbound)
    {start : World Unit} (time : start.now = clock.now) :
    ∃ after, ((pipeline suite).process request).perform start = (.ok outbound, after) := by
  rw [← aliased_none]
  exact heard.exists_processed (applyTo_none request) placed made time

theorem exists_outbound_unmapped
    (bounded : Addressing.standard.Bounded (Outbound.targetOf request)) :
    ∃ outbound after,
      Addressing.standard.endpoint (Outbound.targetOf request) = .ok outbound.uri ∧
        Outbound.assemble suite clock request record storeCredential none outbound.uri =
          .ok outbound ∧
        ((pipeline suite).process request).perform world = (.ok outbound, after) := by
  rw [← aliased_none]
  exact heard.exists_outbound (applyTo_none request) bounded

theorem unmapped_eq (passage : Pipeline.Passage (pipeline suite) request) :
    passage.connection = ⟨storeCredential, none, none⟩ ∧ passage.resolved = request := by
  revert passage
  rw [← aliased_none]
  intro passage
  rcases heard.passage_eq passage with ⟨connection, unmapped⟩
  refine ⟨connection, ?_⟩
  rw [Pipeline.Passage.resolved, unmapped]
  rfl

end Heard

/-! ## Asking for the access rules of a key -/

theorem bucketAndKey_eq (key : String) :
    Route.bucketAndKey ("/b/" ++ key) = ("b", Uri.Percent.decode key) :=
  Route.bucketAndKey_slash (by decide : '/' ∉ "b".toList) key

/-- What the client wants to know of the store. -/
def wanted (key : String) : StoreTarget :=
  ⟨Uri.Percent.decode key, "b", "r", some "acl"⟩

/-- Where the gateway finds the object at the store. -/
def place (key : String) : Uri :=
  Uri.absolute "https" ⟨"s3.r.amazonaws.com"⟩
    ⟨Addressing.standard.pathFor "b" (Uri.Percent.decode key), some "acl"⟩

/-- The request that is read from the client's message. -/
def Asked (suite : Digest.Suite) (key : String) : StoreRequest → Prop :=
  Heard suite ("/b/" ++ key) "acl"

theorem exists_asked_under (suite : Digest.Suite) (key requestId : String) :
    ∃ request, Incoming.read (message suite key) none requestId = .ok request ∧
      Asked suite key request :=
  exists_heard_under suite ("/b/" ++ key) requestId (by decide)

theorem exists_asked (suite : Digest.Suite) (key : String) :
    ∃ request, Incoming.read (message suite key) none "id" = .ok request ∧
      Asked suite key request :=
  exists_asked_under suite key "id"

namespace Asked

variable {suite : Digest.Suite} {key : String} {request : StoreRequest}
  (asked : Asked suite key request)

include asked

theorem bucket_eq : request.bucket = "b" :=
  (asked.object (bucketAndKey_eq key)).1

theorem key_eq : request.key = Uri.Percent.decode key :=
  (asked.object (bucketAndKey_eq key)).2

theorem targetOf_eq : Outbound.targetOf request = wanted key := by
  rw [Outbound.targetOf, asked.bucket_eq, asked.key_eq, asked.region, asked.query]
  rfl

/-- The gateway lets the client's request through, if it is not too long for a URI. -/
theorem exists_outbound (bounded : Addressing.standard.Bounded (wanted key)) :
    Addressing.standard.endpoint (Outbound.targetOf request) = .ok (place key) ∧
      ∃ outbound after,
        Outbound.assemble suite clock request record storeCredential none (place key) =
          .ok outbound ∧
        ((pipeline suite).process request).perform world = (.ok outbound, after) := by
  rw [← asked.targetOf_eq] at bounded
  have placed : Addressing.standard.endpoint (Outbound.targetOf request) = .ok (place key) := by
    rw [endpoint_targetOf asked.region bounded, asked.targetOf_eq, asked.bucket_eq, asked.key_eq]
    rfl
  rcases asked.exists_outbound_unmapped bounded with ⟨outbound, after, found, made, done⟩
  rw [placed, Except.ok.injEq] at found
  rw [← found] at made
  exact ⟨placed, outbound, after, made, done⟩

end Asked

/-! ## Time and addresses -/

theorem prompt_aliased (suite : Digest.Suite) (aliases : StoreRequest → Option Remapped) :
    (aliased suite aliases).Prompt :=
  Pipeline.prompt_aliased suite clock.maxDrift directory aliases

theorem prompt_pipeline (suite : Digest.Suite) : (pipeline suite).Prompt := by
  rw [← aliased_none]
  exact prompt_aliased suite fun _ => none

/-- The gateway has one rule for its addresses. -/
theorem addressed_aliased {suite : Digest.Suite} {aliases : StoreRequest → Option Remapped}
    {credential : Credential} {role : Option SessionRole} :
    (⟨credential, role, none⟩ : Connection Unit).endpoint.getD (aliased suite aliases).endpoint =
      Addressing.standard.rule := by
  dsimp only [aliased, Pipeline.aliased, Pipeline.standard, Option.getD_none]

theorem Heard.addressed {suite : Digest.Suite} {path rawQuery : String} {request : StoreRequest}
    (heard : Heard suite path rawQuery request) {aliases : StoreRequest → Option Remapped}
    (passage : Pipeline.Passage (aliased suite aliases) request) :
    passage.connection.endpoint.getD (aliased suite aliases).endpoint =
      Addressing.standard.rule := by
  rw [(heard.passage_eq passage).1]
  exact addressed_aliased

theorem addressed_pipeline {suite : Digest.Suite} {credential : Credential}
    {role : Option SessionRole} :
    (⟨credential, role, none⟩ : Connection Unit).endpoint.getD (pipeline suite).endpoint =
      Addressing.standard.rule := by
  dsimp only [pipeline, Pipeline.standard, Option.getD_none]

end Client
end SignedGateway
