import SignedGateway.Gateway.Outbound
import SignedGateway.Proofs.Result
import SignedGateway.Proofs.Signature.ReadBack

namespace SignedGateway
namespace Outbound

/-!
# The headers of a request for the store

Whatever a client has sent, the headers of the request for the store are a tidy map
with a host, a date and the digest of the body.  The digest fits the body, because it
is either made for it or is the one that the client declared and that was checked.
-/

/-! ## Kept headers -/

theorem tidy_keptHeaders (headers : MultiMap) : (keptHeaders headers).Tidy :=
  MultiMap.tidy_ofPairs false _

theorem keptHeaders_caseSensitive (headers : MultiMap) :
    (keptHeaders headers).caseSensitive = false :=
  MultiMap.ofPairs_caseSensitive false _

/-- A header that is not dropped keeps its values. -/
theorem find?_keptHeaders {headers : MultiMap} (tidy : headers.Tidy)
    (insensitive : headers.caseSensitive = false) {name : String}
    (kept : Text.lower name ∉ droppedHeaders) :
    (keptHeaders headers).find? name = headers.find? name := by
  have found := tidy.lookup_filter (fun name => !droppedHeaders.contains name) (Text.lower name)
  have stays : (!droppedHeaders.contains (Text.lower name)) = true := by
    rw [Bool.not_eq_true', ← Bool.not_eq_true, List.contains_iff_mem]
    exact kept
  rw [insensitive, if_pos stays] at found
  rw [MultiMap.find?_eq, MultiMap.find?_eq, keptHeaders_caseSensitive, insensitive]
  exact found

/-! ## The digest of the body -/

/-- The headers of a body: tidy, with a digest that the body passes. -/
structure Describes (suite : Digest.Suite) (headers : MultiMap) (body : List UInt8) : Prop where
  tidy : headers.Tidy
  insensitive : headers.caseSensitive = false
  declared : ∃ hash, headers.getFirst? Signature.payloadHeader = some hash
  fits : Signature.verifyPayload suite headers body = .ok ()

/-- The check of a digest depends on the headers only through the digest. -/
theorem verifyPayload_congr {suite : Digest.Suite} {headers other : MultiMap}
    (same : headers.getFirst? Signature.payloadHeader = other.getFirst? Signature.payloadHeader)
    (body : List UInt8) :
    Signature.verifyPayload suite headers body = Signature.verifyPayload suite other body := by
  rw [Signature.verifyPayload, Signature.verifyPayload, same]

/-- A digest that is made for the body fits it. -/
theorem describes_put {headers : MultiMap} (tidy : headers.Tidy)
    (insensitive : headers.caseSensitive = false) (suite : Digest.Suite) (body : List UInt8) :
    Describes suite (headers.put Signature.payloadHeader (Signature.payloadHash suite body)) body := by
  have declared := MultiMap.getFirst?_put_self headers Signature.payloadHeader
    (Signature.payloadHash suite body)
  refine ⟨tidy.put _ _, insensitive, ⟨_, declared⟩, ?_⟩
  rw [Signature.verifyPayload, declared]
  dsimp only
  rw [Text.sameLetters_self, Bool.not_true, Bool.and_false]
  rfl

/-- The headers of a body that came in chunks are tidy headers with a digest. -/
theorem exists_wholeBodyHeaders_eq (client : MultiMap) {kept : MultiMap} (tidy : kept.Tidy)
    (insensitive : kept.caseSensitive = false) (hash : String) :
    ∃ coded : MultiMap, coded.Tidy ∧ coded.caseSensitive = false ∧
      wholeBodyHeaders client kept hash = coded.put Signature.payloadHeader hash := by
  have bare := (tidy.remove "content-encoding").remove "x-amz-decoded-content-length"
  rw [wholeBodyHeaders]
  cases remainingCodings client with
  | none => exact ⟨_, bare, insensitive, rfl⟩
  | some codings => exact ⟨_, bare.put "content-encoding" codings, insensitive, rfl⟩

/-- The body and its headers do not depend on the object. -/
theorem payload_moved {suite : Digest.Suite} (request : StoreRequest) (bucket key : String)
    (query : MultiMap) :
    payload suite { request with bucket := bucket, key := key, query := query } =
      payload suite request := by
  unfold payload
  rfl

theorem tidy_of_payload {suite : Digest.Suite} {request : StoreRequest} {body : List UInt8}
    {described : MultiMap} (made : payload suite request = .ok (body, described)) :
    described.Tidy ∧ described.caseSensitive = false := by
  have keptTidy := tidy_keptHeaders request.headers
  have keptInsensitive := keptHeaders_caseSensitive request.headers
  unfold payload at made
  dsimp only at made
  split_ifs at made
  · split at made
    · cases made
    · cases made
      rcases exists_wholeBodyHeaders_eq request.headers keptTidy keptInsensitive
        (Signature.payloadHash suite body) with ⟨coded, codedTidy, codedInsensitive, same⟩
      rw [same]
      exact ⟨codedTidy.put _ _, codedInsensitive⟩
  · cases made
    exact ⟨keptTidy, keptInsensitive⟩
  · cases made
    exact ⟨keptTidy.put _ _, keptInsensitive⟩

/-- The headers of the body that is sent describe it. -/
theorem describes_payload {suite : Digest.Suite} {request : StoreRequest} {body : List UInt8}
    {described : MultiMap} (tidy : request.headers.Tidy)
    (insensitive : request.headers.caseSensitive = false)
    (matching : Signature.verifyPayload suite request.headers request.body = .ok ())
    (made : payload suite request = .ok (body, described)) : Describes suite described body := by
  have keptTidy := tidy_keptHeaders request.headers
  have keptInsensitive := keptHeaders_caseSensitive request.headers
  unfold payload at made
  dsimp only at made
  split_ifs at made with chunked declares
  · split at made
    · cases made
    · cases made
      rcases exists_wholeBodyHeaders_eq request.headers keptTidy keptInsensitive
        (Signature.payloadHash suite body) with ⟨coded, codedTidy, codedInsensitive, same⟩
      rw [same]
      exact describes_put codedTidy codedInsensitive suite body
  · cases made
    have same : (keptHeaders request.headers).getFirst? Signature.payloadHeader =
        request.headers.getFirst? Signature.payloadHeader := by
      rw [MultiMap.getFirst?, MultiMap.get, find?_keptHeaders tidy insensitive (by decide)]
      rfl
    have stored : Signature.payloadHeader ∈ request.headers.keys := by
      have normal : MultiMap.normalize request.headers.caseSensitive Signature.payloadHeader =
          Signature.payloadHeader := by
        rw [insensitive]
        decide
      rw [MultiMap.mem_keys_iff normal]
      exact Option.isSome_iff_ne_none.mp declares
    refine ⟨keptTidy, keptInsensitive, ?_, ?_⟩
    · rw [same, MultiMap.getFirst?]
      exact ⟨_, List.head?_eq_some_head (tidy.get_ne_nil stored)⟩
    · rw [verifyPayload_congr same]
      exact matching
  · cases made
    exact describes_put keptTidy keptInsensitive suite request.body

/-! ## Headers that are made anew -/

section Addressed

variable {headers : MultiMap} (host date : String) (token : Option String)

theorem tidy_addressed (tidy : headers.Tidy) : (addressed headers host date token).Tidy := by
  have dated := (tidy.put "host" host).put "x-amz-date" date
  cases token with
  | none => exact dated
  | some text => exact dated.put "x-amz-security-token" text

theorem addressed_caseSensitive :
    (addressed headers host date token).caseSensitive = headers.caseSensitive := by
  cases token <;> rfl

variable (insensitive : headers.caseSensitive = false)

include insensitive

/-- Only the token, if there is one, is set after host and date. -/
theorem getFirst?_addressed {name : String}
    (different : Text.lower name ≠ Text.lower "x-amz-security-token") :
    (addressed headers host date token).getFirst? name =
      ((headers.put "host" host).put "x-amz-date" date).getFirst? name := by
  cases token with
  | none => rfl
  | some text =>
      have dated : ((headers.put "host" host).put "x-amz-date" date).caseSensitive = false :=
        insensitive
      exact MultiMap.getFirst?_put_of_ne dated different text

theorem getFirst?_addressed_date :
    (addressed headers host date token).getFirst? "x-amz-date" = some date := by
  rw [getFirst?_addressed host date token insensitive (by decide)]
  exact MultiMap.getFirst?_put_self _ "x-amz-date" date

theorem getFirst?_addressed_host :
    (addressed headers host date token).getFirst? "host" = some host := by
  have hosted : (headers.put "host" host).caseSensitive = false := insensitive
  rw [getFirst?_addressed host date token insensitive (by decide),
    MultiMap.getFirst?_put_of_ne hosted (by decide)]
  exact MultiMap.getFirst?_put_self headers "host" host

theorem getFirst?_addressed_payload :
    (addressed headers host date token).getFirst? Signature.payloadHeader =
      headers.getFirst? Signature.payloadHeader := by
  have hosted : (headers.put "host" host).caseSensitive = false := insensitive
  rw [getFirst?_addressed host date token insensitive (by decide),
    MultiMap.getFirst?_put_of_ne hosted (by decide)]
  exact MultiMap.getFirst?_put_of_ne insensitive (by decide) host

end Addressed

/-! ## The request that is signed -/

/-- What is signed of a request for the store. -/
def signable (clock : Clock) (request : StoreRequest) (credential : Credential) (uri : Uri)
    (described : MultiMap) (host : String) : Signature.Signable :=
  { method := request.method
    path := uri.path
    headers := addressed described host (dateOf clock request) credential.session
    query := parameters request.query
    date := dateOf clock request
    region := request.authorization.region }

theorem tidy_signable {suite : Digest.Suite} {request : StoreRequest} {body : List UInt8}
    {described : MultiMap} (describes : payload suite request = .ok (body, described))
    (clock : Clock) (credential : Credential) (uri : Uri) (host : String) :
    (signable clock request credential uri described host).headers.Tidy ∧
      (signable clock request credential uri described host).headers.caseSensitive = false := by
  rcases tidy_of_payload describes with ⟨tidy, insensitive⟩
  exact ⟨tidy_addressed host _ credential.session tidy,
    (addressed_caseSensitive host _ credential.session).trans insensitive⟩

theorem sendable_signable {suite : Digest.Suite} {described : MultiMap} {body : List UInt8}
    (describes : Describes suite described body) (clock : Clock) (request : StoreRequest)
    (credential : Credential) (uri : Uri) (host : String) :
    Signature.Sendable (signable clock request credential uri described host) := by
  rcases describes.declared with ⟨hash, declared⟩
  refine ⟨?_, ?_, ?_, ?_, ?_⟩
  · exact tidy_addressed host _ credential.session describes.tidy
  · exact (addressed_caseSensitive host _ credential.session).trans describes.insensitive
  · exact MultiMap.contains_of_getFirst?
      (getFirst?_addressed_host host _ credential.session describes.insensitive)
  · exact getFirst?_addressed_date host _ credential.session describes.insensitive
  · exact ⟨hash,
      (getFirst?_addressed_payload host _ credential.session describes.insensitive).trans declared⟩

/-- A request for the store that was made has been signed, and it carries the headers that
were signed and the body that they describe. -/
theorem assemble_eq_ok {suite : Digest.Suite} {clock : Clock} {request : StoreRequest}
    {record : CredentialRecord} {credential : Credential} {role : Option SessionRole} {uri : Uri}
    {outbound : OutboundRequest}
    (made : assemble suite clock request record credential role uri = .ok outbound) :
    ∃ authority body described signed,
      payload suite request = .ok (body, described) ∧
      Signature.sign suite clock
          (contextFor record credential role request.authorization.region) .remote
          (signable clock request credential uri described authority) = .ok signed ∧
      signedFields (signable clock request credential uri described authority).headers
          signed.authorization = .ok outbound.headers ∧
      Http.isToken request.method = true ∧
      outbound.method = request.method ∧ outbound.uri = uri ∧ outbound.body = body ∧
      uri.authority = some ⟨authority⟩ := by
  unfold assemble at made
  split at made
  · next authority hosted =>
      rcases Result.bind_eq_ok_iff.mp made with ⟨⟨body, described⟩, describes, made⟩
      rcases Result.bind_eq_ok_iff.mp made with ⟨signed, signs, made⟩
      rcases Result.bind_eq_ok_iff.mp made with ⟨fields, writes, made⟩
      split_ifs at made with token
      · cases made
        exact ⟨authority.text, body, described, signed, describes,
          Result.mapError_eq_ok_iff.mp signs, writes, token, rfl, rfl, rfl, hosted⟩
  · cases made

/-- A request for the store that was made carries what was signed of it. -/
theorem exists_signable_of_assemble {suite : Digest.Suite} {clock : Clock} {request : StoreRequest}
    {record : CredentialRecord} {credential : Credential} {role : Option SessionRole} {uri : Uri}
    {outbound : OutboundRequest}
    (made : assemble suite clock request record credential role uri = .ok outbound) :
    ∃ authority body described signed,
      payload suite request = .ok (body, described) ∧
      Signature.sign suite clock
          (contextFor record credential role request.authorization.region) .remote
          (signable clock request credential uri described authority) = .ok signed ∧
      outbound.headers = Http.Fields.ofMap
        ((signable clock request credential uri described authority).sentHeaders
          signed.authorization) ∧
      outbound.method = request.method ∧ outbound.uri = uri ∧ outbound.body = body ∧
      uri.authority = some ⟨authority⟩ := by
  rcases assemble_eq_ok made with
    ⟨authority, body, described, signed, describes, signs, writes, _, others⟩
  rcases tidy_signable describes clock credential uri authority with ⟨tidy, insensitive⟩
  rcases signedFields_eq tidy insensitive writes with ⟨written, _⟩
  exact ⟨authority, body, described, signed, describes, signs, written, others⟩

theorem assemble_eq {suite : Digest.Suite} {clock : Clock} {request : StoreRequest}
    {record : CredentialRecord} {credential : Credential} {role : Option SessionRole} {uri : Uri}
    {authority : Uri.Authority} {body : List UInt8} {described : MultiMap}
    {signed : Signature.Signed} {fields : Http.Fields}
    (hosted : uri.authority = some authority)
    (describes : payload suite request = .ok (body, described))
    (signs : Signature.sign suite clock
          (contextFor record credential role request.authorization.region) .remote
          (signable clock request credential uri described authority.text) = .ok signed)
    (writes : signedFields (signable clock request credential uri described authority.text).headers
          signed.authorization = .ok fields)
    (token : Http.isToken request.method = true) :
    assemble suite clock request record credential role uri =
      .ok ⟨request.method, uri, fields, body, role, request.bucket, request.key⟩ := by
  rw [signable] at signs writes
  unfold assemble
  rw [hosted]
  dsimp only
  rw [describes, Result.bind_eq_ok_iff]
  refine ⟨_, rfl, ?_⟩
  dsimp only
  rw [signs, Result.bind_eq_ok_iff]
  refine ⟨_, rfl, ?_⟩
  rw [writes, Result.bind_eq_ok_iff]
  exact ⟨_, rfl, if_pos token⟩

end Outbound

/-! ## Who has signed -/

/-- The request carries the signature that a credential makes of it. -/
def OutboundRequest.SignedBy (suite : Digest.Suite) (credential : Credential)
    (outbound : OutboundRequest) : Prop :=
  ∃ (signable : Signature.Signable) (day : String),
    signable.method = outbound.method ∧ signable.path = outbound.uri.path ∧
      outbound.headers = Http.Fields.ofMap (signable.sentHeaders
        (Authorization.renderHeader credential.accessKey
          (Authorization.scopeText day signable.region SigningService.s3.name)
          (Canonical.signedHeaders (Signature.namesToSign signable.headers))
          (signable.signatureWith suite credential.secretKey
            ⟨day, signable.region, SigningService.s3.name⟩ signable.query.pairs)))

/-- The request carries the signature that a credential makes of it over a path and
parameters, which need not be those of its URI. -/
def OutboundRequest.SignedOver (suite : Digest.Suite) (credential : Credential) (path : String)
    (parameters : MultiMap) (outbound : OutboundRequest) : Prop :=
  ∃ (signable : Signature.Signable) (day : String),
    signable.method = outbound.method ∧ signable.path = path ∧ signable.query = parameters ∧
      outbound.headers = Http.Fields.ofMap (signable.sentHeaders
        (Authorization.renderHeader credential.accessKey
          (Authorization.scopeText day signable.region SigningService.s3.name)
          (Canonical.signedHeaders (Signature.namesToSign signable.headers))
          (signable.signatureWith suite credential.secretKey
            ⟨day, signable.region, SigningService.s3.name⟩ signable.query.pairs)))

theorem OutboundRequest.SignedOver.signedBy {suite : Digest.Suite} {credential : Credential}
    {parameters : MultiMap} {outbound : OutboundRequest}
    (signed : outbound.SignedOver suite credential outbound.uri.path parameters) :
    outbound.SignedBy suite credential := by
  rcases signed with ⟨signable, day, method, path, _, headers⟩
  exact ⟨signable, day, method, path, headers⟩

namespace Outbound

section Assembled

variable {suite : Digest.Suite} {clock : Clock} {request : StoreRequest}
  {record : CredentialRecord} {credential : Credential} {role : Option SessionRole} {uri : Uri}
  {outbound : OutboundRequest}
  (made : assemble suite clock request record credential role uri = .ok outbound)

include made

theorem uri_of_assemble : outbound.uri = uri := by
  rcases assemble_eq_ok made with ⟨_, _, _, _, _, _, _, _, _, sameUri, _⟩
  exact sameUri

/-- A request for the store is about the bucket and the key that were asked for. -/
theorem object_of_assemble : (outbound.bucket, outbound.key) = (request.bucket, request.key) := by
  unfold assemble at made
  split at made
  · rcases Result.bind_eq_ok_iff.mp made with ⟨⟨body, described⟩, _, made⟩
    rcases Result.bind_eq_ok_iff.mp made with ⟨signed, _, made⟩
    rcases Result.bind_eq_ok_iff.mp made with ⟨fields, _, made⟩
    split_ifs at made with token
    · cases made
      rfl
  · cases made

theorem signedOver_of_assemble :
    outbound.SignedOver suite credential uri.path (parameters request.query) := by
  rcases exists_signable_of_assemble made with
    ⟨authority, body, described, signed, _, signs, written, sameMethod, _⟩
  have selected : (contextFor record credential role request.authorization.region).record.select
      .remote = .ok credential := rfl
  rcases Signature.sign_eq_ok selected signs with ⟨_, day, _, header⟩
  refine ⟨signable clock request credential uri described authority, day, sameMethod.symm, rfl, rfl,
    ?_⟩
  rw [written, header]
  rfl

theorem signedBy_of_assemble : outbound.SignedBy suite credential := by
  have signed := signedOver_of_assemble made
  rw [← uri_of_assemble made] at signed
  exact signed.signedBy

end Assembled

end Outbound
end SignedGateway
