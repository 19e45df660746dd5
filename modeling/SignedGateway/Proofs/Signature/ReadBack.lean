import SignedGateway.Proofs.Http.Fields
import SignedGateway.Proofs.Http.Message
import SignedGateway.Proofs.Incoming.Request
import SignedGateway.Proofs.Signature.Coverage
import SignedGateway.Proofs.Signature.Framing
import SignedGateway.Proofs.Signature.Header
import SignedGateway.Proofs.Signature.Signer
import SignedGateway.Proofs.Text.Order
import SignedGateway.Signature.Verifier

namespace SignedGateway
namespace Signature

/-!
# A signed request is read back

The message that carries a signed request is read as a request that names the same
credential, scope, names and signature, and the values under these names are the
ones that were signed.  Only the parameters may come out otherwise, because they
travel in the URI.  The signature is verified exactly if it is also the one for the
parameters that were read.
-/

/-! ## The list of names -/

section Names

variable {names : List String} (tokens : ∀ name ∈ names, Http.isToken name = true)

include tokens

theorem mem_signedHeaders {c : Char} (member : c ∈ (Canonical.signedHeaders names).toList) :
    c = ';' ∨ Http.isTokenChar c = true := by
  rcases Text.mem_joinWith member with inMark | ⟨name, isName, inName⟩
  · exact Or.inl (List.mem_singleton.mp inMark)
  · exact Or.inr (Http.isTokenChar_of_isToken (tokens name (Text.mem_sort.mp isName)) inName)

theorem comma_not_mem_signedHeaders : ',' ∉ (Canonical.signedHeaders names).toList := by
  intro member
  rcases mem_signedHeaders tokens member with isMark | token
  · revert isMark
    decide
  · revert token
    decide

theorem isBlank_of_mem_signedHeaders :
    ∀ c ∈ (Canonical.signedHeaders names).toList, Text.isBlank c = false := by
  intro c member
  rcases mem_signedHeaders tokens member with rfl | token
  · decide
  · exact Http.isBlank_of_isTokenChar token

/-- The names are read in the order in which they were written. -/
theorem parseSignedHeaders_signedHeaders (nonempty : names ≠ [])
    (lowers : ∀ name ∈ names, Text.lower name = name) :
    Authorization.parseSignedHeaders (Canonical.signedHeaders names) = Text.sort names := by
  have filled : Text.sort names ≠ [] := by
    intro empty
    have none := Text.sort_perm names
    rw [empty] at none
    exact nonempty none.nil_eq.symm
  have cut : Text.splitOn ';' (Canonical.signedHeaders names) = Text.sort names := by
    apply Text.splitOn_joinWith Text.toList_semicolon filled
    intro name member
    exact Http.not_mem_of_isToken (by decide) (tokens name (Text.mem_sort.mp member))
  have kept : (Text.sort names).filter (· != "") = Text.sort names := by
    rw [List.filter_eq_self]
    intro name member
    exact bne_iff_ne.mpr (Http.ne_empty_of_isToken (tokens name (Text.mem_sort.mp member)))
  rw [Authorization.parseSignedHeaders, cut, kept]
  calc
    (Text.sort names).map Text.lower = (Text.sort names).map id :=
      List.map_congr_left fun name member => lowers name (Text.mem_sort.mp member)
    _ = Text.sort names := List.map_id _

end Names

/-! ## What is sent -/

/-- A request that its message can say again: it has a host, a date and the digest of
its body among its headers. -/
structure Sendable (request : Signable) : Prop where
  tidy : request.headers.Tidy
  insensitive : request.headers.caseSensitive = false
  hosted : request.headers.contains "host" = true
  dated : request.headers.getFirst? "x-amz-date" = some request.date
  declared : ∃ hash, request.headers.getFirst? payloadHeader = some hash

/-- The headers of the message that carries a signature. -/
def Signable.sentHeaders (request : Signable) (header : String) : MultiMap :=
  request.headers.put "authorization" header

namespace Sendable

variable {request : Signable} (sendable : Sendable request) (header : String)

include sendable

theorem tidy_sentHeaders : (request.sentHeaders header).Tidy :=
  sendable.tidy.put "authorization" header

theorem insensitive_sentHeaders : (request.sentHeaders header).caseSensitive = false :=
  sendable.insensitive

theorem find?_sentHeaders {name : String} (other : Text.lower name ≠ "authorization") :
    (request.sentHeaders header).find? name = request.headers.find? name := by
  apply MultiMap.find?_put_of_ne
  rw [sendable.insensitive]
  exact other

theorem getFirst?_sentHeaders {name : String} (other : Text.lower name ≠ "authorization") :
    (request.sentHeaders header).getFirst? name = request.headers.getFirst? name := by
  rw [MultiMap.getFirst?, MultiMap.get, sendable.find?_sentHeaders header other]
  rfl

/-- The message shows what was signed, since only its authorization is new. -/
theorem shows : Shows (request.sentHeaders header) request.headers := by
  have unsigned : "authorization" ∉ namesToSign request.headers :=
    fun signed => (mem_namesToSign.mp signed).2 List.mem_cons_self
  exact (Shows.refl request.headers).put sendable.tidy sendable.insensitive (by decide) unsigned
    (by decide) header

end Sendable

/-! ## Verifying -/

/-- A request that was read says what was signed, whatever its parameters are. -/
structure ReadBack (request : Signable) (suite : Digest.Suite) (credential : Credential)
    (scope : KeyScope) (again : StoreRequest) : Prop where
  method : again.method = request.method
  rawPath : again.rawPath = request.path
  date : again.date = request.date
  headers : ∃ header, again.headers = request.sentHeaders header
  authorization : again.authorization = request.authorization suite credential scope

section Verify

variable {request : Signable} {suite : Digest.Suite} {clock : Clock} {credential : Credential}
  {scope : KeyScope} {again : StoreRequest} {record : CredentialRecord}

namespace ReadBack

variable (back : ReadBack request suite credential scope again) (sendable : Sendable request)

include back sendable

theorem restates : Restates request suite credential scope again := by
  rcases back.headers with ⟨header, sent⟩
  rcases sendable.declared with ⟨hash, declared⟩
  refine ⟨back.method, congrArg Canonical.uri back.rawPath, back.date, ?_, ?_, _, back.authorization⟩
  · rw [sent]
    exact sendable.shows header
  · rw [sent, (sendable.shows header).getFirst?_payloadHeader, declared]
    rfl

/-- What was read is verified exactly if its parameters have the signature of those that
were signed. -/
theorem verify_iff (checked : clock.checkDrift request.date = .ok ())
    (emulated : record.emulated = credential) :
    verify suite clock record again = .ok () ↔
      request.signatureWith suite credential.secretKey scope request.query.pairs =
        request.signatureWith suite credential.secretKey scope again.query.pairs :=
  (back.restates sendable).verify_iff sendable.tidy sendable.insensitive sendable.hosted checked
    emulated

end ReadBack

end Verify

/-! ## Reading -/

theorem slash_comma_not_mem_serviceName (service : SigningService) :
    '/' ∉ service.name.toList ∧ ',' ∉ service.name.toList := by
  cases service <;> decide

/-- A signature is written in digits. -/
theorem comma_not_mem_ofCanonical (suite : Digest.Suite) (secret timestamp : String)
    (scope : KeyScope) (text : String) :
    ',' ∉ (ofCanonical suite secret timestamp scope text).toList := by
  have digits : ∀ value, value < 16 → Text.hexDigitLower value ≠ ',' := by
    decide
  have others : ∀ c ∈ (ofCanonical suite secret timestamp scope text).toList, c ≠ ',' :=
    Text.forall_mem_hexOfBytes digits
  intro member
  exact others ',' member rfl

theorem isBlank_of_mem_ofCanonical (suite : Digest.Suite) (secret timestamp : String)
    (scope : KeyScope) (text : String) :
    ∀ c ∈ (ofCanonical suite secret timestamp scope text).toList, Text.isBlank c = false := by
  have digits : ∀ value, value < 16 → Text.isBlank (Text.hexDigitLower value) = false := by
    decide
  exact Text.forall_mem_hexOfBytes digits

/-- Digests and signatures may stand in a header. -/
theorem isFieldValue_hexOfBytes (bytes : List UInt8) :
    Http.isFieldValue (Utf8.bytesOf (Text.hexOfBytes bytes)) = true := by
  have digits : ∀ value, value < 16 →
      (String.utf8EncodeChar (Text.hexDigitLower value)).all Http.isFieldByte = true := by
    decide
  have valid : ∀ c ∈ (Text.hexOfBytes bytes).toList,
      (String.utf8EncodeChar c).all Http.isFieldByte = true :=
    Text.forall_mem_hexOfBytes digits
  rw [Http.isFieldValue, Utf8.bytesOf, List.all_eq_true]
  intro byte member
  rcases List.mem_flatMap.mp member with ⟨c, isChar, inChar⟩
  exact List.all_eq_true.mp (valid c isChar) byte inChar

theorem isFieldValue_ofCanonical (suite : Digest.Suite) (secret timestamp : String)
    (scope : KeyScope) (text : String) :
    Http.isFieldValue (Utf8.bytesOf (ofCanonical suite secret timestamp scope text)) = true :=
  isFieldValue_hexOfBytes _

/-- A header is sent if the access key, the scope and the names may stand in one. -/
theorem isFieldValue_renderHeader {accessKey scopeText names : String}
    (validKey : Http.isFieldValue (Utf8.bytesOf accessKey) = true)
    (validScope : Http.isFieldValue (Utf8.bytesOf scopeText) = true)
    (validNames : Http.isFieldValue (Utf8.bytesOf names) = true) (suite : Digest.Suite)
    (secret timestamp : String) (scope : KeyScope) (text : String) :
    Http.isFieldValue (Utf8.bytesOf (Authorization.renderHeader accessKey scopeText names
      (ofCanonical suite secret timestamp scope text))) = true := by
  have marks : Http.isFieldValue (Utf8.bytesOf Authorization.algorithm) = true ∧
      Http.isFieldValue (Utf8.bytesOf " Credential=") = true ∧
      Http.isFieldValue (Utf8.bytesOf "/") = true ∧
      Http.isFieldValue (Utf8.bytesOf ", SignedHeaders=") = true ∧
      Http.isFieldValue (Utf8.bytesOf ", Signature=") = true := by
    decide +kernel
  rcases marks with ⟨algorithm, credentialMark, slash, namesMark, signatureMark⟩
  rw [Authorization.renderHeader]
  simp only [Http.isFieldValue_append, algorithm, credentialMark, slash, namesMark, signatureMark,
    validKey, validScope, validNames, isFieldValue_ofCanonical, Bool.and_self]

section Reading

variable {suite : Digest.Suite} {clock : Clock} {context : SigningContext} {selector : Selector}
  {credential : Credential} {request : Signable} {signed : Signed} {fields : Http.Fields}

theorem Sendable.isToken_of_signed (sendable : Sendable request)
    (names : ∀ pair ∈ request.headers.pairs, Http.isFieldName pair.1 = true) :
    ∀ name ∈ namesToSign request.headers, Http.isToken name = true := by
  intro name signed
  rcases sendable.tidy.exists_mem_pairs (mem_namesToSign.mp signed).1 with ⟨value, listed⟩
  have valid := names _ listed
  rw [Http.isFieldName, Bool.and_eq_true] at valid
  exact valid.1

/-- The header that was made is read as what it says, whichever token comes with it. -/
theorem parseHeader_of_sign (tidy : request.headers.Tidy)
    (insensitive : request.headers.caseSensitive = false)
    (hosted : request.headers.contains "host" = true)
    (tokens : ∀ name ∈ namesToSign request.headers, Http.isToken name = true)
    (nonempty : credential.accessKey ≠ "")
    (keyFree : '/' ∉ credential.accessKey.toList ∧ ',' ∉ credential.accessKey.toList)
    (regionFree : '/' ∉ request.region.toList ∧ ',' ∉ request.region.toList)
    (selected : context.record.select selector = .ok credential)
    (made : sign suite clock context selector request = .ok signed) (token : Option String) :
    ∃ day, scopeDate request.date = .ok day ∧
      Authorization.parseHeader signed.authorization token =
        .ok { request.authorization suite credential ⟨day, request.region, context.service.name⟩ with
          securityToken := token } := by
  rcases sign_eq_ok selected made with ⟨checked, day, begun, header⟩
  have dayFree : '/' ∉ day.toList ∧ ',' ∉ day.toList :=
    ⟨not_mem_scopeDate checked begun (by decide), not_mem_scopeDate checked begun (by decide)⟩
  have filled : namesToSign request.headers ≠ [] :=
    List.ne_nil_of_mem (host_mem_namesToSign insensitive hosted)
  have parsed := Authorization.parseHeader_renderHeader token nonempty keyFree dayFree regionFree
    (slash_comma_not_mem_serviceName context.service)
    (comma_not_mem_signedHeaders tokens) (isBlank_of_mem_signedHeaders tokens)
    (comma_not_mem_ofCanonical suite credential.secretKey request.date
      ⟨day, request.region, context.service.name⟩ (request.textWith request.query.pairs))
    (isBlank_of_mem_ofCanonical suite credential.secretKey request.date
      ⟨day, request.region, context.service.name⟩ (request.textWith request.query.pairs))
  rw [parseSignedHeaders_signedHeaders tokens filled fun _ => lower_of_signed tidy insensitive]
    at parsed
  rw [Signable.signatureWith] at header
  rw [← header] at parsed
  exact ⟨day, begun, parsed⟩

/-- The message that carries the header is authorized by what the header says. -/
theorem Sendable.authorize_eq (sendable : Sendable request) (query : MultiMap)
    (tokens : ∀ name ∈ namesToSign request.headers, Http.isToken name = true)
    (nonempty : credential.accessKey ≠ "")
    (keyFree : '/' ∉ credential.accessKey.toList ∧ ',' ∉ credential.accessKey.toList)
    (regionFree : '/' ∉ request.region.toList ∧ ',' ∉ request.region.toList)
    (selected : context.record.select selector = .ok credential)
    (made : sign suite clock context selector request = .ok signed) :
    ∃ day, Incoming.authorize (request.sentHeaders signed.authorization) query =
      .ok (request.authorization suite credential ⟨day, request.region, context.service.name⟩,
        request.date) := by
  have first : (request.sentHeaders signed.authorization).getFirst? "authorization" =
      some signed.authorization :=
    MultiMap.getFirst?_put_self request.headers "authorization" signed.authorization
  have dated : (request.sentHeaders signed.authorization).getFirst? "x-amz-date" =
      some request.date := by
    rw [sendable.getFirst?_sentHeaders _ (by decide), sendable.dated]
  rcases parseHeader_of_sign sendable.tidy sendable.insensitive sendable.hosted tokens nonempty
    keyFree regionFree selected made (request.headers.getFirst? "x-amz-security-token") with
      ⟨day, _, parsed⟩
  refine ⟨day, ?_⟩
  rw [Incoming.authorize, first]
  dsimp only
  rw [dated, sendable.getFirst?_sentHeaders _ (by decide), parsed]
  rfl

/-- The message of a signed request is read as a request that says what was signed, with
the parameters of the URI. -/
theorem Sendable.exists_readBack (sendable : Sendable request)
    (nonempty : credential.accessKey ≠ "")
    (keyFree : '/' ∉ credential.accessKey.toList ∧ ',' ∉ credential.accessKey.toList)
    (regionFree : '/' ∉ request.region.toList ∧ ',' ∉ request.region.toList)
    (selected : context.record.select selector = .ok credential)
    (made : sign suite clock context selector request = .ok signed)
    (written : Outbound.signedFields request.headers signed.authorization = .ok fields)
    {uri : Uri} (path : uri.path = request.path) (body : List UInt8) (requestId : String) :
    ∃ day again,
      Incoming.read ⟨request.method, uri, fields, body⟩ none requestId = .ok again ∧
        ReadBack request suite credential ⟨day, request.region, context.service.name⟩ again ∧
        again.query = Uri.Query.parse (uri.query.getD "") ∧ again.body = body ∧
        (again.bucket, again.key) = Route.bucketAndKey uri.path := by
  rcases Outbound.signedFields_eq sendable.tidy sendable.insensitive written with ⟨rfl, names⟩
  have tokens := sendable.isToken_of_signed names
  have hosted : (request.sentHeaders signed.authorization).contains "host" = true := by
    rw [MultiMap.contains, sendable.find?_sentHeaders _ (by decide)]
    exact sendable.hosted
  have headers := Incoming.headersOf_ofMap (sendable.tidy_sentHeaders signed.authorization)
    (sendable.insensitive_sentHeaders signed.authorization) hosted request.method uri body
  rcases sendable.authorize_eq (Uri.Query.parse (uri.query.getD "")) tokens
    nonempty keyFree regionFree selected made with ⟨day, authorized⟩
  rw [← headers] at authorized
  exact ⟨day, _,
    Incoming.read_eq_ok_iff.mpr ⟨uri.path, _, _, rfl, authorized, rfl⟩,
    ⟨rfl, path, rfl, ⟨signed.authorization, headers⟩, rfl⟩, rfl, rfl, rfl⟩

end Reading

end Signature
end SignedGateway
