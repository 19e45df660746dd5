import SignedGateway.Proofs.Gateway.Secrecy
import SignedGateway.Proofs.Incoming.Chunked
import SignedGateway.Proofs.Signature.Verifier

namespace SignedGateway

/-!
# Headers that nobody has signed

A client signs the headers that it lists, and anyone on the way may change the others.  What
is signed settles by which method and where a request for the store goes.  It settles the body
too, but for one header that need not be signed: a content coding may announce a body in
chunks, and then the gateway sends the data of the chunks instead of the body.  So requests
that agree on what is signed are compared by what their headers announce.
-/

/-! ## The body that is sent -/

namespace Outbound

/-- The body that is sent for a client's. -/
def bodyOf (request : StoreRequest) : Except Chunked.Fault (List UInt8) :=
  if Chunked.isAnnounced request.headers then Chunked.decode request.body else .ok request.body

theorem bodyOf_of_payload {suite : Digest.Suite} {request : StoreRequest} {body : List UInt8}
    {described : MultiMap} (made : payload suite request = .ok (body, described)) :
    bodyOf request = .ok body := by
  unfold payload at made
  unfold bodyOf
  dsimp only at made
  split_ifs at made ⊢
  · split at made
    · cases made
    · next decoded =>
        cases made
        exact decoded
  · cases made
    rfl
  · cases made
    rfl

theorem length_lt_of_chunks {left right : StoreRequest} (same : left.body = right.body)
    (chunks : Chunked.isAnnounced left.headers = true)
    (whole : Chunked.isAnnounced right.headers = false) {leftBody rightBody : List UInt8}
    (leftSent : bodyOf left = .ok leftBody) (rightSent : bodyOf right = .ok rightBody) :
    leftBody.length < rightBody.length := by
  rw [bodyOf, if_pos chunks] at leftSent
  rw [bodyOf, whole] at rightSent
  cases rightSent
  rw [← same]
  exact Chunked.length_lt_of_decode leftSent

/-- One body is sent as two exactly if it is announced in two ways. -/
theorem bodyOf_eq_iff {left right : StoreRequest} (same : left.body = right.body)
    {leftBody rightBody : List UInt8} (leftSent : bodyOf left = .ok leftBody)
    (rightSent : bodyOf right = .ok rightBody) :
    leftBody = rightBody ↔
      Chunked.isAnnounced left.headers = Chunked.isAnnounced right.headers := by
  constructor
  · intro equal
    subst equal
    cases leftChunks : Chunked.isAnnounced left.headers <;>
      cases rightChunks : Chunked.isAnnounced right.headers
    · rfl
    · have shorter := length_lt_of_chunks same.symm rightChunks leftChunks rightSent leftSent
      exact absurd shorter (Nat.lt_irrefl _)
    · have shorter := length_lt_of_chunks same leftChunks rightChunks leftSent rightSent
      exact absurd shorter (Nat.lt_irrefl _)
    · rfl
  · intro announced
    rw [bodyOf, announced, same] at leftSent
    exact Except.ok.inj (leftSent.symm.trans rightSent)

end Outbound

/-! ## What is signed -/

/-- Two requests that agree on what a signature covers, and on who made it.  Neither the other
headers need agree nor what the requests were read from. -/
structure StoreRequest.AgreeOnSigned (left right : StoreRequest) : Prop where
  method : left.method = right.method
  bucket : left.bucket = right.bucket
  key : left.key = right.key
  query : left.query = right.query
  body : left.body = right.body
  authorization : left.authorization = right.authorization
  headers : ∀ name ∈ left.authorization.signedHeaders,
    left.headers.get name = right.headers.get name

/-- Verified requests that agree on what is signed agree on the protocol headers. -/
theorem StoreRequest.AgreeOnSigned.get_eq {left right : StoreRequest}
    (agree : left.AgreeOnSigned right) {suite : Digest.Suite} {leftClock rightClock : Clock}
    {leftRecord rightRecord : CredentialRecord}
    (leftVerified : Signature.verify suite leftClock leftRecord left = .ok ())
    (rightVerified : Signature.verify suite rightClock rightRecord right = .ok ())
    {name : String} (lower : Text.lower name = name)
    (own : Text.startsWith Signature.protocolHead name = true) :
    left.headers.get name = right.headers.get name := by
  by_cases signed : name ∈ left.authorization.signedHeaders
  · exact agree.headers name signed
  · rw [Signature.get_eq_nil_of_verify leftVerified lower own signed]
    rw [agree.authorization] at signed
    rw [Signature.get_eq_nil_of_verify rightVerified lower own signed]

/-! ## Where a request goes -/

/-- The request without its headers and what it was read from. -/
def StoreRequest.withoutHeaders (request : StoreRequest) : StoreRequest :=
  { request with
    requestId := ""
    date := ""
    headers := MultiMap.empty false
    rawPath := ""
    rawQuery := none }

theorem StoreRequest.AgreeOnSigned.withoutHeaders_eq {left right : StoreRequest}
    (agree : left.AgreeOnSigned right) : left.withoutHeaders = right.withoutHeaders := by
  unfold withoutHeaders
  rw [agree.method, agree.bucket, agree.key, agree.query, agree.body, agree.authorization]

theorem Remapped.applyTo_withoutHeaders (remapped : Remapped) (request : StoreRequest) :
    remapped.applyTo request.withoutHeaders = (remapped.applyTo request).withoutHeaders := by
  unfold applyTo
  dsimp only
  split <;> rfl

namespace MappingSettings

/-- No alias depends on a header. -/
theorem resolve_withoutHeaders (aliases : Option MappingSettings) (request : StoreRequest) :
    resolve aliases request.withoutHeaders = (resolve aliases request).withoutHeaders := by
  have same : aliases.bind (·.remap request.withoutHeaders) = aliases.bind (·.remap request) := by
    cases aliases <;> rfl
  unfold resolve
  rw [same]
  cases aliases.bind (·.remap request) with
  | none => rfl
  | some remapped => exact remapped.applyTo_withoutHeaders request

theorem method_resolve (aliases : Option MappingSettings) (request : StoreRequest) :
    (resolve aliases request).method = request.method := by
  rcases Remapped.exists_getD_applyTo_eq (aliases.bind (·.remap request)) request with
    ⟨bucket, key, query, resolved⟩
  unfold resolve
  rw [resolved]

theorem bodyOf_resolve (aliases : Option MappingSettings) (request : StoreRequest) :
    Outbound.bodyOf (resolve aliases request) = Outbound.bodyOf request := by
  rcases Remapped.exists_getD_applyTo_eq (aliases.bind (·.remap request)) request with
    ⟨bucket, key, query, resolved⟩
  unfold resolve
  rw [resolved]
  rfl

end MappingSettings

/-- Requests that agree on what is signed ask for one place. -/
theorem StoreRequest.AgreeOnSigned.targetOf_eq {left right : StoreRequest}
    (agree : left.AgreeOnSigned right) (aliases : Option MappingSettings) :
    Outbound.targetOf (MappingSettings.resolve aliases left) =
      Outbound.targetOf (MappingSettings.resolve aliases right) := by
  have blind (request : StoreRequest) :
      Outbound.targetOf (MappingSettings.resolve aliases request) =
        Outbound.targetOf (MappingSettings.resolve aliases request.withoutHeaders) := by
    rw [MappingSettings.resolve_withoutHeaders]
    rfl
  rw [blind left, blind right, agree.withoutHeaders_eq]

/-- A rule whose answers are up to nobody. -/
def SteadyRule {Outside : Type} (rule : EndpointRule Outside) : Prop :=
  ∀ target world other, ((rule target).perform world).1 = ((rule target).perform other).1

theorem Addressing.steady_rule {Outside : Type} (addressing : Addressing) :
    SteadyRule (addressing.rule : EndpointRule Outside) := by
  intro target world other
  unfold rule
  rw [Attempt.perform_ofExcept, Attempt.perform_ofExcept]

/-! ## An upload with a header that is not signed -/

/-- Headers that do not tell who has signed are read with the others. -/
theorem Incoming.read_congr {method : String} {uri : Uri} {headers more : MultiMap}
    {body : List UInt8} {ownPath : Option String} {requestId : String} {request : StoreRequest}
    (tidy : headers.Tidy) (insensitive : headers.caseSensitive = false)
    (hosted : headers.contains "host" = true) (moreTidy : more.Tidy)
    (moreInsensitive : more.caseSensitive = false) (moreHosted : more.contains "host" = true)
    (same : ∀ name ∈ authorizingHeaders, more.getFirst? name = headers.getFirst? name)
    (read : read ⟨method, uri, Http.Fields.ofMap headers, body⟩ ownPath requestId = .ok request) :
    Incoming.read ⟨method, uri, Http.Fields.ofMap more, body⟩ ownPath requestId =
      .ok { request with headers := more } := by
  have plain := headersOf_ofMap tidy insensitive hosted method uri body
  have others := headersOf_ofMap moreTidy moreInsensitive moreHosted method uri body
  rcases read_eq_ok_iff.mp read with ⟨routed, authorization, date, below, authorized, rfl⟩
  rw [plain, ← authorize_congr same, ← others] at authorized
  rw [read_eq_ok_iff]
  refine ⟨routed, authorization, date, below, authorized, ?_⟩
  rw [others]
  rfl

namespace Client

/-- A chunk with one byte, and the last chunk. -/
def chunks : List UInt8 :=
  Utf8.bytesOf "1\r\na\r\n0\r\n\r\n"

theorem decode_chunks : Chunked.decode chunks = .ok [97] := by
  have last : Chunked.decode [48, 13, 10, 13, 10] = .ok [] :=
    Chunked.decode_of_end rfl (by decide +kernel)
  have cut : Chunked.cutLine chunks = some ([49], [97, 13, 10, 48, 13, 10, 13, 10]) := by
    decide +kernel
  have size : Chunked.readSize [49] = .ok 1 := by
    decide +kernel
  exact Chunked.decode_of_chunk cut size (by decide) (by decide) rfl last

/-- What the client signs when it uploads an object. -/
def upload : Signature.Signable :=
  { signable "/b/k" "" with method := "PUT" }

def uploadHeaders (suite : Digest.Suite) : MultiMap :=
  upload.sentHeaders
    (match Signature.sign suite clock ⟨.s3, record, some "r"⟩ .emulated upload with
      | .ok signed => signed.authorization
      | .error _ => "")

/-- The upload as it is sent, possibly with other headers. -/
def uploadMessage (headers : MultiMap) : Http.Request :=
  { method := "PUT"
    uri := ⟨none, none, some ⟨"/b/k", none⟩⟩
    headers := Http.Fields.ofMap headers
    body := chunks }

theorem uploadSendable : Signature.Sendable upload :=
  ⟨(sendable "/b/k" "").tidy, rfl, rfl, rfl, ⟨_, rfl⟩⟩

/-- A request that is read from the client's upload, whatever was added to its headers. -/
structure Uploaded (suite : Digest.Suite) (request : StoreRequest) : Prop where
  restates : ∃ day, Signature.Restates upload suite credential ⟨day, "r", "s3"⟩ request
  untold : request.authorization.securityToken = none
  query : request.query = upload.query
  body : request.body = chunks
  bucket : request.bucket = "b"
  key : request.key = "k"

theorem tidy_uploadHeaders (suite : Digest.Suite) : (uploadHeaders suite).Tidy :=
  uploadSendable.tidy_sentHeaders _

theorem exists_uploadHeaders_eq (suite : Digest.Suite) :
    ∃ text, uploadHeaders suite =
      ⟨false, [("host", ["gateway"]), ("x-amz-content-sha256", ["UNSIGNED-PAYLOAD"]),
        ("x-amz-date", [date]), ("authorization", [text])]⟩ :=
  ⟨_, rfl⟩

theorem contains_host_uploadHeaders (suite : Digest.Suite) :
    (uploadHeaders suite).contains "host" = true := by
  rcases exists_uploadHeaders_eq suite with ⟨text, entries⟩
  rw [entries]
  rfl

theorem exists_uploaded (suite : Digest.Suite) :
    ∃ request, Incoming.read (uploadMessage (uploadHeaders suite)) none "id" = .ok request ∧
      request.headers = uploadHeaders suite ∧ Uploaded suite request := by
  have selected : record.select .emulated = .ok credential := rfl
  have names : (Signature.namesToSign upload.headers).Perm signedNames := List.Perm.refl _
  rcases exists_signed suite .s3 selected rfl rfl (isFieldValue_signedNames names) (by decide) with
    ⟨signed, signs, valid⟩
  have made : uploadHeaders suite = upload.sentHeaders signed.authorization := by
    rw [uploadHeaders, signs]
  have path : (uploadMessage (uploadHeaders suite)).uri.path = upload.path := rfl
  rcases exists_read uploadSendable rfl signs valid rfl path chunks "id" with
    ⟨day, request, read, back, query, body, place⟩
  rw [← made] at read
  have headers : request.headers = uploadHeaders suite := by
    rcases Incoming.read_eq_ok_iff.mp read with ⟨_, _, _, _, _, same⟩
    rw [same]
    dsimp only
    exact Incoming.headersOf_ofMap (tidy_uploadHeaders suite) rfl
      (contains_host_uploadHeaders suite) _ _ _
  have untold : request.authorization.securityToken = none := by
    rw [back.authorization]
    rfl
  have object : Route.bucketAndKey upload.path = ("b", "k") := by
    decide +kernel
  rw [path, object, Prod.mk.injEq] at place
  exact ⟨request, read, headers, ⟨day, back.restates uploadSendable⟩, untold, query, body, place.1,
    place.2⟩

namespace Uploaded

variable {suite : Digest.Suite} {request : StoreRequest} (uploaded : Uploaded suite request)

include uploaded

theorem declared : request.headers.getFirst? Signature.payloadHeader = some "UNSIGNED-PAYLOAD" := by
  rcases uploaded.restates with ⟨day, restated⟩
  rw [restated.headers.getFirst?_payloadHeader]
  rfl

/-- The gateway lets an upload through, if its body and what describes it are known. -/
theorem exists_outbound {body : List UInt8} {described : MultiMap}
    (writable : Writable (Outbound.addressed described "s3.r.amazonaws.com" date none))
    (describes : Outbound.payload suite request = .ok (body, described)) :
    ∃ outbound after, ((pipeline suite).process request).perform world = (.ok outbound, after) ∧
      outbound.body = body := by
  rcases uploaded.restates with ⟨day, restated⟩
  have matching : Signature.verifyPayload suite request.headers request.body = .ok () := by
    rw [Signature.verifyPayload, uploaded.declared]
    rfl
  have token : Http.isToken upload.method = true := by
    decide
  have target : Outbound.targetOf request = ⟨"k", "b", "r", none⟩ := by
    rcases restated.authorization with ⟨_, authorized⟩
    rw [Outbound.targetOf, uploaded.bucket, uploaded.key, uploaded.query, authorized]
    rfl
  have placed : Addressing.standard.endpoint (Outbound.targetOf request) = _ :=
    target ▸ endpoint_eq (fun _ none => (Option.not_mem_none _ none).elim) (by decide +kernel)
  rcases exists_outbound_of_restated uploadSendable rfl restated uploaded.untold uploaded.query
    matching token placed writable describes with ⟨outbound, after, made, done⟩
  rcases Outbound.assemble_eq_ok made with ⟨_, _, _, _, sent, _, _, _, _, _, carries, _⟩
  rw [describes] at sent
  cases sent
  exact ⟨outbound, after, done, carries⟩

/-- Headers may be added as long as the verifier finds what was signed. -/
theorem withHeaders {more : MultiMap} (shows : Signature.Shows more upload.headers) :
    Uploaded suite { request with headers := more } := by
  rcases uploaded.restates with ⟨day, restated⟩
  have digest : more.getFirst? Signature.payloadHeader = some "UNSIGNED-PAYLOAD" :=
    shows.getFirst?_payloadHeader
  refine ⟨⟨day, restated.method, restated.uri, restated.date, shows, ?_, restated.authorization⟩,
    uploaded.untold, uploaded.query, uploaded.body, uploaded.bucket, uploaded.key⟩
  dsimp only
  rw [digest]
  rfl

section Put

variable {name : String} (lower : Text.lower name = name)
  (unsigned : name ∉ Signature.namesToSign upload.headers)
  (foreign : Text.startsWith Signature.protocolHead name = false) (value : String)

include lower unsigned foreign

/-- Another header that nobody has signed may be added. -/
theorem put : Uploaded suite { request with headers := request.headers.put name value } := by
  rcases uploaded.restates with ⟨day, restated⟩
  exact uploaded.withHeaders
    (restated.headers.put uploadSendable.tidy rfl lower unsigned foreign value)

theorem agreeOnSigned :
    request.AgreeOnSigned { request with headers := request.headers.put name value } := by
  rcases uploaded.restates with ⟨day, restated⟩
  have shows := restated.headers.put uploadSendable.tidy rfl lower unsigned foreign value
  refine ⟨rfl, rfl, rfl, rfl, rfl, rfl, ?_⟩
  intro other listed
  rcases restated.authorization with ⟨_, authorized⟩
  rw [authorized] at listed
  have signed : other ∈ Signature.namesToSign upload.headers := Text.mem_sort.mp listed
  exact (restated.headers.values other signed).trans (shows.values other signed).symm

end Put

end Uploaded

/-- The client's upload is read with another header that nobody has signed, and the requests
agree on what is signed. -/
theorem exists_uploads (suite : Digest.Suite) {name : String} (lower : Text.lower name = name)
    (unsigned : name ∉ Signature.namesToSign upload.headers)
    (foreign : Text.startsWith Signature.protocolHead name = false)
    (other : Text.lower name ∉ Incoming.authorizingHeaders) (value : String) :
    ∃ plain more, Incoming.read (uploadMessage (uploadHeaders suite)) none "id" = .ok plain ∧
      Incoming.read (uploadMessage ((uploadHeaders suite).put name value)) none "id" = .ok more ∧
      Uploaded suite plain ∧ Uploaded suite more ∧ plain.AgreeOnSigned more ∧
      plain.headers = uploadHeaders suite ∧
      more = { plain with headers := (uploadHeaders suite).put name value } := by
  rcases exists_uploaded suite with ⟨plain, read, headers, uploaded⟩
  have more := uploaded.put lower unsigned foreign value
  have agree := uploaded.agreeOnSigned lower unsigned foreign value
  rw [headers] at more agree
  have readMore : Incoming.read (uploadMessage ((uploadHeaders suite).put name value)) none "id" =
      .ok { plain with headers := (uploadHeaders suite).put name value } :=
    Incoming.read_congr (tidy_uploadHeaders suite) rfl (contains_host_uploadHeaders suite)
      ((tidy_uploadHeaders suite).put name value) rfl
      (MultiMap.contains_put (contains_host_uploadHeaders suite) name value)
      (Incoming.getFirst?_put_of_authorizing rfl other value) read
  exact ⟨plain, _, read, readMore, uploaded, more, agree, headers, rfl⟩

/-- A connection from the client's record has no address rule of its own. -/
theorem steady (suite : Digest.Suite) (record : CredentialRecord) (connection : Connection Unit)
    (found : ConnectionSource.ofRecord.find? record = some connection) :
    SteadyRule (connection.endpoint.getD (pipeline suite).endpoint) := by
  rcases Option.map_eq_some_iff.mp found with ⟨credential, _, rfl⟩
  dsimp only [pipeline, Pipeline.standard, Option.getD_none]
  exact Addressing.steady_rule Addressing.standard

section Payload

variable {suite : Digest.Suite} {request : StoreRequest} (body : request.body = chunks)

include body

theorem payload_of_upload (headers : request.headers = uploadHeaders suite) :
    Outbound.payload suite request =
      .ok (chunks, ⟨false, [("x-amz-content-sha256", ["UNSIGNED-PAYLOAD"])]⟩) := by
  rcases exists_uploadHeaders_eq suite with ⟨text, entries⟩
  rw [Outbound.payload, headers, body, entries]
  rfl

theorem payload_of_closing
    (headers : request.headers = (uploadHeaders suite).put "connection" "close") :
    Outbound.payload suite request =
      .ok (chunks, ⟨false, [("x-amz-content-sha256", ["UNSIGNED-PAYLOAD"])]⟩) := by
  rcases exists_uploadHeaders_eq suite with ⟨text, entries⟩
  rw [Outbound.payload, headers, body, entries]
  rfl

/-- Chunks are sent as a whole, with what is left of the codings. -/
theorem payload_of_lines {lines : List String} {codings : Option String}
    (announced : Chunked.isAnnounced request.headers = true)
    (kept : Outbound.keptHeaders request.headers =
      ⟨false, [("x-amz-content-sha256", ["UNSIGNED-PAYLOAD"]), ("content-encoding", lines)]⟩)
    (left : Outbound.remainingCodings request.headers = codings) :
    Outbound.payload suite request =
      .ok ([97], ⟨false, ("x-amz-content-sha256", [Signature.payloadHash suite [97]]) ::
        (codings.map fun text => ("content-encoding", [text])).toList⟩) := by
  rw [Outbound.payload, if_pos announced, body, decode_chunks, kept]
  dsimp only
  rw [Outbound.wholeBodyHeaders, left]
  cases codings <;> rfl

theorem payload_of_coded
    (headers : request.headers = (uploadHeaders suite).put "content-encoding" "aws-chunked") :
    Outbound.payload suite request =
      .ok ([97], ⟨false, [("x-amz-content-sha256", [Signature.payloadHash suite [97]])]⟩) := by
  rcases exists_uploadHeaders_eq suite with ⟨text, entries⟩
  have put : request.headers = ⟨false, [("host", ["gateway"]),
      ("x-amz-content-sha256", ["UNSIGNED-PAYLOAD"]), ("x-amz-date", [date]),
      ("authorization", [text]), ("content-encoding", ["aws-chunked"])]⟩ := by
    rw [headers, entries]
    rfl
  have announced : Chunked.isAnnounced request.headers = true := by
    rw [put]
    rfl
  have kept : Outbound.keptHeaders request.headers = ⟨false,
      [("x-amz-content-sha256", ["UNSIGNED-PAYLOAD"]), ("content-encoding", ["aws-chunked"])]⟩ := by
    rw [put]
    rfl
  have codings : Outbound.remainingCodings request.headers = none := by
    have none : Chunked.otherCodings "aws-chunked" = none := by
      decide +kernel
    rw [put]
    exact none
  exact payload_of_lines body announced kept codings

end Payload

end Client

namespace Pipeline

variable {Outside : Type}

/-- Whatever is made goes by the method of the request to the place of what was resolved, and
has the body of the request or the data of its chunks. -/
theorem BuiltIn.exists_place_of_route {pipeline : Pipeline Outside}
    {aliases : Option MappingSettings} {source : ConnectionSource Outside}
    (builtIn : pipeline.BuiltIn aliases source) {request : StoreRequest} {context : SigningContext}
    {world after : World Outside} {outbound : OutboundRequest}
    (routed : (pipeline.route request context).perform world = (.ok outbound, after)) :
    outbound.method = request.method ∧ Outbound.bodyOf request = .ok outbound.body ∧
      ∃ connection, source.find? context.record = some connection ∧
        ∃ before between, ((connection.endpoint.getD pipeline.endpoint)
          (Outbound.targetOf (MappingSettings.resolve aliases request))).perform before =
            (.ok outbound.uri, between) := by
  rcases builtIn.exists_assemble_of_route routed with
    ⟨connection, found, _, uri, before, between, placed, made⟩
  rcases Outbound.assemble_eq_ok made with
    ⟨_, body, _, _, describes, _, _, _, sameMethod, sameUri, sameBody, _⟩
  have sent := Outbound.bodyOf_of_payload describes
  rw [MappingSettings.bodyOf_resolve] at sent
  rw [MappingSettings.method_resolve] at sameMethod
  refine ⟨sameMethod, ?_, connection, found, before, between, ?_⟩
  · rw [sent, sameBody]
  · rw [placed, sameUri]

/-- Take two requests that agree on what is signed, in whichever way, from a caller for whom one
record is found.  If both are let through, they are sent by one method to one place.  They are
sent with one body exactly if both announce chunks or neither does, and all that an unsigned
header can do to that is to bring or to take a content coding for chunks. -/
theorem unsigned_headers_confined {pipeline : Pipeline Outside} {aliases : Option MappingSettings}
    {source : ConnectionSource Outside} (builtIn : pipeline.BuiltIn aliases source)
    (steady : ∀ record connection, source.find? record = some connection →
      SteadyRule (connection.endpoint.getD pipeline.endpoint))
    {left right : StoreRequest} (agree : left.AgreeOnSigned right)
    {leftWorld leftAfter rightWorld rightAfter : World Outside}
    (sameCaller : ((pipeline.credentials.lookup left.authorization.accessKey
        left.authorization.securityToken).perform leftWorld).1 =
      ((pipeline.credentials.lookup left.authorization.accessKey
        left.authorization.securityToken).perform rightWorld).1)
    {leftOutbound rightOutbound : OutboundRequest}
    (leftDone : (pipeline.process left).perform leftWorld = (.ok leftOutbound, leftAfter))
    (rightDone : (pipeline.process right).perform rightWorld = (.ok rightOutbound, rightAfter)) :
    leftOutbound.method = rightOutbound.method ∧ leftOutbound.uri = rightOutbound.uri ∧
      (leftOutbound.body = rightOutbound.body ↔
        Chunked.isAnnounced left.headers = Chunked.isAnnounced right.headers) ∧
      (Chunked.isCoded left.headers = Chunked.isCoded right.headers →
        leftOutbound.body = rightOutbound.body) := by
  rcases exists_found_of_process leftDone with
    ⟨record, _, leftFound, leftVerified, leftRouted⟩
  rcases exists_found_of_process rightDone with
    ⟨rightRecord, _, rightFound, rightVerified, rightRouted⟩
  have sameRecord : record = rightRecord := by
    rw [← agree.authorization] at rightFound
    rw [leftFound, rightFound] at sameCaller
    exact Option.some.inj (Except.ok.inj sameCaller)
  subst sameRecord
  rcases builtIn.exists_place_of_route leftRouted with
    ⟨leftMethod, leftBody, connection, found, leftBefore, _, leftPlaced⟩
  rcases builtIn.exists_place_of_route rightRouted with
    ⟨rightMethod, rightBody, _, sameFound, rightBefore, _, rightPlaced⟩
  cases found.symm.trans sameFound
  have sameBody := Outbound.bodyOf_eq_iff agree.body leftBody rightBody
  refine ⟨?_, ?_, sameBody, fun coded => ?_⟩
  · rw [leftMethod, rightMethod, agree.method]
  · have same := steady record connection found
      (Outbound.targetOf (MappingSettings.resolve aliases right)) leftBefore rightBefore
    rw [agree.targetOf_eq aliases] at leftPlaced
    rw [leftPlaced, rightPlaced] at same
    exact Except.ok.inj same
  · -- The digest is a header of the protocol, so nobody can add one that is not signed.
    have lower : Text.lower Signature.payloadHeader = Signature.payloadHeader := by
      decide
    have digest := agree.get_eq leftVerified rightVerified lower (by decide)
    exact sameBody.mpr (Chunked.isAnnounced_congr coded digest)

/-- The client's upload is sent as it is, also if the next hop has added a header. -/
theorem unsigned_headers_of_upload :
    ∃ plain closing plainOutbound closingOutbound plainAfter closingAfter,
      Incoming.read (Client.uploadMessage (Client.uploadHeaders .sha256)) none "id" = .ok plain ∧
      Incoming.read (Client.uploadMessage ((Client.uploadHeaders .sha256).put "connection" "close"))
        none "id" = .ok closing ∧
      ((Client.pipeline .sha256).process plain).perform Client.world =
        (.ok plainOutbound, plainAfter) ∧
      ((Client.pipeline .sha256).process closing).perform Client.world =
        (.ok closingOutbound, closingAfter) ∧
      plainOutbound.method = closingOutbound.method ∧ plainOutbound.uri = closingOutbound.uri ∧
      plainOutbound.body = closingOutbound.body := by
  have unsigned : "connection" ∉ Signature.namesToSign Client.upload.headers := by
    decide
  have other : Text.lower "connection" ∉ Incoming.authorizingHeaders := by
    decide
  rcases Client.exists_uploads .sha256 (by decide) unsigned (by decide) other "close" with
    ⟨plain, closing, read, readClosing, uploaded, uploadedClosing, agree, headers, rfl⟩
  rcases uploaded.exists_outbound (Client.writable_digest (by decide))
    (Client.payload_of_upload uploaded.body headers) with
    ⟨plainOutbound, plainAfter, done, _⟩
  rcases uploadedClosing.exists_outbound (Client.writable_digest (by decide))
    (Client.payload_of_closing uploadedClosing.body rfl) with
      ⟨closingOutbound, closingAfter, doneClosing, _⟩
  have builtIn : (Client.pipeline .sha256).BuiltIn none .ofRecord := ⟨rfl, rfl, rfl⟩
  have confined := unsigned_headers_confined builtIn (Client.steady .sha256) agree rfl done
    doneClosing
  have uncoded : Chunked.isCoded plain.headers = Chunked.isCoded
      ((Client.uploadHeaders .sha256).put "connection" "close") := by
    rw [headers]
    rfl
  exact ⟨plain, _, plainOutbound, closingOutbound, plainAfter, closingAfter, read, readClosing, done,
    doneClosing, confined.1, confined.2.1, confined.2.2.2 uncoded⟩

/-- A content coding that nobody has signed makes another body of the client's upload. -/
theorem unsigned_coding_changes_body :
    ∃ plain coded plainOutbound codedOutbound plainAfter codedAfter,
      Incoming.read (Client.uploadMessage (Client.uploadHeaders .sha256)) none "id" = .ok plain ∧
      Incoming.read (Client.uploadMessage
        ((Client.uploadHeaders .sha256).put "content-encoding" "aws-chunked")) none "id" =
          .ok coded ∧
      coded = { plain with headers := plain.headers.put "content-encoding" "aws-chunked" } ∧
      "content-encoding" ∉ plain.authorization.signedHeaders ∧
      plain.authorization.expires = none ∧ plain.AgreeOnSigned coded ∧
      (Client.pipeline .sha256).BuiltIn none .ofRecord ∧
      ((Client.pipeline .sha256).process plain).perform Client.world =
        (.ok plainOutbound, plainAfter) ∧
      ((Client.pipeline .sha256).process coded).perform Client.world =
        (.ok codedOutbound, codedAfter) ∧
      plainOutbound.body = Client.chunks ∧ codedOutbound.body = [97] ∧
      plainOutbound.body ≠ codedOutbound.body := by
  have unsigned : "content-encoding" ∉ Signature.namesToSign Client.upload.headers := by
    decide
  have other : Text.lower "content-encoding" ∉ Incoming.authorizingHeaders := by
    decide
  rcases Client.exists_uploads .sha256 (by decide) unsigned (by decide) other "aws-chunked" with
    ⟨plain, coded, read, readCoded, uploaded, uploadedCoded, agree, headers, rfl⟩
  rcases uploaded.exists_outbound (Client.writable_digest (by decide))
    (Client.payload_of_upload uploaded.body headers) with
    ⟨plainOutbound, plainAfter, done, whole⟩
  rcases uploadedCoded.exists_outbound
    (Client.writable_digest (Signature.isFieldValue_hexOfBytes _))
    (Client.payload_of_coded uploadedCoded.body rfl) with
      ⟨codedOutbound, codedAfter, doneCoded, decoded⟩
  rcases uploaded.restates with ⟨day, restated⟩
  rcases restated.authorization with ⟨token, authorized⟩
  have unlisted : "content-encoding" ∉ plain.authorization.signedHeaders := by
    rw [authorized]
    exact fun listed => unsigned (Text.mem_sort.mp listed)
  have unlimited : plain.authorization.expires = none := by
    rw [authorized]
    rfl
  have different : plainOutbound.body ≠ codedOutbound.body := by
    rw [whole, decoded]
    decide +kernel
  refine ⟨plain, _, plainOutbound, codedOutbound, plainAfter, codedAfter, read, readCoded, ?_,
    unlisted, unlimited, agree, ⟨rfl, rfl, rfl⟩, done, doneCoded, whole, decoded, different⟩
  rw [headers]

end Pipeline

end SignedGateway
