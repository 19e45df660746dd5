import SignedGateway.Proofs.Gateway.Outbound
import SignedGateway.Proofs.Gateway.Standard
import SignedGateway.Proofs.Store.PathStyle

namespace SignedGateway
namespace Client

/-!
# A client of a standard gateway

A client asks for a path with a query, mostly for the access rules of an object.  It
signs by the rules by which the gateway signs, so what it asks for is read and let
through, whatever the hash functions are.
-/

/-! ## The client and the gateway -/

def credential : Credential := ⟨"client", "shown", none⟩

def storeCredential : Credential := ⟨"store", "hidden", none⟩

def record : CredentialRecord := ⟨credential, some storeCredential, none, none⟩

def directory : Directory := Directory.ofRecords [record]

def clock : Clock := ⟨⟨19723, 0, 0⟩, 900⟩

/-- The time of the clock, as a stamp. -/
def date : String := "20240101T000000Z"

def pipeline (suite : Digest.Suite) : Pipeline Unit :=
  Pipeline.standard suite clock.maxDrift (.ofLookup directory.lookup)

def world : World Unit :=
  World.start clock.now Supply.repeatable "id" ()

/-- What the client signs when it asks for a path with a query. -/
def signable (path rawQuery : String) : Signature.Signable :=
  { method := "GET"
    path := path
    headers := ⟨false, [("host", ["gateway"]), ("x-amz-content-sha256", ["UNSIGNED-PAYLOAD"]),
      ("x-amz-date", [date])]⟩
    query := Uri.Query.parse rawQuery
    date := date
    region := "r" }

def header (suite : Digest.Suite) (path rawQuery : String) : String :=
  match Signature.sign suite clock ⟨.s3, record, some "r"⟩ .emulated (signable path rawQuery) with
  | .ok signed => signed.authorization
  | .error _ => ""

def asking (suite : Digest.Suite) (path rawQuery : String) : Http.Request :=
  { method := "GET"
    uri := ⟨none, none, some ⟨path, some rawQuery⟩⟩
    headers := Http.Fields.ofMap ((signable path rawQuery).sentHeaders (header suite path rawQuery))
    body := [] }

/-- The client asks for the access rules of a key. -/
def message (suite : Digest.Suite) (key : String) : Http.Request :=
  asking suite ("/b/" ++ key) "acl"

/-! ## Signing -/

def signedNames : List String :=
  ["host", "x-amz-content-sha256", "x-amz-date"]

theorem clock_accepts : clock.checkDrift date = .ok () := by
  decide +kernel

theorem isToken_get : Http.isToken "GET" = true := by
  decide

/-- The list of signed names is known by its order. -/
theorem signedHeaders_eq_of_perm {headers : MultiMap} {names : List String}
    (perm : (Signature.namesToSign headers).Perm names)
    (ordered : names.Pairwise fun left right => Text.inOrder left right = true) :
    Canonical.signedHeaders (Signature.namesToSign headers) = Text.joinWith ";" names := by
  rw [Canonical.signedHeaders, Text.sort_eq_of_ordered perm ordered]

theorem isFieldValue_signedNames {headers : MultiMap}
    (names : (Signature.namesToSign headers).Perm signedNames) :
    Http.isFieldValue (Utf8.bytesOf (Canonical.signedHeaders (Signature.namesToSign headers))) =
      true := by
  rw [signedHeaders_eq_of_perm names (by decide)]
  decide +kernel

/-- The client and the gateway sign alike, and what they sign with can be written. -/
theorem exists_signed (suite : Digest.Suite) (service : SigningService)
    {record : CredentialRecord} {selector : Selector} {credential : Credential}
    {request : Signature.Signable}
    (selected : record.select selector = .ok credential) (dated : request.date = date)
    (region : request.region = "r")
    (named : Http.isFieldValue
      (Utf8.bytesOf (Canonical.signedHeaders (Signature.namesToSign request.headers))) = true)
    (plain : Http.isFieldValue (Utf8.bytesOf credential.accessKey) = true) :
    ∃ signed,
      Signature.sign suite clock ⟨service, record, some "r"⟩ selector request = .ok signed ∧
        Http.isFieldValue (Utf8.bytesOf signed.authorization) = true := by
  have checked : clock.checkDrift request.date = .ok () := dated ▸ clock_accepts
  have begun : Signature.scopeDate request.date = .ok "20240101" := by
    have day : Signature.scopeDate ("20240101" ++ "T000000Z") = .ok "20240101" :=
      Signature.scopeDate_append (by decide) (by decide) _
    rw [dated]
    exact day
  have validScope : Http.isFieldValue
      (Utf8.bytesOf (Authorization.scopeText "20240101" "r" service.name)) = true := by
    cases service <;> decide +kernel
  refine ⟨_, Signature.sign_of_checkDrift selected checked begun, ?_⟩
  dsimp only
  rw [region]
  exact Signature.isFieldValue_renderHeader plain validScope named _ _ _ _ _

theorem sendable (path rawQuery : String) : Signature.Sendable (signable path rawQuery) := by
  have tidy := MultiMap.tidy_ofPairs false
    [("host", "gateway"), ("x-amz-content-sha256", "UNSIGNED-PAYLOAD"), ("x-amz-date", date)]
  exact ⟨tidy, rfl, rfl, rfl, ⟨_, rfl⟩⟩

/-! ## Reading -/

/-- A message that the client signs is read as what was signed. -/
theorem exists_read {suite : Digest.Suite} {service : SigningService}
    {request : Signature.Signable} (sendable : Signature.Sendable request)
    (region : request.region = "r") {signed : Signature.Signed}
    (signs : Signature.sign suite clock ⟨service, record, some "r"⟩ .emulated request = .ok signed)
    (valid : Http.isFieldValue (Utf8.bytesOf signed.authorization) = true)
    (plain : Outbound.fieldsFrom [] request.headers.pairs =
      .ok (Http.Fields.ofMap request.headers))
    {uri : Uri} (path : uri.path = request.path) (body : List UInt8) (requestId : String) :
    ∃ day again,
      Incoming.read ⟨request.method, uri,
          Http.Fields.ofMap (request.sentHeaders signed.authorization), body⟩ none requestId =
        .ok again ∧
      Signature.ReadBack request suite credential ⟨day, "r", service.name⟩ again ∧
      again.query = Uri.Query.parse (uri.query.getD "") ∧ again.body = body ∧
      (again.bucket, again.key) = Route.bucketAndKey uri.path := by
  have selected : record.select .emulated = .ok credential := rfl
  have written : Outbound.signedFields request.headers signed.authorization =
      .ok (Http.Fields.ofMap (request.sentHeaders signed.authorization)) := by
    unfold Outbound.signedFields
    rw [plain]
    change (if _ then _ else _) = _
    rw [if_pos valid]
    exact congrArg Except.ok (Http.Fields.insert_ofMap sendable.insensitive _ _)
  have regionFree : '/' ∉ request.region.toList ∧ ',' ∉ request.region.toList := by
    rw [region]
    decide
  have back := sendable.exists_readBack (by decide) (by decide) regionFree selected signs written
    path body requestId
  rwa [region] at back

/-! ## Passing the gateway -/

/-- Headers that can be signed and sent. -/
structure Writable (headers : MultiMap) : Prop where
  named : Http.isFieldValue
    (Utf8.bytesOf (Canonical.signedHeaders (Signature.namesToSign headers))) = true
  fields : ∃ fields, Outbound.fieldsFrom [] headers.pairs = .ok fields

/-- The headers that the gateway signs for a body with a digest, in the order in which they
come about. -/
def storeHeaders (hash : String) : MultiMap :=
  ⟨false, [("x-amz-content-sha256", [hash]), ("host", ["s3.r.amazonaws.com"]),
    ("x-amz-date", [date])]⟩

theorem names_perm (hash : String) :
    (Signature.namesToSign (storeHeaders hash)).Perm signedNames := by
  have names : Signature.namesToSign (storeHeaders hash) =
      ["x-amz-content-sha256", "host", "x-amz-date"] := rfl
  rw [names]
  decide

theorem fieldsFrom_storeHeaders {hash : String}
    (valid : Http.isFieldValue (Utf8.bytesOf hash) = true) :
    Outbound.fieldsFrom [] (storeHeaders hash).pairs =
      .ok (Http.Fields.ofMap (storeHeaders hash)) := by
  have pairs : (storeHeaders hash).pairs = ("x-amz-content-sha256", hash) ::
      [("host", "s3.r.amazonaws.com"), ("x-amz-date", date)] := rfl
  rw [pairs, Outbound.fieldsFrom, valid]
  rfl

theorem writable_digest {hash : String} (valid : Http.isFieldValue (Utf8.bytesOf hash) = true) :
    Writable (Outbound.addressed ⟨false, [("x-amz-content-sha256", [hash])]⟩ "s3.r.amazonaws.com"
      date none) := by
  have headers : Outbound.addressed ⟨false, [("x-amz-content-sha256", [hash])]⟩
      "s3.r.amazonaws.com" date none = storeHeaders hash := rfl
  rw [headers]
  exact ⟨isFieldValue_signedNames (names_perm hash), _, fieldsFrom_storeHeaders valid⟩

/-- An object is found at the store, whatever its bucket is and whatever parameters come
with it, if it is not too long. -/
theorem endpoint_eq {bucket key : String} {query : Option String}
    (plain : ∀ text ∈ query, ∀ c ∈ text.toList, Uri.isQueryChar c = true)
    (bounded : Addressing.standard.Bounded ⟨key, bucket, "r", query⟩) :
    Addressing.standard.endpoint ⟨key, bucket, "r", query⟩ =
      .ok (Uri.absolute "https" ⟨"s3.r.amazonaws.com"⟩
        ⟨Addressing.standard.pathFor bucket key, query.filter (· != "")⟩) := by
  have host : Uri.Authority.parse
      (Addressing.standard.authorityText (Addressing.standard.hostFor bucket "r")) =
        .ok ⟨"s3.r.amazonaws.com"⟩ := by
    change Uri.Authority.parse
      (Addressing.standard.authorityText (Addressing.standard.hostFor "" "r")) = _
    decide +kernel
  exact (Addressing.endpoint_eq_ok_iff plain).mpr ⟨bounded, _, host, rfl⟩

/-- The request for the store is made, if the body and the headers that describe it are known. -/
theorem exists_assemble {suite : Digest.Suite} {request : StoreRequest}
    (region : request.authorization.region = "r") (dated : Outbound.dateOf clock request = date)
    (token : Http.isToken request.method = true) {body : List UInt8} {described : MultiMap}
    (writable : Writable (Outbound.addressed described "s3.r.amazonaws.com" date none))
    (describes : Outbound.payload suite request = .ok (body, described)) (target : Uri.Target) :
    ∃ outbound, Outbound.assemble suite clock request record storeCredential none
      (Uri.absolute "https" ⟨"s3.r.amazonaws.com"⟩ target) = .ok outbound := by
  have headers : (Outbound.signable clock request storeCredential
      (Uri.absolute "https" ⟨"s3.r.amazonaws.com"⟩ target) described "s3.r.amazonaws.com").headers =
        Outbound.addressed described "s3.r.amazonaws.com" date none := by
    rw [Outbound.signable, dated]
    rfl
  rcases writable with ⟨named, fields, writes⟩
  rw [← headers] at named writes
  have selected : (Outbound.contextFor record storeCredential none "r").record.select .remote =
      .ok storeCredential := rfl
  rcases exists_signed suite .s3 selected dated region named (by decide) with
    ⟨signed, signs, plain⟩
  change Signature.sign suite clock (Outbound.contextFor record storeCredential none "r") .remote _ =
    _ at signs
  rw [← region] at signs
  have written : Outbound.signedFields (Outbound.signable clock request storeCredential
      (Uri.absolute "https" ⟨"s3.r.amazonaws.com"⟩ target) described "s3.r.amazonaws.com").headers
        signed.authorization =
      .ok (Http.Fields.insert fields "authorization" (Utf8.bytesOf signed.authorization)) := by
    unfold Outbound.signedFields
    rw [writes]
    exact if_pos plain
  exact ⟨_, Outbound.assemble_eq rfl describes signs written token⟩

/-- The gateway with other names for its buckets. -/
def aliased (suite : Digest.Suite) (aliases : StoreRequest → Option Remapped) : Pipeline Unit :=
  Pipeline.aliased suite clock.maxDrift (.ofLookup directory.lookup) aliases

theorem aliased_none (suite : Digest.Suite) : aliased suite (fun _ => none) = pipeline suite := by
  dsimp only [aliased, pipeline, Pipeline.aliased, Pipeline.standard]

/-- Without aliases a request stays as it is. -/
theorem applyTo_none (request : StoreRequest) :
    (((fun _ => none : StoreRequest → Option Remapped) request).map
      (·.applyTo request)).getD request = request := rfl

/-- What is made for the store of what the client has signed comes out of the pipeline, whatever
names the gateway has for its buckets. -/
theorem exists_processed_of_mapped {suite : Digest.Suite}
    {aliases : StoreRequest → Option Remapped} {said : Signature.Signable}
    {again resolved : StoreRequest} {day : String} (sendable : Signature.Sendable said)
    (dated : said.date = date)
    (restated : Signature.Restates said suite credential ⟨day, "r", "s3"⟩ again)
    (untold : again.authorization.securityToken = none) (query : again.query = said.query)
    (matching : Signature.verifyPayload suite again.headers again.body = .ok ())
    (mapped : ((aliases again).map (·.applyTo again)).getD again = resolved) {uri : Uri}
    (placed : Addressing.standard.endpoint (Outbound.targetOf resolved) = .ok uri)
    {outbound : OutboundRequest}
    (made : Outbound.assemble suite clock resolved record storeCredential none uri = .ok outbound)
    {start : World Unit} (time : start.now = clock.now) :
    ∃ after, ((aliased suite aliases).process again).perform start = (.ok outbound, after) := by
  have checked : clock.checkDrift said.date = .ok () := dated ▸ clock_accepts
  have verified : Signature.verify suite ⟨start.now, clock.maxDrift⟩ record again = .ok () := by
    rw [time]
    change Signature.verify suite clock record again = .ok ()
    rw [restated.verify_iff sendable.tidy sendable.insensitive sendable.hosted checked rfl, query]
  rcases restated.authorization with ⟨_, authorized⟩
  have named : SigningService.ofName? again.authorization.service = some .s3 := by
    rw [authorized]
    rfl
  have found : directory.find? again.authorization.accessKey
      again.authorization.securityToken = some record := by
    rw [untold, authorized]
    rfl
  have atTime : Outbound.assemble suite ⟨start.now, clock.maxDrift⟩ resolved record storeCredential
      record.role uri = .ok outbound := by
    rw [time]
    exact made
  exact Pipeline.perform_process_aliased named found verified matching rfl mapped placed atTime

/-- The gateway lets through what the client has signed, whatever names it has for its
buckets, if there is a place for it and the body and what describes it are known. -/
theorem exists_outbound_of_mapped {suite : Digest.Suite} {aliases : StoreRequest → Option Remapped}
    {said : Signature.Signable} {again resolved : StoreRequest} {day : String}
    (sendable : Signature.Sendable said) (dated : said.date = date)
    (restated : Signature.Restates said suite credential ⟨day, "r", "s3"⟩ again)
    (untold : again.authorization.securityToken = none) (query : again.query = said.query)
    (matching : Signature.verifyPayload suite again.headers again.body = .ok ())
    (token : Http.isToken said.method = true)
    (mapped : ((aliases again).map (·.applyTo again)).getD again = resolved) {target : Uri.Target}
    (placed : Addressing.standard.endpoint (Outbound.targetOf resolved) =
      .ok (Uri.absolute "https" ⟨"s3.r.amazonaws.com"⟩ target))
    {body : List UInt8} {described : MultiMap}
    (writable : Writable (Outbound.addressed described "s3.r.amazonaws.com" date none))
    (describes : Outbound.payload suite again = .ok (body, described)) :
    ∃ outbound after,
      Outbound.assemble suite clock resolved record storeCredential none
        (Uri.absolute "https" ⟨"s3.r.amazonaws.com"⟩ target) = .ok outbound ∧
      ((aliased suite aliases).process again).perform world = (.ok outbound, after) := by
  rcases restated.authorization with ⟨_, authorized⟩
  have region : again.authorization.region = "r" := by
    rw [authorized]
    rfl
  have unlimited : again.authorization.isPresigned = false := by
    rw [authorized]
    rfl
  rcases Remapped.exists_getD_applyTo_eq (aliases again) again with ⟨bucket, key, parameters, kept⟩
  have same : resolved = { again with bucket := bucket, key := key, query := parameters } :=
    mapped.symm.trans kept
  subst same
  have stamped : Outbound.dateOf clock
      { again with bucket := bucket, key := key, query := parameters } = date := by
    rw [Outbound.dateOf]
    dsimp only
    rw [unlimited, restated.date, dated]
    rfl
  rw [← Outbound.payload_moved again bucket key parameters] at describes
  have assembled : ∃ outbound, Outbound.assemble suite clock
      { again with bucket := bucket, key := key, query := parameters } record storeCredential none
      (Uri.absolute "https" ⟨"s3.r.amazonaws.com"⟩ target) = .ok outbound := by
    refine exists_assemble ?_ stamped ?_ writable describes target
    · exact region
    · rw [← restated.method] at token
      exact token
  rcases assembled with ⟨outbound, made⟩
  have time : world.now = clock.now := rfl
  rcases exists_processed_of_mapped sendable dated restated untold query matching mapped placed made
    time with ⟨after, done⟩
  exact ⟨outbound, after, made, done⟩

/-- The gateway lets through what the client has signed, if there is a place for it and the
body and what describes it are known. -/
theorem exists_outbound_of_restated {suite : Digest.Suite} {said : Signature.Signable}
    {again : StoreRequest} {day : String} (sendable : Signature.Sendable said)
    (dated : said.date = date)
    (restated : Signature.Restates said suite credential ⟨day, "r", "s3"⟩ again)
    (untold : again.authorization.securityToken = none) (query : again.query = said.query)
    (matching : Signature.verifyPayload suite again.headers again.body = .ok ())
    (token : Http.isToken said.method = true) {target : Uri.Target}
    (placed : Addressing.standard.endpoint (Outbound.targetOf again) =
      .ok (Uri.absolute "https" ⟨"s3.r.amazonaws.com"⟩ target))
    {body : List UInt8} {described : MultiMap}
    (writable : Writable (Outbound.addressed described "s3.r.amazonaws.com" date none))
    (describes : Outbound.payload suite again = .ok (body, described)) :
    ∃ outbound after,
      Outbound.assemble suite clock again record storeCredential none
        (Uri.absolute "https" ⟨"s3.r.amazonaws.com"⟩ target) = .ok outbound ∧
      ((pipeline suite).process again).perform world = (.ok outbound, after) := by
  rw [← aliased_none]
  exact exists_outbound_of_mapped sendable dated restated untold query matching token
    (applyTo_none again) placed writable describes

end Client
end SignedGateway
