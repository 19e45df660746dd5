import SignedGateway.Proofs.Gateway.Asking
import SignedGateway.Proofs.Gateway.Routing
import SignedGateway.Proofs.MultiMap.Selection

namespace SignedGateway

/-!
# What stays with the gateway

A client proves who it is with a secret that it shares with the gateway and with a token.
Neither these nor the signature made with them has any influence on the request for the
store.  A request and what it was verified with are compared with their own remains after
all of this is blanked out, and every step that routes a request is shown to do the same
with either.  So whoever sees the result cannot tell two requests apart that differ only
in what is blanked out.
-/

/-! ## Blanking out -/

namespace StoreRequest

/-- Headers in which a client shows its secrets. -/
def secretHeaders : List String :=
  ["authorization", "x-amz-security-token"]

/-- Parameters in which a client shows its secrets. -/
def secretParameters : List String :=
  [Authorization.signatureParameter, "X-Amz-Security-Token"]

/-- The request without signature and token. -/
def withoutSecrets (request : StoreRequest) : StoreRequest :=
  { request with
    authorization := { request.authorization with signature := "", securityToken := none }
    headers := request.headers.without secretHeaders
    query := request.query.without secretParameters
    rawQuery := none }

end StoreRequest

/-- The record without the client's secret key and token. -/
def CredentialRecord.withoutSecrets (record : CredentialRecord) : CredentialRecord :=
  { record with emulated := { record.emulated with secretKey := "", session := none } }

def SigningContext.withoutSecrets (context : SigningContext) : SigningContext :=
  { context with record := context.record.withoutSecrets }

/-! ## Parts that ask nobody -/

/-- Where connections come from, if nobody has to be asked for them. -/
inductive ConnectionSource (Outside : Type) where
  | ofRecord
  | fixed (connection : Connection Outside)
  | table (connections : ConnectionTable)

namespace ConnectionSource

variable {Outside : Type}

def rule : ConnectionSource Outside → ConnectionRule Outside
  | .ofRecord => Connection.fromRecord
  | .fixed connection => Connection.fixed connection
  | .table connections => connections.rule

/-- The connection for the owner of a record, if there is one. -/
def find? : ConnectionSource Outside → CredentialRecord → Option (Connection Outside)
  | .ofRecord, record => Connection.ofRecord record
  | .fixed connection, _ => some connection
  | .table connections, record =>
      (connections.entries.lookup record.emulated.accessKey).map ConnectionEntry.connection

theorem rule_eq (source : ConnectionSource Outside) (context : SigningContext)
    (request : StoreRequest) :
    source.rule context request = pure (source.find? context.record) := by
  cases source <;> rfl

theorem find?_withoutSecrets (source : ConnectionSource Outside) (record : CredentialRecord) :
    source.find? record.withoutSecrets = source.find? record := by
  cases source <;> rfl

end ConnectionSource

/-- The request with its alias resolved, if there are any aliases. -/
def MappingSettings.resolve (aliases : Option MappingSettings) (request : StoreRequest) :
    StoreRequest :=
  ((aliases.bind (·.remap request)).map (·.applyTo request)).getD request

/-! ## The steps of routing -/

section Steps

variable (request : StoreRequest)

theorem BucketMapping.isListing_withoutSecrets :
    isListing request.withoutSecrets = isListing request := by
  -- A listing may be presigned, so the secret parameters never make it anything else.
  have spared : ∀ name ∈ StoreRequest.secretParameters, isListingParameter name = true := by
    decide
  unfold isListing
  exact congrArg _ (request.query.all_keys_without spared)

theorem MappingSettings.remap_withoutSecrets (settings : MappingSettings) :
    settings.remap request.withoutSecrets = settings.remap request := by
  have confined (mapping : BucketMapping) :
      mapping.listPrefixFor request.withoutSecrets = mapping.listPrefixFor request := by
    have given : request.withoutSecrets.query.getFirst? "prefix" =
        request.query.getFirst? "prefix" :=
      request.query.getFirst?_without (by decide) (by decide)
    rw [BucketMapping.listPrefixFor, BucketMapping.isListing_withoutSecrets, given]
    rfl
  unfold MappingSettings.remap
  congr 1
  funext mapping
  rw [BucketMapping.remap, confined]
  rfl

theorem Remapped.applyTo_withoutSecrets (remapped : Remapped) :
    remapped.applyTo request.withoutSecrets = (remapped.applyTo request).withoutSecrets := by
  unfold applyTo
  dsimp only
  split
  · next text _ =>
      have placed : (request.query.put "prefix" text).without StoreRequest.secretParameters =
          (request.query.without StoreRequest.secretParameters).put "prefix" text :=
        request.query.put_without (by decide) (by decide) text
      unfold StoreRequest.withoutSecrets
      dsimp only [StoreRequest.withBucketAndKey]
      rw [placed]
  · rfl

theorem MappingSettings.resolve_withoutSecrets (aliases : Option MappingSettings) :
    resolve aliases request.withoutSecrets = (resolve aliases request).withoutSecrets := by
  have same : aliases.bind (·.remap request.withoutSecrets) = aliases.bind (·.remap request) := by
    cases aliases with
    | none => rfl
    | some settings => exact settings.remap_withoutSecrets request
  unfold resolve
  rw [same]
  cases aliases.bind (·.remap request) with
  | none => rfl
  | some remapped => exact remapped.applyTo_withoutSecrets request

namespace Outbound

theorem parameters_withoutSecrets :
    parameters request.withoutSecrets.query = parameters request.query := by
  have covers : ∀ name ∈ StoreRequest.secretParameters,
      name ∈ Authorization.presignedParameters := by
    decide
  unfold parameters
  exact congrArg (MultiMap.ofPairs true) (request.query.filter_pairs_without covers)

theorem keptHeaders_withoutSecrets :
    keptHeaders request.withoutSecrets.headers = keptHeaders request.headers := by
  have covers : ∀ name ∈ StoreRequest.secretHeaders, name ∈ droppedHeaders := by
    decide
  unfold keptHeaders
  exact congrArg (MultiMap.ofPairs false) (request.headers.filter_pairs_without covers)

theorem isAnnounced_withoutSecrets :
    Chunked.isAnnounced request.withoutSecrets.headers = Chunked.isAnnounced request.headers := by
  have coding : request.withoutSecrets.headers.get "content-encoding" =
      request.headers.get "content-encoding" :=
    request.headers.get_without (by decide) (by decide)
  have digest : request.withoutSecrets.headers.getFirst? "x-amz-content-sha256" =
      request.headers.getFirst? "x-amz-content-sha256" :=
    request.headers.getFirst?_without (by decide) (by decide)
  rw [Chunked.isAnnounced, coding, digest, Chunked.isAnnounced]

/-- The body that is sent, and what describes it, take nothing from the secrets. -/
theorem payload_withoutSecrets (suite : Digest.Suite) :
    payload suite request.withoutSecrets = payload suite request := by
  have coding : request.withoutSecrets.headers.getFirst? "content-encoding" =
      request.headers.getFirst? "content-encoding" :=
    request.headers.getFirst?_without (by decide) (by decide)
  have remaining : remainingCodings request.withoutSecrets.headers =
      remainingCodings request.headers := by
    rw [remainingCodings, coding, remainingCodings]
  have declares : request.withoutSecrets.headers.contains Signature.payloadHeader =
      request.headers.contains Signature.payloadHeader :=
    request.headers.contains_without (by decide) (by decide)
  unfold payload wholeBodyHeaders
  rw [isAnnounced_withoutSecrets, keptHeaders_withoutSecrets, remaining, declares]
  rfl

theorem targetOf_withoutSecrets : targetOf request.withoutSecrets = targetOf request := by
  rw [targetOf, parameters_withoutSecrets]
  rfl

/-- What signs for the store has the credential of the connection only. -/
theorem sign_contextFor_withoutSecrets (suite : Digest.Suite) (clock : Clock)
    (record : CredentialRecord) (credential : Credential) (role : Option SessionRole)
    (region : String) (signable : Signature.Signable) :
    Signature.sign suite clock (contextFor record.withoutSecrets credential role region) .remote
        signable =
      Signature.sign suite clock (contextFor record credential role region) .remote signable := rfl

theorem assemble_withoutSecrets (suite : Digest.Suite) (clock : Clock) (record : CredentialRecord)
    (credential : Credential) (role : Option SessionRole) (uri : Uri) :
    assemble suite clock request.withoutSecrets record.withoutSecrets credential role uri =
      assemble suite clock request record credential role uri := by
  unfold assemble
  rw [payload_withoutSecrets, parameters_withoutSecrets]
  simp only [sign_contextFor_withoutSecrets]
  rfl

variable {Outside : Type}

theorem prepare_withoutSecrets (suite : Digest.Suite) (maxDrift : Nat)
    (general : EndpointRule Outside) (connection : Connection Outside)
    (record : CredentialRecord) :
    prepare suite maxDrift general connection record.withoutSecrets request.withoutSecrets =
      prepare suite maxDrift general connection record request := by
  unfold prepare
  rw [targetOf_withoutSecrets]
  apply bind_congr
  intro uri
  apply bind_congr
  intro now
  rw [assemble_withoutSecrets]

end Outbound

end Steps

namespace Pipeline

variable {Outside : Type}

/-! ## Routing -/

/-- A pipeline that allows everything and asks nobody for aliases or connections.  Where
its requests go may still be up to anyone. -/
structure BuiltIn (pipeline : Pipeline Outside) (aliases : Option MappingSettings)
    (source : ConnectionSource Outside) : Prop where
  policy : pipeline.policy = Policy.allowAll
  remap : pipeline.remap = fun _ request => pure (aliases.bind (·.remap request))
  connections : pipeline.connections = source.rule

namespace BuiltIn

variable {pipeline : Pipeline Outside} {aliases : Option MappingSettings}
  {source : ConnectionSource Outside} (builtIn : pipeline.BuiltIn aliases source)

include builtIn

theorem deliver_eq (context : SigningContext) (resolved : StoreRequest) :
    pipeline.deliver context resolved =
      match source.find? context.record with
      | none => Attempt.fail (noConnection resolved.bucket)
      | some connection => do
          let outbound ←
            Outbound.prepare pipeline.suite pipeline.maxDrift pipeline.endpoint connection
              context.record resolved
          Attempt.note (.property "upstream" outbound.uri.render)
          return outbound := by
  unfold deliver
  rw [builtIn.connections, source.rule_eq, pure_bind]
  cases source.find? context.record <;> rfl

theorem deliver_withoutSecrets (context : SigningContext) (resolved : StoreRequest) :
    pipeline.deliver context.withoutSecrets resolved.withoutSecrets =
      pipeline.deliver context resolved := by
  rw [builtIn.deliver_eq, builtIn.deliver_eq, SigningContext.withoutSecrets,
    source.find?_withoutSecrets]
  cases source.find? context.record with
  | none => rfl
  | some connection =>
      dsimp only
      rw [Outbound.prepare_withoutSecrets]

/-- What is left of routing if nobody is asked: the request is allowed, its alias is
resolved, and it is delivered. -/
theorem route_eq_deliver (request : StoreRequest) (context : SigningContext) :
    pipeline.route request context = (do
      Attempt.note (.property "security.allowed" "true")
      Attempt.note (.property "bucket" (MappingSettings.resolve aliases request).bucket)
      Attempt.note (.property "key" (MappingSettings.resolve aliases request).key)
      pipeline.deliver context (MappingSettings.resolve aliases request)) := by
  rw [route_eq, builtIn.policy, resolve_eq, builtIn.remap]
  rfl

theorem route_withoutSecrets (request : StoreRequest) (context : SigningContext) :
    pipeline.route request.withoutSecrets context.withoutSecrets =
      pipeline.route request context := by
  rw [builtIn.route_eq_deliver, builtIn.route_eq_deliver,
    MappingSettings.resolve_withoutSecrets, builtIn.deliver_withoutSecrets]
  rfl

/-- Where there is no connection, nothing is made. -/
theorem perform_route_of_none {request : StoreRequest} {context : SigningContext}
    (unconnected : source.find? context.record = none) (world : World Outside) :
    ((pipeline.route request context).perform world).1 =
      .error (.failed (noConnection (MappingSettings.resolve aliases request).bucket)) := by
  rw [builtIn.route_eq_deliver, builtIn.deliver_eq, unconnected]
  rfl

/-- Whatever is made is assembled for the address of the resolved request. -/
theorem exists_assemble_of_route {request : StoreRequest} {context : SigningContext}
    {world after : World Outside} {outbound : OutboundRequest}
    (routed : (pipeline.route request context).perform world = (.ok outbound, after)) :
    ∃ connection, source.find? context.record = some connection ∧
      ∃ clock uri before between,
        ((connection.endpoint.getD pipeline.endpoint)
          (Outbound.targetOf (MappingSettings.resolve aliases request))).perform before =
            (.ok uri, between) ∧
        Outbound.assemble pipeline.suite clock (MappingSettings.resolve aliases request)
          context.record connection.credential connection.role uri = .ok outbound := by
  rw [builtIn.route_eq_deliver, builtIn.deliver_eq] at routed
  -- Three notes come first; they only add to the log.
  rcases Attempt.perform_bind_eq_ok routed with ⟨_, _, _, routed⟩
  rcases Attempt.perform_bind_eq_ok routed with ⟨_, _, _, routed⟩
  rcases Attempt.perform_bind_eq_ok routed with ⟨_, _, _, delivered⟩
  cases found : source.find? context.record with
  | none =>
      rw [found] at delivered
      cases delivered
  | some connection =>
      rw [found] at delivered
      rcases Attempt.perform_bind_eq_ok delivered with ⟨made, _, prepared, noted⟩
      rcases Attempt.perform_bind_eq_ok prepared with ⟨uri, between, placed, dated⟩
      rcases Attempt.perform_bind_eq_ok dated with ⟨now, _, _, assembled⟩
      rw [Attempt.perform_ofExcept, Prod.mk.injEq, Result.mapError_eq_ok_iff] at assembled
      cases noted
      exact ⟨connection, rfl, ⟨now, pipeline.maxDrift⟩, uri, _, between, placed, assembled.1⟩

/-- Whatever is made is signed with the credential of the connection. -/
theorem exists_signedBy_of_route {request : StoreRequest} {context : SigningContext}
    {world after : World Outside} {outbound : OutboundRequest}
    (routed : (pipeline.route request context).perform world = (.ok outbound, after)) :
    ∃ connection, source.find? context.record = some connection ∧
      outbound.SignedBy pipeline.suite connection.credential := by
  rcases builtIn.exists_assemble_of_route routed with
    ⟨connection, found, _, _, _, _, _, assembled⟩
  exact ⟨connection, found, Outbound.signedBy_of_assemble assembled⟩

end BuiltIn

/-- Requests that differ only in what a client proves itself with, for callers that differ
only in the secrets of that proof, are routed alike: with one result in every world, and
one world left behind.  Without a connection there is no request for the store.  Every
request for the store is signed with the credential of its connection, and a record
without a credential for the store signs nothing for it. -/
theorem secrets_have_no_effect {pipeline : Pipeline Outside} {aliases : Option MappingSettings}
    {source : ConnectionSource Outside} (builtIn : pipeline.BuiltIn aliases source)
    {left right : StoreRequest} {leftContext rightContext : SigningContext}
    (same : left.withoutSecrets = right.withoutSecrets)
    (sameContext : leftContext.withoutSecrets = rightContext.withoutSecrets) :
    pipeline.route left leftContext = pipeline.route right rightContext ∧
      (source.find? leftContext.record = none → ∀ world,
        ((pipeline.route left leftContext).perform world).1 =
          .error (.failed (noConnection (MappingSettings.resolve aliases left).bucket))) ∧
      (∀ world after outbound,
        (pipeline.route left leftContext).perform world = (.ok outbound, after) →
        ∃ connection, source.find? leftContext.record = some connection ∧
          outbound.SignedBy pipeline.suite connection.credential) ∧
      (leftContext.record.remote = none → ∀ clock signable, ∃ fault,
        Signature.sign pipeline.suite clock leftContext .remote signable = .error fault) := by
  refine ⟨?_, ?_, ?_, ?_⟩
  · rw [← builtIn.route_withoutSecrets left, same, sameContext, builtIn.route_withoutSecrets]
  · exact builtIn.perform_route_of_none
  · exact fun _ _ _ routed => builtIn.exists_signedBy_of_route routed
  · exact fun remoteless => Signature.exists_error_of_sign remoteless pipeline.suite

/-- Had the client of a standard gateway another secret and shown another signature and a
token, the store would get the same request. -/
theorem secrets_of_client_have_no_effect :
    ∃ request context outbound between after,
      Incoming.read (Client.message .sha256 "k") none "id" = .ok request ∧
      ((Client.pipeline .sha256).route request context).perform between = (.ok outbound, after) ∧
      ((Client.pipeline .sha256).route
          { request with
            authorization :=
              { request.authorization with signature := "forged", securityToken := some "stolen" }
            headers := request.headers.put "authorization" "forged" }
          { context with
            record :=
              { context.record with
                emulated :=
                  ⟨context.record.emulated.accessKey, "guessed", some "stolen"⟩ } }).perform
        between = (.ok outbound, after) := by
  rcases Client.exists_asked .sha256 "k" with ⟨request, read, asked⟩
  rcases asked.exists_outbound (by decide +kernel) with ⟨_, outbound, after, _, processed⟩
  rcases exists_route_of_process processed with ⟨context, between, routed⟩
  have builtIn : (Client.pipeline .sha256).BuiltIn none .ofRecord := ⟨rfl, rfl, rfl⟩
  have shown : (request.headers.put "authorization" "forged").without StoreRequest.secretHeaders =
      request.headers.without StoreRequest.secretHeaders :=
    request.headers.put_without_of_mem (by decide) (by decide) "forged"
  refine ⟨request, context, outbound, between, after, read, routed, ?_⟩
  rw [← (secrets_have_no_effect builtIn ?_ ?_).1]
  · exact routed
  · unfold StoreRequest.withoutSecrets
    rw [shown]
  · rfl

end Pipeline

end SignedGateway
