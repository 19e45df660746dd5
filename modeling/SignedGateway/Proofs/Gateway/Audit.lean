import SignedGateway.Proofs.Gateway.Discretion
import SignedGateway.Proofs.Gateway.Identity
import SignedGateway.Proofs.Http.Answer
import SignedGateway.Proofs.Http.Fields

namespace SignedGateway
namespace GatewayService

/-!
# What is reported of a request

Every message that makes a request is reported once.  The report and the answer are made of the
same result, so they agree: in the status, in the identifier, and in whether the request has
failed.  A store that answers with an error has not made a request fail.
-/

variable {Outside : Type}

/-! ## The end of a request -/

/-- What a result is answered with. -/
def answerTo (request : StoreRequest) : Except GatewayError Http.Response → Http.Response
  | .ok response => response
  | .error error => Http.errorResponse error (some request.rawPath) request.requestId

/-- What is noted of a result. -/
def closingNotes : Except GatewayError Http.Response → List LogEntry
  | .ok response => [.property "status" (Text.decimal response.status)]
  | .error error =>
      [.property "status" (Text.decimal error.status), .error "pipeline" error.message]

theorem run_finish (request : StoreRequest) (result : Except GatewayError Http.Response)
    (world : World Outside) :
    ((finish request result).run world).1 =
      ⟨answerTo request result, some (world.log.noteAll (closingNotes result)).event⟩ := by
  cases result <;> rfl

theorem run_serve {service : GatewayService Outside} {world between : World Outside}
    {request : StoreRequest} {result : Except GatewayError Http.Response}
    (dispatched : (service.dispatch request).perform ((beginLog request).run world).2 =
      (result.mapError .failed, between)) :
    ((service.serve request).run world).1 = some ((finish request result).run between).1 := by
  unfold Attempt.perform at dispatched
  unfold serve
  rw [Act.run_bind, Act.run_bind, dispatched]
  cases result <;> rfl

/-- A message is answered under an identifier, and the headers that every answer has are added. -/
theorem run_handle_eq (service : GatewayService Outside) (arrival : Arrival)
    (world : World Outside) :
    ((service.handle arrival).run world).1 =
      ((service.respond (Supply.identifier world.supply) arrival).run
        { world with supply := world.supply.next }).1.map fun done =>
          { done with
            response := withCommonHeaders (Supply.identifier world.supply) done.response } := rfl

/-- A request that is answered is reported with its log. -/
theorem run_handle {service : GatewayService Outside} {arrival : Arrival}
    {world between : World Outside} {request : StoreRequest}
    {result : Except GatewayError Http.Response}
    (reads : service.readsAs (Supply.identifier world.supply) arrival = some request)
    (dispatched : (service.dispatch request).perform (entered request world) =
      (result.mapError .failed, between)) :
    ((service.handle arrival).run world).1 =
      some ⟨withCommonHeaders (Supply.identifier world.supply) (answerTo request result),
        some (between.log.noteAll (closingNotes result)).event⟩ := by
  rw [run_handle_eq, respond_of_reads reads, run_serve dispatched, run_finish]
  rfl

theorem body_withCommonHeaders (requestId : String) (response : Http.Response) :
    (withCommonHeaders requestId response).body = response.body := rfl

theorem get_withCommonHeaders (requestId : String) (response : Http.Response) :
    Http.Fields.get (withCommonHeaders requestId response).headers "x-amz-request-id" =
      [Utf8.bytesOf requestId] := by
  have other : Text.lower "x-amz-request-id" ≠ Text.lower "server" := by
    decide +kernel
  exact (Http.Fields.get_insert_of_ne other _ _).trans (Http.Fields.get_insert_self _ _ _)

/-! ## Reports that are true -/

/-- What the report says of a request that has ended with this result, and of its answer. -/
structure Reports (request : StoreRequest) (result : Except GatewayError Http.Response)
    (handled : Handled) (event : RequestEvent) : Prop where
  single : handled.event = some event
  identified : event.requestId = request.requestId
  header : Http.Fields.get handled.response.headers "x-amz-request-id" =
    [Utf8.bytesOf request.requestId]
  status : ∃ properties, event.properties = Json.renderPairs properties ∧
    (properties.map Prod.fst).Nodup ∧
    properties.lookup "status" = some (Text.decimal handled.response.status)
  warned : event.level = .warning ↔ ∃ error, result = .error error
  passed : ∀ response, result = .ok response → event.level = .info ∧ event.errors = none ∧
    handled.response.status = response.status
  failed : ∀ error, result = .error error → event.level = .warning ∧
    (∃ errors, event.errors = some (Json.renderPairs errors) ∧ (errors.map Prod.fst).Nodup ∧
      errors.lookup "pipeline" = some error.message) ∧
    handled.response.status = error.status ∧
    ∃ document, handled.response.body = Utf8.bytesOf document ∧
      Xml.textsOf "RequestId" document = [request.requestId]

/-- What the log has come to when the last notes are to be made. -/
structure Logged (request : StoreRequest) (result : Except GatewayError Http.Response)
    (log : RequestLog) : Prop where
  requestId : log.requestId = request.requestId
  tidy : log.Tidy
  clean : ∀ response, result = .ok response → log.errors = []

theorem Logged.reports {request : StoreRequest} {result : Except GatewayError Http.Response}
    {log : RequestLog} (logged : Logged request result log)
    (plain : Xml.escape request.requestId = request.requestId) :
    Reports request result
      ⟨withCommonHeaders request.requestId (answerTo request result),
        some (log.noteAll (closingNotes result)).event⟩
      (log.noteAll (closingNotes result)).event := by
  have tidy := logged.tidy.noteAll (closingNotes result)
  have identified : (log.noteAll (closingNotes result)).event.requestId = request.requestId := by
    rw [RequestLog.requestId_event, RequestLog.requestId_noteAll, logged.requestId]
  have header := get_withCommonHeaders request.requestId (answerTo request result)
  have properties := (log.noteAll (closingNotes result)).properties_event
  cases result with
  | ok response =>
      have clean : (log.noteAll (closingNotes (.ok response))).errors = [] :=
        logged.clean response rfl
      rcases RequestLog.event_of_clean clean with ⟨level, errors⟩
      refine ⟨rfl, identified, header, ⟨_, properties, tidy.properties,
        RequestLog.lookup_assign_self _ _ _⟩, ?_, ?_, nofun⟩
      · rw [level]
        exact ⟨nofun, nofun⟩
      · intro other same
        cases same
        exact ⟨level, errors, rfl⟩
  | error error =>
      have noted : (log.noteAll (closingNotes (.error error))).errors.lookup "pipeline" =
          some error.message :=
        RequestLog.lookup_assign_self _ _ _
      have some : (log.noteAll (closingNotes (.error error))).errors ≠ [] := by
        intro none
        rw [none] at noted
        cases noted
      rcases RequestLog.event_of_errors some with ⟨level, errors⟩
      refine ⟨rfl, identified, header, ⟨_, properties, tidy.properties,
        RequestLog.lookup_assign_self _ _ _⟩, ⟨fun _ => ⟨error, rfl⟩, fun _ => level⟩, nofun, ?_⟩
      intro other same
      cases same
      refine ⟨level, ⟨_, errors, tidy.errors, noted⟩, rfl, Http.errorDocument error.code.text
        (Http.publicMessage error) (Option.some request.rawPath) request.requestId, ?_, ?_⟩
      · rw [body_withCommonHeaders, answerTo, Http.errorResponse, Http.xmlResponse]
      · rw [Http.textsOf_errorDocument, plain]

/-! ## Requests that are read -/

theorem requestId_of_readsAs {service : GatewayService Outside} {requestId : String}
    {arrival : Arrival} {request : StoreRequest}
    (reads : service.readsAs requestId arrival = some request) : request.requestId = requestId := by
  unfold readsAs at reads
  split_ifs at reads
  split at reads
  · cases reads
  · next body _ =>
      cases read : Incoming.read ⟨arrival.method, arrival.uri, arrival.headers, body⟩
          service.ownPath requestId with
      | error error =>
          rw [read] at reads
          cases reads
      | ok made =>
          rw [read] at reads
          cases reads
          rcases Incoming.read_eq_ok_iff.mp read with ⟨_, _, _, _, _, rfl⟩
          rfl

/-- Whatever a store answers in full is the result, whatever its status. -/
theorem dispatch_of_answered {service : GatewayService Outside} {request : StoreRequest}
    {world between after : World Outside} {outbound : OutboundRequest} {reply : Http.Response}
    (other : request.authorization.service ≠ SigningService.sts.name)
    (made : (service.pipeline.process request).perform world = (.ok outbound, between))
    (answered : (service.transport.send outbound.method outbound.uri.render
      (Http.Fields.pairs outbound.headers) outbound.body).run between =
        (.answered reply true, after)) :
    (service.dispatch request).perform world = (.ok (relayed reply), after) := by
  have exchanged : (Attempt.act (service.transport.send outbound.method outbound.uri.render
      (Http.Fields.pairs outbound.headers) outbound.body)).perform between =
        (.ok (.answered reply true), after) := by
    rw [Attempt.perform_act, answered]
  unfold dispatch
  rw [if_neg other, Attempt.perform_bind_of_ok made]
  exact Attempt.perform_bind_of_ok exchanged _

/-- The log of a request tells of an error only if the request fails. -/
theorem Discreet.exists_logged {service : GatewayService Outside} {shown : Calendar.Moment → Prop}
    (discreet : service.Discreet shown) {world : World Outside} (time : shown world.now)
    {request : StoreRequest} (ends : request.EndsInCalendar) :
    ∃ result between, (service.dispatch request).perform (entered request world) =
      (result.mapError .failed, between) ∧ Logged request result between.log := by
  have begun : (entered request world).log = (RequestLog.start request.requestId).noteAll
      [.property "method" request.method,
       .property "access_key" request.authorization.accessKey] := rfl
  rcases discreet.dispatch ends (entered request world) time with ⟨entries, _, noted, _, settled⟩
  rcases dispatched : (service.dispatch request).perform (entered request world) with
    ⟨outcome, between⟩
  rw [dispatched] at noted settled
  rw [begun] at noted
  have requestId : between.log.requestId = request.requestId := by
    rw [noted, RequestLog.requestId_noteAll, RequestLog.requestId_noteAll]
    rfl
  have tidy : between.log.Tidy := by
    rw [noted]
    exact ((RequestLog.tidy_start _).noteAll _).noteAll entries
  match outcome with
  | .error .outOfCalendar => exact settled.elim
  | .error (.failed error) => exact ⟨.error error, between, rfl, requestId, tidy, nofun⟩
  | .ok response =>
      refine ⟨.ok response, between, rfl, requestId, tidy, fun _ _ => ?_⟩
      rw [noted, RequestLog.errors_noteAll settled.2]
      rfl

/-- Every request that a gateway reads is answered, and reported once.  Nobody whom the gateway
asks has to answer in any way, as long as they leave its log alone.  The report has the status
and the identifier of the answer; it is a warning, with errors, exactly if the request has
failed, and then the document that tells the client has the same identifier.  To whatever a
store answers in full, the request has not failed. -/
theorem report_of_handle {service : GatewayService Outside} {shown : Calendar.Moment → Prop}
    (discreet : service.Discreet shown) {arrival : Arrival} {world : World Outside}
    (time : shown world.now) {request : StoreRequest}
    (reads : service.readsAs (Supply.identifier world.supply) arrival = some request)
    (ends : request.EndsInCalendar) :
    ∃ result between handled event,
      (service.dispatch request).perform (entered request world) =
          (result.mapError .failed, between) ∧
        ((service.handle arrival).run world).1 = some handled ∧
        request.requestId = Supply.identifier world.supply ∧
        Reports request result handled event ∧
        ∀ outbound made reply after,
          request.authorization.service ≠ SigningService.sts.name →
          (service.pipeline.process request).perform (entered request world) =
            (.ok outbound, made) →
          (service.transport.send outbound.method outbound.uri.render
            (Http.Fields.pairs outbound.headers) outbound.body).run made =
              (.answered reply true, after) →
          result = .ok (relayed reply) := by
  rcases discreet.exists_logged time ends with ⟨result, between, dispatched, logged⟩
  have identified := requestId_of_readsAs reads
  have plain : Xml.escape request.requestId = request.requestId := by
    rw [identified]
    exact Xml.escape_identifier world.supply
  have handled := run_handle reads dispatched
  rw [← identified] at handled
  refine ⟨result, between, _, _, dispatched, handled, identified, logged.reports plain, ?_⟩
  intro outbound made reply after other processed answered
  rw [dispatch_of_answered other processed answered] at dispatched
  have done := (congrArg Prod.fst dispatched).symm
  exact Result.mapError_eq_ok_iff.mp done

end GatewayService

/-! ## The report of a client's request -/

namespace Client

/-- The source of the client's gateway is what settings ask for. -/
theorem source_roleService :
    fileSettings.source recordFiles offline = .ok roleService.pipeline.credentials := by
  rcases exists_fileSource with ⟨source, made⟩
  rcases CredentialSettings.exists_listed_of_source rfl made with ⟨records, listed, given⟩
  cases eq_of_lists listed
  have credentials : source = roleService.pipeline.credentials := given
  rw [made, credentials]

theorem endpoint_roleService : roleService.pipeline.endpoint = Addressing.standard.rule := by
  dsimp only [roleService, Pipeline.standard]

/-- The gateway of the client is what settings ask for, at the time at which the client asks. -/
theorem configured_roleService :
    roleService.Configured fun moment => moment = clock.now := by
  have unreachable : ∀ sent, (Attempt.act (offline sent)).Discreet
      (fun moment => moment = clock.now) fun _ => True :=
    fun _ => Attempt.discreet_act fun _ time => ⟨rfl, time, trivial⟩
  have room : clock.now.HasRoom := by
    unfold Calendar.Moment.HasRoom
    decide +kernel
  exact ⟨⟨fileSettings, recordFiles, offline, unreachable, fun _ moment now => now ▸ room,
    source_roleService⟩, Or.inl ⟨PolicySettings.standard, offline, unreachable, rfl⟩,
    ⟨fun _ => none, rfl⟩,
    ⟨StoreSettings.standard, recordFiles, rfl⟩, ⟨Addressing.standard, endpoint_roleService⟩,
    unreachable⟩

/-- The same gateway without any records. -/
def bareService : GatewayService Unit :=
  { roleService with
    pipeline := { roleService.pipeline with
      credentials := CredentialSource.ofLookup (Directory.ofRecords []).lookup } }

theorem discreet_bareService : bareService.Discreet fun moment => moment = clock.now :=
  configured_roleService.discreet.withCredentials (fun _ _ => Attempt.discreet_pure trivial)
    fun _ => Attempt.discreet_pure trivial

/-- Without records, nobody is known. -/
theorem RoleAsked.exists_refusal {request : StoreRequest} (asked : RoleAsked request)
    (world : World Unit) :
    ∃ error, (bareService.dispatch request).perform world = (.error (.failed error), world) := by
  have named : SigningService.ofName? request.authorization.service = some .sts := by
    rw [asked.role]
    rfl
  have refused : ∃ error, (bareService.pipeline.authenticate request).perform world =
      (.error (.failed error), world) := by
    rw [Pipeline.authenticate_eq named]
    exact ⟨_, rfl⟩
  rcases refused with ⟨error, refused⟩
  unfold GatewayService.dispatch
  rw [if_pos asked.role]
  exact ⟨error, Attempt.perform_bind_of_error refused _⟩

/-- The role that the client asks for is reported with the identifier that the client is told.
Where nobody is known, the same message is reported as a failure. -/
theorem report_of_role :
    ∃ fields,
      (∃ handled event,
        ((roleService.handle ⟨"GET", roleUri, fields, .whole []⟩).run Client.world).1 =
            some handled ∧
          handled.event = some event ∧ event.level = .info ∧ event.errors = none ∧
          event.requestId = Supply.identifier Client.world.supply) ∧
      ∃ handled event document,
        ((bareService.handle ⟨"GET", roleUri, fields, .whole []⟩).run Client.world).1 =
            some handled ∧
          handled.event = some event ∧ event.level = .warning ∧
          handled.response.body = Utf8.bytesOf document ∧
          Xml.textsOf "RequestId" document = [event.requestId] := by
  rcases exists_roleAsked (Supply.identifier Client.world.supply) with
    ⟨fields, request, reads, asked⟩
  have ends : request.EndsInCalendar := by
    intro lifetime moment presigned
    rcases asked.back with ⟨day, back⟩
    rw [back.authorization] at presigned
    cases presigned
  refine ⟨fields, ?_, ?_⟩
  · have answered : ∃ response after, (roleService.dispatch request).perform
        (GatewayService.entered request Client.world) = (.ok response, after) :=
      asked.exists_dispatch rfl rfl
    rcases answered with ⟨response, after, done⟩
    rcases GatewayService.report_of_handle configured_roleService.discreet rfl reads ends with
      ⟨result, between, handled, event, dispatched, report, identified, reports, _⟩
    rw [done] at dispatched
    have passed : result = .ok response :=
      Result.mapError_eq_ok_iff.mp (congrArg Prod.fst dispatched).symm
    rcases reports.passed response passed with ⟨level, errors, _⟩
    exact ⟨handled, event, report, reports.single, level, errors,
      reports.identified.trans identified⟩
  · rcases asked.exists_refusal (GatewayService.entered request Client.world) with ⟨error, refused⟩
    have sameReads : bareService.readsAs (Supply.identifier Client.world.supply)
        ⟨"GET", roleUri, fields, .whole []⟩ = some request := reads
    rcases GatewayService.report_of_handle discreet_bareService rfl sameReads ends with
      ⟨result, between, handled, event, dispatched, report, _, reports, _⟩
    rw [refused] at dispatched
    cases result with
    | ok response => cases congrArg Prod.fst dispatched
    | error other =>
        rcases reports.failed other rfl with ⟨level, _, _, document, written, texts⟩
        exact ⟨handled, event, document, report, reports.single, level, written,
          reports.identified ▸ texts⟩

end Client
end SignedGateway
