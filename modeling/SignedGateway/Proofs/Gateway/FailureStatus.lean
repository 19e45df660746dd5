import SignedGateway.Proofs.Gateway.Audit
import SignedGateway.Proofs.Gateway.Blame
import SignedGateway.Proofs.Signature.Lifetime

namespace SignedGateway

/-!
# The status of a request that fails

A request may fail at every stage, and each time its answer has the status of the error.  The
statuses that the gateway makes say that the client or the gateway has failed.  A credentials
service that refuses a lookup makes its own, and that one is passed on.  No success is, but a
service may as well redirect or say that nothing has changed.
-/

variable {Outside : Type}

/-! ## Sources of records -/

/-- In this world the service refuses a lookup with a status that is no success, and the error
passes that status on.  Expired sessions may have been given up before. -/
def CredentialService.Relays (service : CredentialService) (transport : Http.Transport Outside)
    (accessKey : String) (token : Option String) (error : GatewayError) (world : World Outside) :
    Prop :=
  ∃ (sessions : SessionStore) (reply : Http.Response) (complete : Bool),
    ((transport.send "GET" (service.lookupUrl accessKey token) service.headers []).run
        { world with sessions := sessions }).1 = .answered reply complete ∧
      reply.status ≠ 404 ∧ Http.isSuccess reply.status = false ∧ error.status = reply.status

/-- The credentials service that settings name passes a status on. -/
def CredentialSettings.Relays (settings : CredentialSettings) (transport : Http.Transport Outside)
    (accessKey : String) (token : Option String) (error : GatewayError) (world : World Outside) :
    Prop :=
  settings.provider = .http ∧ ∃ endpoint service, settings.httpEndpoint = some endpoint ∧
    CredentialService.make endpoint settings.httpHeaders (settings.httpCacheSize != 0) =
      .ok service ∧
    service.Relays transport accessKey token error world

/-- Every error of the attempt says that it is a failure, or is passed on in the world in which
the attempt began. -/
def Attempt.Traces {α : Type} (attempt : Attempt Outside α)
    (relayed : GatewayError → World Outside → Prop) : Prop :=
  ∀ world error, (attempt.perform world).1 = .error (.failed error) →
    error.SaysFailure ∨ relayed error world

namespace CredentialService

/-- An exchange fails with a status of the gateway, or with that of a reply. -/
theorem interpret_eq_error {exchange : Http.Exchange} {error : GatewayError}
    (failed : interpret exchange = .error error) :
    error.SaysFailure ∨ ∃ reply complete, exchange = .answered reply complete ∧
      reply.status ≠ 404 ∧ Http.isSuccess reply.status = false ∧ error.status = reply.status := by
  cases exchange with
  | unreachable detail =>
      cases failed
      exact Or.inl (GatewayError.saysFailure_of_own nofun)
  | answered reply complete =>
      unfold interpret at failed
      dsimp only at failed
      split_ifs at failed with unknown refused whole blank
      · cases failed
        rw [Bool.not_eq_true'] at refused
        exact Or.inr ⟨reply, complete, rfl, unknown, refused, rfl⟩
      · cases failed
        exact Or.inl (GatewayError.saysFailure_of_own nofun)
      · split at failed
        · cases failed
        · cases failed
          exact Or.inl (GatewayError.saysFailure_of_own nofun)

theorem traces_fetch (service : CredentialService) (transport : Http.Transport Outside)
    (accessKey : String) (token : Option String) :
    (service.fetch transport accessKey token).Traces
      (service.Relays transport accessKey token) := by
  intro world error ended
  rcases Attempt.perform_bind_eq_error ended with unasked | ⟨exchange, between, asked, failed⟩
  · rw [Attempt.perform_act] at unasked
    cases unasked
  · rw [Attempt.perform_act, Prod.mk.injEq, Except.ok.injEq] at asked
    have refused := interpret_eq_error (Attempt.eq_error_of_perform_ofExcept failed)
    refine refused.imp_right ?_
    rintro ⟨reply, complete, rfl, refusal⟩
    exact ⟨world.sessions, reply, complete, asked.1, refusal⟩

/-- Answers that are kept are no failures. -/
theorem traces_lookup (service : CredentialService) (transport : Http.Transport Outside)
    (accessKey : String) (token : Option String) :
    (service.lookup transport accessKey token).Traces
      (service.Relays transport accessKey token) := by
  unfold lookup
  split_ifs
  · intro world error ended
    have present : (get : Attempt Outside (World Outside)).perform world = (.ok world, world) := rfl
    unfold fetchOnce at ended
    rw [Attempt.perform_bind_of_ok present] at ended
    cases kept : world.cache.lookup (accessKey, token) with
    | some answer =>
        rw [kept] at ended
        cases ended
    | none =>
        rw [kept] at ended
        rcases Attempt.perform_bind_eq_error ended with failed | ⟨_, _, _, failed⟩
        · exact service.traces_fetch transport accessKey token world error failed
        · cases failed
  · exact service.traces_fetch transport accessKey token

end CredentialService

namespace CredentialSettings

variable {settings : CredentialSettings} {files : Files} {transport : Http.Transport Outside}

theorem Relays.of_sessions {accessKey : String} {token : Option String} {error : GatewayError}
    {world : World Outside} {sessions : SessionStore}
    (relays : settings.Relays transport accessKey token error { world with sessions := sessions }) :
    settings.Relays transport accessKey token error world := by
  rcases relays with ⟨asks, endpoint, service, named, made, sessions, reply, complete, refusal⟩
  exact ⟨asks, endpoint, service, named, made, sessions, reply, complete, refusal⟩

theorem traces_recordLookup {lookup : RecordLookup Outside}
    (found : settings.recordLookup files transport = .ok lookup) (accessKey : String)
    (token : Option String) :
    (lookup accessKey token).Traces (settings.Relays transport accessKey token) := by
  rcases recordLookup_cases found with
    ⟨directory, rfl⟩ | ⟨asks, endpoint, service, named, made, rfl⟩
  · exact fun _ _ none => nomatch none
  · intro world error ended
    exact (service.traces_lookup transport accessKey token world error ended).imp_right
      fun relays => ⟨asks, endpoint, service, named, made, relays⟩

end CredentialSettings

namespace Session

variable {settings : CredentialSettings} {transport : Http.Transport Outside}
  {elsewhere : RecordLookup Outside}
  (lookups : ∀ accessKey token,
    (elsewhere accessKey token).Traces (settings.Relays transport accessKey token))

include lookups

theorem traces_lookupFirst (accessKey : String) (token : Option String) :
    (lookupFirst elsewhere accessKey token).Traces
      (settings.Relays transport accessKey token) := by
  intro world error ended
  rw [perform_lookupFirst] at ended
  cases found : (world.sessions.lookup accessKey token world.now).1 with
  | some record =>
      rw [found] at ended
      cases ended
  | none =>
      rw [found] at ended
      exact (lookups accessKey token _ error ended).imp_right
        CredentialSettings.Relays.of_sessions

/-- Once the caller is found, a session begins or the calendar ends. -/
theorem traces_assume (asked : RoleRequest) :
    (assume elsewhere asked).Traces
      (settings.Relays transport asked.caller.accessKey asked.caller.session) := by
  intro world error ended
  rcases Attempt.perform_bind_eq_error ended with failed | ⟨found, between, _, failed⟩
  · exact lookups _ _ world error failed
  · cases found with
    | none => cases failed
    | some base =>
        dsimp only at failed
        split_ifs at failed
        · rcases Attempt.perform_bind_eq_error failed with begun | ⟨_, _, _, begun⟩
          · rcases begin_cases base asked between with ⟨_, late⟩ | ⟨_, _, _, done, _⟩
            · rw [late] at begun
              cases begun
            · rw [done] at begun
              cases begun
          · cases begun
        · cases failed

end Session

/-- The source that settings ask for fails by itself, or with a status that is passed on. -/
theorem CredentialSettings.traces_source {settings : CredentialSettings} {files : Files}
    {transport : Http.Transport Outside} {source : CredentialSource Outside}
    (made : settings.source files transport = .ok source) :
    (∀ accessKey token,
      (source.lookup accessKey token).Traces (settings.Relays transport accessKey token)) ∧
      ∀ asked, (source.assumeRole asked).Traces
        (settings.Relays transport asked.caller.accessKey asked.caller.session) := by
  rcases Result.bind_eq_ok_iff.mp made with ⟨lookup, found, given⟩
  cases given
  have lookups := traces_recordLookup found
  cases settings.assumedRoles with
  | true => exact ⟨Session.traces_lookupFirst lookups, Session.traces_assume lookups⟩
  | false => exact ⟨lookups, fun _ _ _ none => nomatch none⟩

/-! ## Requests that fail -/

namespace GatewayService

/-- A gateway of the parts that settings ask for.  If its records are kept by a service, that one
is reached by a transport.  Policy, connections and address rule may be supplied instead, and then
fail with errors that are supplied. -/
structure Built (service : GatewayService Outside) (settings : CredentialSettings)
    (transport : Http.Transport Outside) (supplied : GatewayError → Prop) : Prop where
  credentials : ∃ files, settings.source files transport = .ok service.pipeline.credentials
  policy : service.pipeline.policy.FailsOnly supplied
  connections : (∃ (settings : StoreSettings) (files : Files),
      settings.connections files = .ok service.pipeline.connections) ∨
    ConnectionRule.FailsOnly service.pipeline.connections supplied
  endpoint : (∃ addressing : Addressing, service.pipeline.endpoint = addressing.rule) ∨
    EndpointRule.FailsOnly service.pipeline.endpoint supplied

/-- The handling of a message fails with an error: its body is not accepted, it makes no request,
or the request is not served. -/
inductive Fails (service : GatewayService Outside) (arrival : Arrival) (world : World Outside) :
    GatewayError → Prop where
  | body {error : GatewayError} (other : isHealthCheck arrival = false)
      (refused : acceptBody service.maxBody arrival.body = .error error) :
      Fails service arrival world error
  | message {body : List UInt8} {error : GatewayError} (other : isHealthCheck arrival = false)
      (accepted : acceptBody service.maxBody arrival.body = .ok body)
      (unread : Incoming.read ⟨arrival.method, arrival.uri, arrival.headers, body⟩ service.ownPath
        (Supply.identifier world.supply) = .error error) :
      Fails service arrival world error
  | request {request : StoreRequest} {error : GatewayError}
      (reads : service.readsAs (Supply.identifier world.supply) arrival = some request)
      (ended : ((service.dispatch request).perform (entered request world)).1 =
        .error (.failed error)) :
      Fails service arrival world error

/-- A request that fails is answered with the status of its error. -/
theorem Fails.status {service : GatewayService Outside} {arrival : Arrival} {world : World Outside}
    {error : GatewayError} (fails : service.Fails arrival world error) :
    ∃ handled, ((service.handle arrival).run world).1 = some handled ∧
      handled.response.status = error.status := by
  cases fails with
  | body other refused =>
      rw [run_handle_eq, respond, other, refused]
      exact ⟨_, rfl, rfl⟩
  | message other accepted unread =>
      rw [run_handle_eq, respond, other, accepted]
      dsimp only
      rw [unread]
      exact ⟨_, rfl, rfl⟩
  | @request request error reads ended =>
      rcases dispatched : (service.dispatch request).perform (entered request world) with
        ⟨outcome, between⟩
      rw [dispatched] at ended
      cases ended
      have result : (service.dispatch request).perform (entered request world) =
          ((Except.error error : Except GatewayError Http.Response).mapError .failed, between) :=
        dispatched
      exact ⟨_, run_handle reads result, rfl⟩

/-- What is looked up for a request that is taken over in a world: the record of the one who has
signed it, and for a role, once that one is verified, the record of the caller. -/
inductive LooksUp (service : GatewayService Outside) (request : StoreRequest)
    (world : World Outside) : String → Option String → World Outside → Prop where
  | signer : LooksUp service request world request.authorization.accessKey
      request.authorization.securityToken world
  | caller {context : SigningContext} {asked : World Outside}
      (role : request.authorization.service = SigningService.sts.name)
      (verified : (service.pipeline.authenticate request).perform world = (.ok context, asked)) :
      LooksUp service request world context.record.emulated.accessKey
        context.record.emulated.session asked

namespace Built

variable {service : GatewayService Outside} {settings : CredentialSettings}
  {transport : Http.Transport Outside} {supplied : GatewayError → Prop}
  (built : service.Built settings transport supplied)

include built

theorem traces_authenticate (request : StoreRequest) :
    (service.pipeline.authenticate request).Traces
      (settings.Relays transport request.authorization.accessKey
        request.authorization.securityToken) := by
  rcases built.credentials with ⟨files, made⟩
  have lookups := (CredentialSettings.traces_source made).1
  intro world error ended
  cases named : SigningService.ofName? request.authorization.service with
  | none =>
      unfold Pipeline.authenticate at ended
      dsimp only at ended
      rw [named] at ended
      cases ended
      exact Or.inl (GatewayError.saysFailure_of_own nofun)
  | some kind =>
      rw [Pipeline.authenticate_eq named] at ended
      rcases Attempt.perform_bind_eq_error ended with failed | ⟨found, between, _, failed⟩
      · exact lookups _ _ world error failed
      · left
        cases found with
        | none =>
            cases failed
            exact GatewayError.saysFailure_of_own nofun
        | some record =>
            have lets : (service.pipeline.letIn request kind record).FailsOnly (fun _ => True)
                GatewayError.SaysFailure := by
              refine (Attempt.failsOnly_act _).bind fun clock _ => ?_
              refine (Attempt.failsOnly_ofCheck _).bind fun _ _ => ?_
              exact (Attempt.failsOnly_ofCheck _).bind fun _ _ => Attempt.failsOnly_pure trivial
            exact (lets between).2 error failed

theorem failsOnly_connections :
    ConnectionRule.FailsOnly service.pipeline.connections
      fun error => error.SaysFailure ∨ supplied error := by
  rcases built.connections with ⟨_, _, made⟩ | fails
  · exact (StoreSettings.failsOnly_connections made).mono fun _ => Or.inl
  · exact fails.mono fun _ => Or.inr

theorem failsOnly_endpoint :
    EndpointRule.FailsOnly service.pipeline.endpoint
      fun error => error.SaysFailure ∨ supplied error := by
  rcases built.endpoint with ⟨addressing, addressed⟩ | fails
  · rw [addressed]
    exact addressing.failsOnly_rule.mono fun _ => Or.inl
  · exact fails.mono fun _ => Or.inr

theorem deliver (context : SigningContext) (resolved : StoreRequest) :
    (service.pipeline.deliver context resolved).FailsOnly (fun _ => True)
      fun error => error.SaysFailure ∨ supplied error := by
  refine (built.failsOnly_connections context resolved).bind fun found rules => ?_
  cases found with
  | none => exact Attempt.failsOnly_fail (Or.inl (GatewayError.saysFailure_of_own nofun))
  | some connection =>
      have placed : EndpointRule.FailsOnly (connection.endpoint.getD service.pipeline.endpoint)
          fun error => error.SaysFailure ∨ supplied error := by
        cases own : connection.endpoint with
        | none => exact built.failsOnly_endpoint
        | some rule => exact rules connection rfl rule own
      refine ((placed _).bind fun uri _ => (Attempt.failsOnly_act _).bind fun now _ =>
        Attempt.failsOnly_ofExcept
          ((Outbound.failsOnly_assemble _ _ _ _ _ _ uri).mono fun _ => Or.inl)).bind
            fun outbound _ => ?_
      exact (Attempt.failsOnly_act _).bind fun _ _ => Attempt.failsOnly_pure trivial

theorem route (request : StoreRequest) (context : SigningContext) :
    (service.pipeline.route request context).FailsOnly (fun _ => True)
      fun error => error.SaysFailure ∨ supplied error := by
  rw [Pipeline.route_eq]
  refine (built.policy.verdict request context).bind fun decision _ => ?_
  refine (Attempt.failsOnly_ofExcept
    (decision.failsOnly_toExcept.mono fun _ => Or.inl)).bind fun _ _ => ?_
  refine (Attempt.failsOnly_act _).bind fun resolved _ => ?_
  refine (Attempt.failsOnly_act _).bind fun _ _ => ?_
  exact (Attempt.failsOnly_act _).bind fun _ _ => built.deliver context resolved

/-- The errors of a request that is not served are the gateway's own, or were supplied, or pass on
a status from a lookup. -/
theorem dispatch {request : StoreRequest} {world : World Outside} {error : GatewayError}
    (ended : ((service.dispatch request).perform world).1 = .error (.failed error)) :
    error.SaysFailure ∨ supplied error ∨
      ∃ accessKey token asked, service.LooksUp request world accessKey token asked ∧
        settings.Relays transport accessKey token error asked := by
  unfold GatewayService.dispatch at ended
  by_cases role : request.authorization.service = SigningService.sts.name
  · rw [if_pos role] at ended
    rcases Attempt.perform_bind_eq_error ended with failed | ⟨context, asked, done, failed⟩
    · exact (built.traces_authenticate request world error failed).imp_right fun relays =>
        Or.inr ⟨_, _, world, .signer, relays⟩
    · rcases built.credentials with ⟨files, made⟩
      rcases Attempt.perform_bind_eq_error failed with unread | ⟨wish, same, read, refused⟩
      · exact Or.inl ((Attempt.failsOnly_ofExcept (Role.failsOnly_read request context) asked).2
          error unread)
      · rw [Attempt.perform_ofExcept, Prod.mk.injEq] at read
        rcases read with ⟨read, rfl⟩
        have caller := (Role.read_eq_ok (Result.mapError_eq_ok_iff.mp read)).1
        rcases Attempt.perform_bind_eq_error refused with given | ⟨assumed, _, _, none⟩
        · have traced := (CredentialSettings.traces_source made).2 wish asked error given
          rw [caller] at traced
          exact traced.imp_right fun relays => Or.inr ⟨_, _, asked, .caller role done, relays⟩
        · cases assumed with
          | none =>
              cases none
              exact Or.inl (GatewayError.saysFailure_of_own nofun)
          | some assumed => cases none
  · rw [if_neg role] at ended
    rcases Attempt.perform_bind_eq_error ended with failed | ⟨outbound, between, _, failed⟩
    · rw [Pipeline.process_eq] at failed
      rcases Attempt.perform_bind_eq_error failed with unverified | ⟨context, asked, _, stopped⟩
      · exact (built.traces_authenticate request world error unverified).imp_right fun relays =>
          Or.inr ⟨_, _, world, .signer, relays⟩
      · unfold Pipeline.proceed at stopped
        cases kind : context.service with
        | s3 =>
            rw [kind] at stopped
            exact ((built.route request context asked).2 error stopped).imp_right Or.inl
        | sts =>
            rw [kind] at stopped
            cases stopped
            exact Or.inl (GatewayError.saysFailure_of_own nofun)
    · have forwards : (service.forward outbound).FailsOnly (fun _ => True)
          GatewayError.SaysFailure :=
        (Attempt.failsOnly_act _).bind fun exchange _ =>
          Attempt.failsOnly_ofExcept (failsOnly_interpret exchange)
      exact Or.inl ((forwards between).2 error failed)

end Built

/-- A request that fails is answered with the status of its error.  That tells of a failure, unless
the error was supplied, or the credentials service has refused a lookup for the request with
another status.  In the second case the status is that of the service's reply, which is no
success. -/
theorem status_of_failure {service : GatewayService Outside} {settings : CredentialSettings}
    {transport : Http.Transport Outside} {supplied : GatewayError → Prop}
    (built : service.Built settings transport supplied) {arrival : Arrival} {world : World Outside}
    {error : GatewayError} (fails : service.Fails arrival world error) :
    ∃ handled, ((service.handle arrival).run world).1 = some handled ∧
      handled.response.status = error.status ∧
      ((400 ≤ handled.response.status ∧ handled.response.status ≤ 599) ∨ supplied error ∨
        ∃ request accessKey token asked,
          service.readsAs (Supply.identifier world.supply) arrival = some request ∧
          service.LooksUp request (entered request world) accessKey token asked ∧
          settings.Relays transport accessKey token error asked) := by
  rcases fails.status with ⟨handled, answered, status⟩
  refine ⟨handled, answered, status, ?_⟩
  rw [status]
  cases fails with
  | body other refused => exact Or.inl (failsOnly_acceptBody _ _ error refused)
  | message other accepted unread => exact Or.inl (Incoming.failsOnly_read _ _ _ error unread)
  | @request request error reads ended =>
      refine (built.dispatch ended).imp_right (Or.imp_right ?_)
      rintro ⟨accessKey, token, asked, looks, relays⟩
      exact ⟨request, accessKey, token, asked, reads, looks, relays⟩

end GatewayService

/-! ## Messages of the client that fail -/

namespace Client

theorem built_roleService : roleService.Built fileSettings offline fun _ => False :=
  ⟨⟨recordFiles, source_roleService⟩, .allowAll, Or.inl ⟨StoreSettings.standard, recordFiles, rfl⟩,
    Or.inl ⟨Addressing.standard, endpoint_roleService⟩⟩

/-- A day after the client has signed. -/
def later : World Unit :=
  World.start ⟨19724, 0, 0⟩ Supply.repeatable "id" ()

/-- What the gateway makes of a signature that is a day old. -/
def overdue : GatewayError :=
  (AuthError.clockDrift 86400 900).toGatewayError

theorem RoleAsked.refused {request : StoreRequest} (asked : RoleAsked request) {world : World Unit}
    (empty : world.sessions = SessionStore.empty) (now : world.now = later.now) :
    (roleService.pipeline.authenticate request).perform world =
      (.error (.failed overdue), world) := by
  rcases asked.back with ⟨day, back⟩
  have unlimited : request.authorization.expires = none := by
    rw [back.authorization]
    rfl
  have dated : request.date = date := back.date
  have drifted : Clock.checkDrift ⟨later.now, clock.maxDrift⟩ date =
      .error (.clockDrift 86400 900) := by
    decide +kernel
  have parts : Signature.coveredParts .sha256 ⟨world.now, clock.maxDrift⟩ request =
      .error (.failed (.clockDrift 86400 900)) := by
    rw [Signature.coveredParts, unlimited, dated, now]
    dsimp only
    rw [drifted]
  have unverified : Signature.verify roleService.pipeline.suite
      ⟨world.now, roleService.pipeline.maxDrift⟩ record request = _ :=
    Signature.verify_of_halt parts
  rw [Pipeline.authenticate_eq asked.named, Attempt.perform_bind_of_ok (asked.looked empty)]
  change (roleService.pipeline.letIn request .sts record).perform world = _
  rw [Pipeline.perform_letIn, Pipeline.checks, unverified]
  rfl

/-- The client's message fails at its gateway a day too late. -/
theorem exists_fails_roleService :
    ∃ fields, roleService.Fails ⟨"GET", roleUri, fields, .whole []⟩ later overdue := by
  rcases exists_roleAsked (Supply.identifier later.supply) with ⟨fields, request, reads, asked⟩
  refine ⟨fields, .request reads ?_⟩
  have refused : (roleService.pipeline.authenticate request).perform
      (GatewayService.entered request later) = _ := asked.refused rfl rfl
  unfold GatewayService.dispatch
  rw [if_pos asked.role, Attempt.perform_bind_of_error refused]

/-- Every reply that comes over this transport has the status. -/
def replying (status : Nat) : Http.Transport Unit :=
  fun _ => pure (.answered ⟨status, [], []⟩ true)

def lookupSettings : CredentialSettings :=
  { CredentialSettings.standard with provider := .http, httpEndpoint := some "http://records" }

/-- The gateway of the client with its records kept by a service. -/
def lookupService (status : Nat) : GatewayService Unit :=
  { roleService with
    pipeline := { roleService.pipeline with
      credentials := CredentialSource.ofLookup
        (CredentialService.lookup ⟨"http://records", [], false⟩ (replying status)) } }

theorem built_lookupService (status : Nat) :
    (lookupService status).Built lookupSettings (replying status) fun _ => False := by
  have made : CredentialService.make "http://records" [] false =
      .ok ⟨"http://records", [], false⟩ := by
    have trimmed : Text.trimMarkEnd '/' "http://records" = "http://records" := by
      decide +kernel
    unfold CredentialService.make
    rw [trimmed]
    rfl
  have endpoint : (lookupService status).pipeline.endpoint = Addressing.standard.rule := by
    dsimp only [lookupService]
    exact endpoint_roleService
  refine ⟨⟨recordFiles, ?_⟩, .allowAll, Or.inl ⟨StoreSettings.standard, recordFiles, rfl⟩,
    Or.inl ⟨Addressing.standard, endpoint⟩⟩
  change ((CredentialService.make "http://records" [] false >>= fun service =>
    .ok (service.lookup (replying status))) >>=
      fun lookup => .ok (CredentialSource.ofLookup lookup)) = _
  rw [made]
  rfl

/-- What the gateway makes of a reply that gives no record. -/
def refusedLookup (status : Nat) : GatewayError :=
  .provider (some status) ("credentials service returned " ++ Http.statusText status)

/-- A client whose record is not given cannot be verified. -/
theorem exists_fails_lookupService {status : Nat}
    (refused : CredentialService.interpret (.answered ⟨status, [], []⟩ true) =
      .error (refusedLookup status)) :
    ∃ fields, (lookupService status).Fails ⟨"GET", roleUri, fields, .whole []⟩ Client.world
      (refusedLookup status) := by
  rcases exists_roleAsked (Supply.identifier Client.world.supply) with
    ⟨fields, request, reads, asked⟩
  have sameReads : (lookupService status).readsAs (Supply.identifier Client.world.supply)
      ⟨"GET", roleUri, fields, .whole []⟩ = some request := by
    unfold GatewayService.readsAs at reads ⊢
    exact reads
  have signer : request.authorization.accessKey = "client" ∧
      request.authorization.securityToken = none := by
    rcases asked.back with ⟨day, back⟩
    rw [back.authorization]
    exact ⟨rfl, rfl⟩
  have address : ∃ address, Wire.parse?
      (CredentialService.lookupUrl ⟨"http://records", [], false⟩ "client" none) = some address :=
    Option.isSome_iff_exists.mp (by decide +kernel)
  rcases address with ⟨address, parsed⟩
  have sent (world : World Unit) : (Attempt.act ((replying status).send "GET"
      (CredentialService.lookupUrl ⟨"http://records", [], false⟩ "client" none) [] [])).perform
        world = (.ok (.answered ⟨status, [], []⟩ true), world) := by
    rw [Attempt.perform_act, Http.Transport.send, parsed]
    rfl
  have failed (world : World Unit) :
      ((lookupService status).pipeline.authenticate request).perform world =
        (.error (.failed (refusedLookup status)), world) := by
    rw [Pipeline.authenticate_eq asked.named, signer.1, signer.2]
    apply Attempt.perform_bind_of_error
    change (CredentialService.fetch ⟨"http://records", [], false⟩ (replying status) "client"
      none).perform world = _
    unfold CredentialService.fetch
    rw [Attempt.perform_bind_of_ok (sent world), Attempt.perform_ofExcept, refused]
    rfl
  refine ⟨fields, .request sameReads ?_⟩
  unfold GatewayService.dispatch
  rw [if_pos asked.role, Attempt.perform_bind_of_error (failed _)]

/-- The client's message fails a day too late, and it fails where its records are kept by a service
that cannot be had.  Either answer says so. -/
theorem status_of_failing_messages :
    (∃ fields handled,
      roleService.Fails ⟨"GET", roleUri, fields, .whole []⟩ later overdue ∧
        ((roleService.handle ⟨"GET", roleUri, fields, .whole []⟩).run later).1 = some handled ∧
        400 ≤ handled.response.status ∧ handled.response.status ≤ 599) ∧
      ∃ fields handled,
        (lookupService 503).Fails ⟨"GET", roleUri, fields, .whole []⟩ Client.world
          (refusedLookup 503) ∧
        (((lookupService 503).handle ⟨"GET", roleUri, fields, .whole []⟩).run Client.world).1 =
            some handled ∧
        handled.response.status = 503 := by
  constructor
  · rcases exists_fails_roleService with ⟨fields, fails⟩
    rcases GatewayService.status_of_failure built_roleService fails with
      ⟨handled, answered, _, failure | supplied | ⟨_, _, _, _, _, _, asks, _⟩⟩
    · exact ⟨fields, handled, fails, answered, failure⟩
    · exact supplied.elim
    · cases asks
  · have refused : CredentialService.interpret (.answered ⟨503, [], []⟩ true) =
        .error (refusedLookup 503) := rfl
    rcases exists_fails_lookupService refused with ⟨fields, fails⟩
    rcases GatewayService.status_of_failure (built_lookupService 503) fails with
      ⟨handled, answered, status, _⟩
    exact ⟨fields, handled, fails, answered, status⟩

/-- The client's message fails at a gateway whose records are kept by a service, and its answer
tells the client that nothing has changed. -/
theorem status_of_refused_lookup :
    (lookupService 304).Built lookupSettings (replying 304) (fun _ => False) ∧
      ∃ fields handled,
        (lookupService 304).Fails ⟨"GET", roleUri, fields, .whole []⟩ Client.world
          (refusedLookup 304) ∧
        (((lookupService 304).handle ⟨"GET", roleUri, fields, .whole []⟩).run Client.world).1 =
            some handled ∧
          handled.response.status = 304 ∧
          ¬(400 ≤ handled.response.status ∧ handled.response.status ≤ 599) := by
  have refused : CredentialService.interpret (.answered ⟨304, [], []⟩ true) =
      .error (refusedLookup 304) := rfl
  rcases exists_fails_lookupService refused with ⟨fields, fails⟩
  rcases fails.status with ⟨handled, answered, status⟩
  have unmodified : handled.response.status = 304 := status
  refine ⟨built_lookupService 304, fields, handled, fails, answered, unmodified, ?_⟩
  rw [unmodified]
  decide

end Client
end SignedGateway
