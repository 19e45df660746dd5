import SignedGateway.Proofs.Gateway.Stages
import SignedGateway.Proofs.Result

namespace SignedGateway

/-!
# Passing the pipeline

A request leaves the pipeline only after every collaborator has been asked and has
given an answer that lets it pass.  The first answer that does not is the end of
the request: its error is the result, and nobody else is asked.
-/

/-- An alias changes no more than the object and the parameters. -/
theorem Remapped.exists_getD_applyTo_eq (remapped : Option Remapped) (request : StoreRequest) :
    ∃ bucket key query, (remapped.map (·.applyTo request)).getD request =
      { request with bucket := bucket, key := key, query := query } := by
  cases remapped with
  | none => exact ⟨_, _, _, rfl⟩
  | some remapped =>
      rw [Option.map_some, Option.getD_some, Remapped.applyTo]
      split <;> exact ⟨_, _, _, rfl⟩

namespace Pipeline

variable {Outside : Type}

/-- The collaborators in the order in which they are asked. -/
def stages : List Stage :=
  [.credentials, .policy, .verdict, .mapping, .connection, .address]

/-- The checks of signature and body against the caller's record, at a given time. -/
def checks (pipeline : Pipeline Outside) (request : StoreRequest) (answered : Calendar.Moment)
    (record : CredentialRecord) : Except (Halt GatewayError) Unit := do
  (Signature.verify pipeline.suite ⟨answered, pipeline.maxDrift⟩ record request).mapError
    (Halt.map AuthError.toGatewayError)
  (Signature.verifyPayload pipeline.suite request.headers request.body).mapError fun fault =>
    .failed fault.toGatewayError

/-- What must hold once the caller's record is found: the checks are passed, and the
signature is one for the store. -/
def admission (pipeline : Pipeline Outside) (request : StoreRequest)
    (answered : Calendar.Moment) (record : CredentialRecord) : Except (Halt GatewayError) Unit := do
  pipeline.checks request answered record
  match SigningService.ofName? request.authorization.service with
  | some .s3 => .ok ()
  | _ => .error (.failed (notProxied .sts))

/-- Whether an answer lets the request pass, and what is reported if it does not. -/
def verdictOn (pipeline : Pipeline Outside) (request : StoreRequest) :
    Call Outside → Except (Halt GatewayError) Unit
  | .lookup _ _ answered (.ok (some record)) => pipeline.admission request answered record
  | .lookup _ _ _ (.ok none) => .error (.failed unknownAccessKey)
  | .lookup _ _ _ (.error halt) => .error halt
  | .bind _ _ answer => answer
  | .judge _ (.ok decision) => decision.toExcept.mapError .failed
  | .judge _ (.error halt) => .error halt
  | .remap .. => .ok ()
  | .connect _ _ (.ok (some _)) => .ok ()
  | .connect _ resolved (.ok none) => .error (.failed (noConnection resolved.bucket))
  | .connect _ _ (.error halt) => .error halt
  | .place _ _ answer => answer.map fun _ => ()
  | .assume .. => .ok ()
  | .send .. => .ok ()

/-- What a request met that every collaborator let pass.  Record, alias, connection and
address are what the collaborators answered in some world; the signature was checked
when the record was found, and the new one made when there was an address. -/
structure Passage (pipeline : Pipeline Outside) (request : StoreRequest) where
  record : CredentialRecord
  answered : Calendar.Moment
  remapped : Option Remapped
  connection : Connection Outside
  uri : Uri
  signedAt : Calendar.Moment
  service : SigningService.ofName? request.authorization.service = some .s3
  found : ∃ before after,
    (pipeline.credentials.lookup request.authorization.accessKey
      request.authorization.securityToken).perform before = (.ok (some record), after) ∧
    after.now = answered
  verified : Signature.verify pipeline.suite ⟨answered, pipeline.maxDrift⟩ record request = .ok ()
  matching : Signature.verifyPayload pipeline.suite request.headers request.body = .ok ()
  mapped : ∃ before after, (pipeline.remap record request).run before = (remapped, after)
  joined : ∃ before after,
    (pipeline.connections ⟨.s3, record, some request.authorization.region⟩
      ((remapped.map (·.applyTo request)).getD request)).perform before =
        (.ok (some connection), after)
  placed : ∃ before after,
    ((connection.endpoint.getD pipeline.endpoint)
      (Outbound.targetOf ((remapped.map (·.applyTo request)).getD request))).perform before =
        (.ok uri, after) ∧
    after.now = signedAt

namespace Passage

variable {pipeline : Pipeline Outside} {request : StoreRequest}

def context (passage : Passage pipeline request) : SigningContext :=
  ⟨.s3, passage.record, some request.authorization.region⟩

/-- The request with its alias resolved. -/
def resolved (passage : Passage pipeline request) : StoreRequest :=
  (passage.remapped.map (·.applyTo request)).getD request

theorem exists_resolved_eq (passage : Passage pipeline request) :
    ∃ bucket key query,
      passage.resolved = { request with bucket := bucket, key := key, query := query } :=
  Remapped.exists_getD_applyTo_eq passage.remapped request

def clock (passage : Passage pipeline request) : Clock :=
  ⟨passage.signedAt, pipeline.maxDrift⟩

/-- All questions with the answers that let the request pass. -/
def calls (passage : Passage pipeline request) : List (Call Outside) :=
  [.lookup request.authorization.accessKey request.authorization.securityToken passage.answered
      (.ok (some passage.record)),
   .bind request passage.context (.ok ()),
   .judge (Policy.actionOf request.rawQuery) (.ok .allowed),
   .remap passage.record request passage.remapped,
   .connect passage.context passage.resolved (.ok (some passage.connection)),
   .place (Outbound.targetOf passage.resolved) passage.signedAt (.ok passage.uri)]

/-- What is made of the request in the end. -/
def outcome (passage : Passage pipeline request) : Except GatewayError OutboundRequest :=
  Outbound.assemble pipeline.suite passage.clock passage.resolved passage.record
    passage.connection.credential passage.connection.role passage.uri

end Passage

/-- The calls are those of a passage, and the result is what comes of it. -/
def Passed (pipeline : Pipeline Outside) (request : StoreRequest) (calls : List (Call Outside))
    (result : Except (Halt GatewayError) OutboundRequest) : Prop :=
  ∃ passage : Passage pipeline request,
    calls = passage.calls ∧ result = passage.outcome.mapError .failed

/-! ## The calls of the pipeline -/

/-- The last part of the way: a connection, the address, and the new request. -/
def deliver (pipeline : Pipeline Outside) (context : SigningContext) (resolved : StoreRequest) :
    Attempt Outside OutboundRequest := do
  let some connection ← pipeline.connections context resolved
    | Attempt.fail (noConnection resolved.bucket)
  let outbound ←
    Outbound.prepare pipeline.suite pipeline.maxDrift pipeline.endpoint connection context.record
      resolved
  Attempt.note (.property "upstream" outbound.uri.render)
  return outbound

theorem route_eq (pipeline : Pipeline Outside) (request : StoreRequest) (context : SigningContext) :
    pipeline.route request context = (do
      let decision ← pipeline.policy.verdict request context
      Attempt.ofExcept decision.toExcept
      let resolved ← Attempt.act (pipeline.resolve context.record request)
      Attempt.note (.property "bucket" resolved.bucket)
      Attempt.note (.property "key" resolved.key)
      pipeline.deliver context resolved) := rfl

/-- The calls of the last part with its result. -/
def Delivered (pipeline : Pipeline Outside) (context : SigningContext) (resolved : StoreRequest)
    (calls : List (Call Outside)) (result : Except (Halt GatewayError) OutboundRequest) : Prop :=
  ∃ connection uri signedAt,
    (∃ before after,
      (pipeline.connections context resolved).perform before = (.ok (some connection), after)) ∧
    (∃ before after,
      ((connection.endpoint.getD pipeline.endpoint) (Outbound.targetOf resolved)).perform before =
        (.ok uri, after) ∧ after.now = signedAt) ∧
    calls = [.connect context resolved (.ok (some connection)),
      .place (Outbound.targetOf resolved) signedAt (.ok uri)] ∧
    result = (Outbound.assemble pipeline.suite ⟨signedAt, pipeline.maxDrift⟩ resolved
      context.record connection.credential connection.role uri).mapError .failed

theorem watched_endpoint_eq (pipeline : Pipeline Outside) (connection : Connection Outside) :
    connection.watched.endpoint.getD pipeline.watched.endpoint =
      EndpointRule.watched (connection.endpoint.getD pipeline.endpoint) := by
  cases own : connection.endpoint <;> simp [Connection.watched, own, Pipeline.watched]

/-- The last step calls nobody: it makes the request and notes where it goes. -/
theorem orderlyAt_noted (verdict : Call Outside → Except (Halt GatewayError) Unit)
    (result : Except GatewayError OutboundRequest)
    {fits : List (Call Outside) → Except (Halt GatewayError) OutboundRequest → Prop}
    (fitting : fits [] (result.mapError .failed)) (world : World (Watched Outside)) :
    Attempt.OrderlyAt verdict [] fits (do
      let outbound ← Attempt.ofExcept result
      Attempt.note (.property "upstream" outbound.uri.render)
      return outbound) world := by
  refine ⟨[], ?_, ?_⟩
  · cases result <;> exact (List.append_nil _).symm
  · have ended : ((do
        let outbound ← Attempt.ofExcept result
        Attempt.note (.property "upstream" outbound.uri.render)
        return outbound : Attempt (Watched Outside) OutboundRequest).perform world).1 =
          result.mapError .failed := by
      cases result <;> rfl
    rw [ended]
    exact Orderly.completed rfl (fun _ member => absurd member List.not_mem_nil) fitting

theorem perform_clock (pipeline : Pipeline Outside) (world : World Outside) :
    (Attempt.act pipeline.clock).perform world = (.ok ⟨world.now, pipeline.maxDrift⟩, world) := rfl

theorem orderlyAt_deliver (pipeline : Pipeline Outside) (context : SigningContext)
    (request resolved : StoreRequest) (world : World (Watched Outside)) :
    Attempt.OrderlyAt (pipeline.verdictOn request) [.connection, .address]
      (pipeline.Delivered context resolved) (pipeline.watched.deliver context resolved) world := by
  have found : pipeline.watched.connections context resolved =
      Option.map Connection.watched <$>
        (pipeline.connections context resolved).watched fun _ => Call.connect context resolved :=
    rfl
  unfold deliver
  rw [found, bind_map_left]
  refine Attempt.orderlyAt_watched_bind ?_ ?_ ?_ world
  · intro _ _
    rfl
  · intro _ _
    rfl
  · intro value start joined connects between _
    cases value with
    | none => exact Or.inl ⟨_, rfl, rfl, rfl⟩
    | some connection =>
        refine Or.inr ⟨rfl, ?_⟩
        dsimp only [Option.map_some]
        unfold Outbound.prepare
        rw [watched_endpoint_eq, bind_assoc]
        refine Attempt.orderlyAt_watched_bind ?_ ?_ ?_ between
        · intro _ _
          rfl
        · intro _ _
          rfl
        · intro uri before after placed later sameTime
          refine Or.inr ⟨rfl, ?_⟩
          rw [bind_assoc]
          apply Attempt.OrderlyAt.after_quiet (Attempt.perform_now later) rfl
          apply orderlyAt_noted
          exact ⟨connection, uri, later.now, ⟨start, joined, connects⟩,
            ⟨before, after, placed, sameTime.symm⟩, rfl, rfl⟩

/-- The calls after the request was verified, with their result. -/
def Routed (pipeline : Pipeline Outside) (request : StoreRequest) (context : SigningContext)
    (calls : List (Call Outside)) (result : Except (Halt GatewayError) OutboundRequest) : Prop :=
  ∃ remapped later,
    (∃ before after, (pipeline.remap context.record request).run before = (remapped, after)) ∧
    calls = .bind request context (.ok ()) ::
      .judge (Policy.actionOf request.rawQuery) (.ok .allowed) ::
      .remap context.record request remapped :: later ∧
    pipeline.Delivered context ((remapped.map (·.applyTo request)).getD request) later result

theorem resolve_eq (pipeline : Pipeline Outside) (record : CredentialRecord)
    (request : StoreRequest) :
    pipeline.resolve record request =
      (fun remapped => (remapped.map (·.applyTo request)).getD request) <$>
        pipeline.remap record request := by
  rw [map_eq_pure_bind]
  apply bind_congr
  intro remapped
  cases remapped <;> rfl

theorem perform_resolve (pipeline : Pipeline Outside) (record : CredentialRecord)
    (request : StoreRequest) (world : World (Watched Outside)) :
    ∃ remapped after,
      (∃ start ended, (pipeline.remap record request).run start = (remapped, ended)) ∧
      (Attempt.act (pipeline.watched.resolve record request)).perform world =
        (.ok ((remapped.map (·.applyTo request)).getD request), after) ∧
      after.calls = world.calls ++ [.remap record request remapped] := by
  let plain := (pipeline.remap record request).run world.unwatched
  have watched : (pipeline.watched.remap record request).run world =
      (plain.1, plain.2.withCalls (world.calls ++ [.remap record request plain.1])) :=
    Act.run_watched (fun _ => Call.remap record request) (pipeline.remap record request) world
  refine ⟨plain.1, plain.2.withCalls (world.calls ++ [.remap record request plain.1]),
    ⟨world.unwatched, plain.2, rfl⟩, ?_, rfl⟩
  rw [Attempt.perform_act, resolve_eq, StateT.run_map, watched]
  rfl

theorem orderlyAt_route (pipeline : Pipeline Outside) (request : StoreRequest)
    (context : SigningContext) (world : World (Watched Outside)) :
    Attempt.OrderlyAt (pipeline.verdictOn request)
      [.policy, .verdict, .mapping, .connection, .address] (pipeline.Routed request context)
      (pipeline.watched.route request context) world := by
  have bound : pipeline.watched.policy.judgeFor request context =
      Policy.Judge.watched <$> (pipeline.policy.judgeFor request context).watched fun _ answer =>
        Call.bind request context (answer.map fun _ => ()) := rfl
  rw [route_eq, Policy.verdict, bound, bind_assoc, bind_map_left]
  refine Attempt.orderlyAt_watched_bind ?_ ?_ ?_ world
  · intro _ _
    rfl
  · intro _ _
    rfl
  · intro judge _ _ _ asked _
    refine Or.inr ⟨rfl, ?_⟩
    have judged : Policy.Judge.watched judge (Policy.actionOf request.rawQuery) =
        (judge (Policy.actionOf request.rawQuery)).watched fun _ =>
          Call.judge (Policy.actionOf request.rawQuery) := rfl
    rw [judged, bind_assoc]
    refine Attempt.orderlyAt_watched_bind ?_ ?_ ?_ asked
    · intro _ _
      rfl
    · intro _ _
      rfl
    · intro decision _ _ _ decided _
      cases decision with
      | denied reason => exact Or.inl ⟨.failed (.authorization reason), rfl, rfl, rfl⟩
      | allowed =>
          refine Or.inr ⟨rfl, ?_⟩
          rw [bind_assoc]
          apply Attempt.OrderlyAt.after_quiet rfl rfl
          apply Attempt.OrderlyAt.after_quiet rfl rfl
          apply Attempt.OrderlyAt.after_quiet rfl rfl
          rcases pipeline.perform_resolve context.record request _ with
            ⟨remapped, _, mapped, resolved, kept⟩
          apply Attempt.OrderlyAt.after_call resolved kept rfl rfl
          apply Attempt.OrderlyAt.after_quiet rfl rfl
          apply Attempt.OrderlyAt.after_quiet rfl rfl
          apply (pipeline.orderlyAt_deliver context request _ _).imp
          intro later result delivered
          exact ⟨remapped, later, mapped, rfl, delivered⟩

/-- The checks of a record that was found, with the service that is asked for. -/
def letIn (pipeline : Pipeline Outside) (request : StoreRequest) (service : SigningService)
    (record : CredentialRecord) : Attempt Outside SigningContext := do
  let clock ← Attempt.act pipeline.clock
  Attempt.ofCheck (Signature.verify pipeline.suite clock record request)
  Attempt.ofCheck
    ((Signature.verifyPayload pipeline.suite request.headers request.body).mapError Halt.failed)
  return ⟨service, record, some request.authorization.region⟩

theorem authenticate_eq {pipeline : Pipeline Outside} {request : StoreRequest}
    {service : SigningService}
    (named : SigningService.ofName? request.authorization.service = some service) :
    pipeline.authenticate request = (do
      let some record ←
          pipeline.credentials.lookup request.authorization.accessKey
            request.authorization.securityToken
        | Attempt.fail unknownAccessKey
      pipeline.letIn request service record) := by
  unfold authenticate
  dsimp only
  rw [named]
  rfl

theorem checks_eq_ok {pipeline : Pipeline Outside} {request : StoreRequest}
    {answered : Calendar.Moment} {record : CredentialRecord}
    (passed : pipeline.checks request answered record = .ok ()) :
    Signature.verify pipeline.suite ⟨answered, pipeline.maxDrift⟩ record request = .ok () ∧
      Signature.verifyPayload pipeline.suite request.headers request.body = .ok () := by
  unfold checks at passed
  cases verified : Signature.verify pipeline.suite ⟨answered, pipeline.maxDrift⟩ record request with
  | error halt =>
      rw [verified] at passed
      cases passed
  | ok =>
      rw [verified] at passed
      cases matching : Signature.verifyPayload pipeline.suite request.headers request.body with
      | error fault =>
          rw [matching] at passed
          cases passed
      | ok => exact ⟨rfl, rfl⟩

theorem perform_letIn (pipeline : Pipeline Outside) (request : StoreRequest)
    (service : SigningService) (record : CredentialRecord) (world : World Outside) :
    (pipeline.letIn request service record).perform world =
      ((pipeline.checks request world.now record).map fun _ =>
        ⟨service, record, some request.authorization.region⟩, world) := by
  unfold letIn checks
  rw [Attempt.perform_bind_of_ok (pipeline.perform_clock world)]
  cases Signature.verify pipeline.suite ⟨world.now, pipeline.maxDrift⟩ record request with
  | error halt => rfl
  | ok =>
      change Attempt.perform (Attempt.ofCheck ((Signature.verifyPayload pipeline.suite
        request.headers request.body).mapError Halt.failed) >>= _) world = _
      cases Signature.verifyPayload pipeline.suite request.headers request.body <;> rfl

/-- The way on for a verified request. -/
def proceed (pipeline : Pipeline Outside) (request : StoreRequest) (context : SigningContext) :
    Attempt Outside OutboundRequest :=
  match context.service with
  | .s3 => pipeline.route request context
  | .sts => Attempt.fail (notProxied .sts)

theorem process_eq (pipeline : Pipeline Outside) (request : StoreRequest) :
    pipeline.process request = pipeline.authenticate request >>= pipeline.proceed request := rfl

/-- The calls for a request whose service is known are orderly. -/
theorem orderlyAt_process {pipeline : Pipeline Outside} {request : StoreRequest}
    {service : SigningService}
    (named : SigningService.ofName? request.authorization.service = some service)
    (world : World (Watched Outside)) :
    Attempt.OrderlyAt (pipeline.verdictOn request) stages (pipeline.Passed request)
      (pipeline.watched.process request) world := by
  have found : pipeline.watched.credentials.lookup request.authorization.accessKey
        request.authorization.securityToken =
      (pipeline.credentials.lookup request.authorization.accessKey
        request.authorization.securityToken).watched
          (Call.lookup request.authorization.accessKey request.authorization.securityToken) := rfl
  rw [process_eq, authenticate_eq named, found, bind_assoc]
  refine Attempt.orderlyAt_watched_bind ?_ ?_ ?_ world
  · intro _ _
    rfl
  · intro _ _
    rfl
  · intro value start answered found asked sameTime
    cases value with
    | none => exact Or.inl ⟨_, rfl, rfl, rfl⟩
    | some record =>
        have entered : (pipeline.watched.letIn request service record).perform asked =
            ((pipeline.checks request asked.now record).map fun _ =>
              ⟨service, record, some request.authorization.region⟩, asked) :=
          pipeline.watched.perform_letIn request service record asked
        have outcome : pipeline.verdictOn request
            (.lookup request.authorization.accessKey request.authorization.securityToken asked.now
              (.ok (some record))) = pipeline.admission request asked.now record := rfl
        rw [outcome, admission, named]
        cases checked : pipeline.checks request asked.now record with
        | error halt =>
            rw [checked] at entered
            refine Or.inl ⟨halt, rfl, ?_, ?_⟩
            · rw [Attempt.perform_bind_of_error entered]
            · rw [Attempt.perform_bind_of_error entered]
        | ok =>
            rw [checked] at entered
            cases service with
            | sts =>
                refine Or.inl ⟨.failed (notProxied .sts), rfl, ?_, ?_⟩
                · rw [Attempt.perform_bind_of_ok entered]
                  rfl
                · rw [Attempt.perform_bind_of_ok entered]
                  rfl
            | s3 =>
                rcases checks_eq_ok checked with ⟨verified, matching⟩
                refine Or.inr ⟨rfl, Attempt.OrderlyAt.after_quiet entered rfl ?_⟩
                apply (pipeline.orderlyAt_route request _ asked).imp
                rintro later result
                  ⟨remapped, rest, mapped, rfl, connection, uri, signedAt, joined, placed, rfl, rfl⟩
                exact ⟨⟨record, asked.now, remapped, connection, uri, signedAt, named,
                  ⟨start, answered, found, sameTime.symm⟩, verified, matching, mapped, joined,
                  placed⟩, rfl, rfl⟩

/-- Nobody is asked about a request whose service is not known. -/
theorem process_of_unknown_service {pipeline : Pipeline Outside} {request : StoreRequest}
    (unknown : SigningService.ofName? request.authorization.service = none) (world : World Outside) :
    (pipeline.process request).perform world =
      (.error (.failed (unsupportedService request.authorization.service)), world) := by
  have failed : pipeline.authenticate request =
      Attempt.fail (unsupportedService request.authorization.service) := by
    unfold authenticate
    dsimp only
    rw [unknown]
  rw [process_eq, failed]
  rfl

/-- The calls of a pipeline with its result: none for a service that is not known, and
else orderly ones. -/
def FailsClosed (pipeline : Pipeline Outside) (request : StoreRequest)
    (calls : List (Call Outside)) (result : Except (Halt GatewayError) OutboundRequest) : Prop :=
  (SigningService.ofName? request.authorization.service = none ∧ calls = [] ∧
    result = .error (.failed (unsupportedService request.authorization.service))) ∨
  Orderly (pipeline.verdictOn request) stages (pipeline.Passed request) calls result

theorem failsClosed_process (pipeline : Pipeline Outside) (request : StoreRequest)
    (world : World (Watched Outside)) :
    ∃ calls, ((pipeline.watched.process request).perform world).2.calls = world.calls ++ calls ∧
      pipeline.FailsClosed request calls ((pipeline.watched.process request).perform world).1 := by
  cases named : SigningService.ofName? request.authorization.service with
  | none =>
      refine ⟨[], ?_, Or.inl ⟨named, rfl, ?_⟩⟩
      · rw [process_of_unknown_service named, List.append_nil]
      · rw [process_of_unknown_service named]
  | some service =>
      rcases orderlyAt_process named world with ⟨calls, made, orderly⟩
      exact ⟨calls, made, Or.inr orderly⟩

/-- A request that is let through has passed every collaborator and every check. -/
theorem FailsClosed.passage {pipeline : Pipeline Outside} {request : StoreRequest}
    {calls : List (Call Outside)} {outbound : OutboundRequest}
    (closed : pipeline.FailsClosed request calls (.ok outbound)) :
    ∃ passage : Passage pipeline request,
      calls = passage.calls ∧ passage.outcome = .ok outbound := by
  rcases closed with ⟨_, _, failed⟩ | orderly
  · cases failed
  · rcases orderly.fits_of_ok with ⟨passage, made, result⟩
    exact ⟨passage, made, Result.mapError_eq_ok_iff.mp result.symm⟩

theorem FailsClosed.stages_prefix {pipeline : Pipeline Outside} {request : StoreRequest}
    {calls : List (Call Outside)} {result : Except (Halt GatewayError) OutboundRequest}
    (closed : pipeline.FailsClosed request calls result) : calls.map Call.stage <+: stages := by
  rcases closed with ⟨_, rfl, _⟩ | orderly
  · exact List.nil_prefix
  · exact orderly.stages_prefix

theorem FailsClosed.no_store {pipeline : Pipeline Outside} {request : StoreRequest}
    {calls : List (Call Outside)} {result : Except (Halt GatewayError) OutboundRequest}
    (closed : pipeline.FailsClosed request calls result) : ∀ call ∈ calls, call.stage ≠ .store := by
  intro call member isStore
  have asked := closed.stages_prefix.subset (List.mem_map_of_mem member)
  rw [isStore] at asked
  revert asked
  decide

/-- What the pipeline lets through has passed, whoever the collaborators are. -/
theorem passage_of_process {pipeline : Pipeline Outside} {request : StoreRequest}
    {world after : World Outside} {outbound : OutboundRequest}
    (done : (pipeline.process request).perform world = (.ok outbound, after)) :
    ∃ passage : Passage pipeline request,
      ((pipeline.watched.process request).perform (world.withCalls [])).2.calls = passage.calls ∧
        passage.outcome = .ok outbound := by
  have sameResult := (pipeline.follows_process request).result_eq world
  rw [done] at sameResult
  rcases failsClosed_process pipeline request (world.withCalls []) with ⟨calls, made, closed⟩
  rw [sameResult] at closed
  rcases closed.passage with ⟨passage, rfl, outcome⟩
  exact ⟨passage, made, outcome⟩

end Pipeline

end SignedGateway
