import SignedGateway.Gateway.Service
import SignedGateway.Proofs.Gateway.Attempt

namespace SignedGateway

/-!
# Watching the collaborators

Collaborators answer as they like, and only they know what they were asked.  To
speak about the order in which they are asked, every collaborator of a gateway is
put behind a watcher, which passes the question on and keeps it with the answer.
The watchers change nothing: a watched gateway does in every world what the gateway
itself does there, and so what is kept are the questions of the gateway itself.
-/

/-- A question to a collaborator or to the store, with its answer.  The signature of a
request is checked when the lookup has been answered, and a new one is made when there
is an address, so these two also keep the time of the answer. -/
inductive Call (Outside : Type) where
  | lookup (accessKey : String) (token : Option String) (answered : Calendar.Moment)
      (answer : Except (Halt GatewayError) (Option CredentialRecord))
  | bind (request : StoreRequest) (context : SigningContext)
      (answer : Except (Halt GatewayError) Unit)
  | judge (action : Option String) (answer : Except (Halt GatewayError) Policy.Decision)
  | remap (record : CredentialRecord) (request : StoreRequest) (answer : Option Remapped)
  | connect (context : SigningContext) (request : StoreRequest)
      (answer : Except (Halt GatewayError) (Option (Connection Outside)))
  | place (target : StoreTarget) (answered : Calendar.Moment)
      (answer : Except (Halt GatewayError) Uri)
  | assume (asked : RoleRequest) (answer : Except (Halt GatewayError) (Option AssumedRole))
  | send (sent : Http.Sent) (answer : Http.Exchange)

/-- The outside with the calls that were made so far. -/
structure Watched (Outside : Type) where
  outside : Outside
  calls : List (Call Outside)

section Watchers

variable {Outside α : Type}

/-- The world as it is without watchers. -/
def World.unwatched (world : World (Watched Outside)) : World Outside :=
  ⟨world.now, world.supply, world.sessions, world.cache, world.log, world.outside.outside⟩

/-- The calls that were made so far. -/
def World.calls (world : World (Watched Outside)) : List (Call Outside) :=
  world.outside.calls

/-- The world with the calls that were made so far. -/
def World.withCalls (world : World Outside) (calls : List (Call Outside)) :
    World (Watched Outside) :=
  ⟨world.now, world.supply, world.sessions, world.cache, world.log, ⟨world.outside, calls⟩⟩

/-- The action, which is kept as a call with its answer. -/
def Act.watched (call : Calendar.Moment → α → Call Outside) (action : Act Outside α) :
    Act (Watched Outside) α :=
  fun world =>
    let (answer, after) := action.run world.unwatched
    (answer, after.withCalls (world.calls ++ [call after.now answer]))

def Attempt.watched (call : Calendar.Moment → Except (Halt GatewayError) α → Call Outside)
    (attempt : Attempt Outside α) : Attempt (Watched Outside) α :=
  Attempt.ofOutcome (Act.watched call attempt.outcome)

def CredentialSource.watched (source : CredentialSource Outside) :
    CredentialSource (Watched Outside) where
  lookup accessKey token := (source.lookup accessKey token).watched (Call.lookup accessKey token)
  assumeRole asked := (source.assumeRole asked).watched fun _ => Call.assume asked

def Policy.Judge.watched (judge : Policy.Judge Outside) : Policy.Judge (Watched Outside) :=
  fun action => (judge action).watched fun _ => Call.judge action

def Policy.watched (policy : Policy Outside) : Policy (Watched Outside) where
  judgeFor request context :=
    Policy.Judge.watched <$> (policy.judgeFor request context).watched fun _ answer =>
      Call.bind request context (answer.map fun _ => ())

def EndpointRule.watched (rule : EndpointRule Outside) : EndpointRule (Watched Outside) :=
  fun target => (rule target).watched (Call.place target)

def Connection.watched (connection : Connection Outside) : Connection (Watched Outside) :=
  ⟨connection.credential, connection.role, connection.endpoint.map EndpointRule.watched⟩

def ConnectionRule.watched (rule : ConnectionRule Outside) : ConnectionRule (Watched Outside) :=
  fun context request =>
    Option.map Connection.watched <$>
      (rule context request).watched fun _ => Call.connect context request

def Http.Transport.watched (transport : Http.Transport Outside) :
    Http.Transport (Watched Outside) :=
  fun sent => (transport sent).watched fun _ => Call.send sent

/-- The pipeline with every collaborator watched. -/
def Pipeline.watched (pipeline : Pipeline Outside) : Pipeline (Watched Outside) where
  suite := pipeline.suite
  maxDrift := pipeline.maxDrift
  credentials := pipeline.credentials.watched
  policy := pipeline.policy.watched
  remap record request := (pipeline.remap record request).watched fun _ => Call.remap record request
  connections := ConnectionRule.watched pipeline.connections
  endpoint := EndpointRule.watched pipeline.endpoint

/-- The gateway with every collaborator and the way to the store watched. -/
def GatewayService.watched (service : GatewayService Outside) :
    GatewayService (Watched Outside) where
  pipeline := service.pipeline.watched
  transport := Http.Transport.watched service.transport
  ownPath := service.ownPath
  maxBody := service.maxBody

end Watchers

/-! ## Watching changes nothing -/

namespace Act

variable {Outside α β α' β' : Type}

/-- In every world the watched action does what the other one does.  `wrap` turns
the other one's result into the watched one's. -/
def Follows (wrap : α → β) (watched : Act (Watched Outside) β) (plain : Act Outside α) : Prop :=
  ∀ world, (watched.run world).1 = wrap (plain.run world.unwatched).1 ∧
    (watched.run world).2.unwatched = (plain.run world.unwatched).2

theorem Follows.bind {wrap : α → β} {wrapNext : α' → β'} {watched : Act (Watched Outside) β}
    {plain : Act Outside α} {watchedNext : β → Act (Watched Outside) β'}
    {plainNext : α → Act Outside α'} (first : Follows wrap watched plain)
    (next : ∀ value, Follows wrapNext (watchedNext (wrap value)) (plainNext value)) :
    Follows wrapNext (watched >>= watchedNext) (plain >>= plainNext) := by
  intro world
  rcases first world with ⟨sameResult, sameWorld⟩
  have later := next (plain.run world.unwatched).1 (watched.run world).2
  rw [← sameResult, sameWorld] at later
  exact later

theorem follows_pure (wrap : α → β) (value : α) :
    Follows wrap (pure (wrap value)) (pure value : Act Outside _) :=
  fun _ => ⟨rfl, rfl⟩

theorem run_watched (call : Calendar.Moment → α → Call Outside) (action : Act Outside α)
    (world : World (Watched Outside)) :
    (action.watched call).run world =
      ((action.run world.unwatched).1,
        (action.run world.unwatched).2.withCalls
          (world.calls ++ [call (action.run world.unwatched).2.now
            (action.run world.unwatched).1])) := rfl

theorem follows_watched (call : Calendar.Moment → α → Call Outside) (action : Act Outside α) :
    Follows id (action.watched call) action :=
  fun _ => ⟨rfl, rfl⟩

theorem follows_now : Follows id now (now : Act Outside _) :=
  fun _ => ⟨rfl, rfl⟩

theorem follows_note (entry : LogEntry) : Follows id (note entry) (note entry : Act Outside _) :=
  fun _ => ⟨rfl, rfl⟩

theorem follows_draw (make : Supply → String) :
    Follows id (draw make) (draw make : Act Outside _) :=
  fun _ => ⟨rfl, rfl⟩

end Act

namespace Attempt

variable {Outside α β α' β' : Type}

/-- In every world the watched attempt does what the other one does. -/
def Follows (wrap : α → β) (watched : Attempt (Watched Outside) β) (plain : Attempt Outside α) :
    Prop :=
  Act.Follows (Except.map wrap) watched.outcome plain.outcome

theorem Follows.bind {wrap : α → β} {wrapNext : α' → β'} {watched : Attempt (Watched Outside) β}
    {plain : Attempt Outside α} {watchedNext : β → Attempt (Watched Outside) β'}
    {plainNext : α → Attempt Outside α'} (first : Follows wrap watched plain)
    (next : ∀ value, Follows wrapNext (watchedNext (wrap value)) (plainNext value)) :
    Follows wrapNext (watched >>= watchedNext) (plain >>= plainNext) := by
  change Act.Follows (Except.map wrapNext) (watched.outcome >>= ExceptT.bindCont watchedNext)
    (plain.outcome >>= ExceptT.bindCont plainNext)
  apply Act.Follows.bind first
  intro result
  cases result with
  | ok value => exact next value
  | error halt => exact fun _ => ⟨rfl, rfl⟩

theorem follows_pure (wrap : α → β) (value : α) :
    Follows wrap (pure (wrap value)) (pure value : Attempt Outside _) :=
  fun _ => ⟨rfl, rfl⟩

theorem follows_fail (wrap : α → β) (error : GatewayError) :
    Follows wrap (fail error) (fail error : Attempt Outside _) :=
  fun _ => ⟨rfl, rfl⟩

theorem follows_ofExcept (result : Except GatewayError α) :
    Follows id (ofExcept result) (ofExcept result : Attempt Outside _) := by
  cases result <;> exact fun _ => ⟨rfl, rfl⟩

theorem follows_ofCheck (result : Except (Halt AuthError) α) :
    Follows id (ofCheck result) (ofCheck result : Attempt Outside _) := by
  cases result <;> exact fun _ => ⟨rfl, rfl⟩

theorem Follows.act {wrap : α → β} {watched : Act (Watched Outside) β} {plain : Act Outside α}
    (follows : Act.Follows wrap watched plain) :
    Follows wrap (Attempt.act watched) (Attempt.act plain) := by
  intro world
  rcases follows world with ⟨sameResult, sameWorld⟩
  exact ⟨congrArg Except.ok sameResult, sameWorld⟩

theorem follows_note (entry : LogEntry) :
    Follows id (note entry) (note entry : Attempt Outside _) :=
  Follows.act (Act.follows_note entry)

theorem follows_watched (call : Calendar.Moment → Except (Halt GatewayError) α → Call Outside)
    (attempt : Attempt Outside α) : Follows id (attempt.watched call) attempt := by
  unfold Follows
  rw [Except.map_id]
  exact Act.follows_watched call attempt.outcome

/-- What is watched from the start ends as it does unwatched. -/
theorem Follows.result_eq {watched : Attempt (Watched Outside) α} {plain : Attempt Outside α}
    (follows : Follows id watched plain) (world : World Outside) :
    (watched.perform (world.withCalls [])).1 = (plain.perform world).1 :=
  (follows (world.withCalls [])).1.trans (congrFun Except.map_id _)

/-- A result that is wrapped after it was watched. -/
theorem follows_map_watched (wrap : α → β)
    (call : Calendar.Moment → Except (Halt GatewayError) α → Call Outside)
    (attempt : Attempt Outside α) : Follows wrap (wrap <$> attempt.watched call) attempt := by
  have wrapped : Follows wrap (attempt.watched call >>= fun value => pure (wrap value))
      (attempt >>= pure) :=
    Follows.bind (follows_watched call attempt) fun value => follows_pure wrap value
  rw [bind_pure] at wrapped
  rw [map_eq_pure_bind]
  exact wrapped

end Attempt

namespace Pipeline

variable {Outside : Type}

theorem follows_clock (pipeline : Pipeline Outside) :
    Act.Follows id pipeline.watched.clock pipeline.clock :=
  fun _ => ⟨rfl, rfl⟩

theorem follows_authenticate (pipeline : Pipeline Outside) (request : StoreRequest) :
    (pipeline.watched.authenticate request).Follows id (pipeline.authenticate request) := by
  unfold authenticate
  dsimp only
  cases SigningService.ofName? request.authorization.service with
  | none => exact Attempt.follows_fail id _
  | some service =>
      apply Attempt.Follows.bind (Attempt.follows_watched _ _)
      intro found
      cases found with
      | none => exact Attempt.follows_fail id _
      | some record =>
          apply Attempt.Follows.bind (Attempt.Follows.act pipeline.follows_clock)
          intro clock
          apply Attempt.Follows.bind (Attempt.follows_ofCheck _)
          intro _
          apply Attempt.Follows.bind (Attempt.follows_ofCheck _)
          intro _
          exact Attempt.follows_pure id _

theorem follows_verdict (policy : Policy Outside) (request : StoreRequest)
    (context : SigningContext) :
    (policy.watched.verdict request context).Follows id (policy.verdict request context) := by
  apply Attempt.Follows.bind (Attempt.follows_map_watched Policy.Judge.watched _ _)
  intro judge
  apply Attempt.Follows.bind (Attempt.follows_watched _ _)
  intro decision
  apply Attempt.Follows.bind (Attempt.follows_note _)
  intro _
  exact Attempt.follows_pure id _

theorem follows_resolve (pipeline : Pipeline Outside) (record : CredentialRecord)
    (request : StoreRequest) :
    Act.Follows id (pipeline.watched.resolve record request) (pipeline.resolve record request) := by
  refine Act.Follows.bind (Act.follows_watched _ _) fun remapped => ?_
  cases remapped with
  | none => exact Act.follows_pure id _
  | some target => exact Act.follows_pure id _

/-- The watched connection's own rule is watched, and so is the general one. -/
theorem follows_endpoint (general : EndpointRule Outside) (connection : Connection Outside)
    (target : StoreTarget) :
    ((connection.watched.endpoint.getD (EndpointRule.watched general)) target).Follows id
      ((connection.endpoint.getD general) target) := by
  cases own : connection.endpoint with
  | none =>
      rw [Connection.watched, own]
      exact Attempt.follows_watched (Call.place target) (general target)
  | some rule =>
      rw [Connection.watched, own]
      exact Attempt.follows_watched (Call.place target) (rule target)

theorem follows_prepare (suite : Digest.Suite) (maxDrift : Nat) (general : EndpointRule Outside)
    (connection : Connection Outside) (record : CredentialRecord) (request : StoreRequest) :
    (Outbound.prepare suite maxDrift (EndpointRule.watched general) connection.watched record
      request).Follows id (Outbound.prepare suite maxDrift general connection record request) := by
  apply Attempt.Follows.bind (follows_endpoint general connection _)
  intro uri
  apply Attempt.Follows.bind (Attempt.Follows.act Act.follows_now)
  intro now
  exact Attempt.follows_ofExcept _

theorem follows_route (pipeline : Pipeline Outside) (request : StoreRequest)
    (context : SigningContext) :
    (pipeline.watched.route request context).Follows id (pipeline.route request context) := by
  apply Attempt.Follows.bind (follows_verdict pipeline.policy request context)
  intro decision
  apply Attempt.Follows.bind (Attempt.follows_ofExcept _)
  intro _
  apply Attempt.Follows.bind (Attempt.Follows.act (pipeline.follows_resolve _ _))
  intro resolved
  apply Attempt.Follows.bind (Attempt.follows_note _)
  intro _
  apply Attempt.Follows.bind (Attempt.follows_note _)
  intro _
  refine Attempt.Follows.bind
    (Attempt.follows_map_watched (Option.map Connection.watched) _ _) fun found => ?_
  cases found with
  | none => exact Attempt.follows_fail id _
  | some connection =>
      apply Attempt.Follows.bind
        (follows_prepare pipeline.suite pipeline.maxDrift pipeline.endpoint connection _ resolved)
      intro outbound
      apply Attempt.Follows.bind (Attempt.follows_note _)
      intro _
      exact Attempt.follows_pure id _

/-- A watched pipeline does what the pipeline does. -/
theorem follows_process (pipeline : Pipeline Outside) (request : StoreRequest) :
    (pipeline.watched.process request).Follows id (pipeline.process request) := by
  apply Attempt.Follows.bind (pipeline.follows_authenticate request)
  intro context
  cases service : context.service with
  | s3 =>
      simp only [id, service]
      exact pipeline.follows_route request context
  | sts =>
      simp only [id, service]
      exact Attempt.follows_fail id _

end Pipeline

namespace GatewayService

variable {Outside : Type}

@[simp]
theorem watched_maxBody (service : GatewayService Outside) :
    service.watched.maxBody = service.maxBody := rfl

@[simp]
theorem watched_ownPath (service : GatewayService Outside) :
    service.watched.ownPath = service.ownPath := rfl

theorem follows_send (transport : Http.Transport Outside) (method url : String)
    (headers : List (String × List UInt8)) (body : List UInt8) :
    Act.Follows id ((Http.Transport.watched transport).send method url headers body)
      (transport.send method url headers body) := by
  unfold Http.Transport.send
  split
  · exact Act.follows_watched _ _
  · exact Act.follows_pure id _

theorem follows_forward (service : GatewayService Outside) (outbound : OutboundRequest) :
    (service.watched.forward outbound).Follows id (service.forward outbound) :=
  Attempt.Follows.bind (Attempt.Follows.act (follows_send service.transport _ _ _ _)) fun _ =>
    Attempt.follows_ofExcept _

theorem follows_answer (credentials : CredentialSource Outside) (request : StoreRequest)
    (context : SigningContext) :
    (Role.answer credentials.watched request context).Follows id
      (Role.answer credentials request context) := by
  apply Attempt.Follows.bind (Attempt.follows_ofExcept _)
  intro asked
  refine Attempt.Follows.bind (Attempt.follows_watched _ _) fun assumed => ?_
  cases assumed with
  | none => exact Attempt.follows_fail id _
  | some given => exact Attempt.follows_pure id _

theorem follows_dispatch (service : GatewayService Outside) (request : StoreRequest) :
    (service.watched.dispatch request).Follows id (service.dispatch request) := by
  unfold dispatch
  by_cases role : request.authorization.service = SigningService.sts.name
  · rw [if_pos role, if_pos role]
    exact Attempt.Follows.bind (service.pipeline.follows_authenticate request) fun context =>
      follows_answer service.pipeline.credentials request context
  · rw [if_neg role, if_neg role]
    exact Attempt.Follows.bind (service.pipeline.follows_process request) fun outbound =>
      service.follows_forward outbound

theorem follows_beginLog (request : StoreRequest) :
    Act.Follows id (beginLog request) (beginLog request : Act Outside _) :=
  fun _ => ⟨rfl, rfl⟩

theorem follows_finish (request : StoreRequest) (result : Except GatewayError Http.Response) :
    Act.Follows id (finish request result) (finish request result : Act Outside _) := by
  cases result <;> exact fun _ => ⟨rfl, rfl⟩

theorem follows_serve (service : GatewayService Outside) (request : StoreRequest) :
    Act.Follows id (service.watched.serve request) (service.serve request) := by
  apply Act.Follows.bind (follows_beginLog request)
  intro _
  apply Act.Follows.bind (service.follows_dispatch request)
  intro outcome
  match outcome with
  | .ok response =>
      exact Act.Follows.bind (follows_finish request _) fun _ => Act.follows_pure id _
  | .error (.failed error) =>
      exact Act.Follows.bind (follows_finish request _) fun _ => Act.follows_pure id _
  | .error .outOfCalendar => exact Act.follows_pure id _

theorem follows_respond (service : GatewayService Outside) (requestId : String)
    (arrival : Arrival) :
    Act.Follows id (service.watched.respond requestId arrival) (service.respond requestId arrival) := by
  unfold respond
  dsimp only
  by_cases health : isHealthCheck arrival = true
  · rw [if_pos health, if_pos health]
    exact Act.follows_pure id _
  · rw [if_neg health, if_neg health]
    rw [watched_maxBody, watched_ownPath]
    cases acceptBody service.maxBody arrival.body with
    | error error => exact Act.follows_pure id _
    | ok body =>
        dsimp only
        cases Incoming.read ⟨arrival.method, arrival.uri, arrival.headers, body⟩ service.ownPath
            requestId with
        | error error => exact Act.follows_pure id _
        | ok request => exact service.follows_serve request

/-- A watched gateway does what the gateway does. -/
theorem follows_handle (service : GatewayService Outside) (arrival : Arrival) :
    Act.Follows id (service.watched.handle arrival) (service.handle arrival) := by
  apply Act.Follows.bind (Act.follows_draw Supply.identifier)
  intro requestId
  apply Act.Follows.bind (service.follows_respond requestId arrival)
  intro handled
  exact Act.follows_pure id _

end GatewayService
end SignedGateway
