import SignedGateway.Proofs.Gateway.Passage

namespace SignedGateway
namespace GatewayService

/-!
# The gateway fails closed

The store is asked at most once for a message, as the last one of all, and only with
what the pipeline has made of a request that has passed it.  Everything else that a
message leads to, the store does not hear of.
-/

variable {Outside : Type}

/-- The request that a message makes, if it makes one. -/
def readsAs (service : GatewayService Outside) (requestId : String) (arrival : Arrival) :
    Option StoreRequest :=
  if isHealthCheck arrival then none
  else
    match acceptBody service.maxBody arrival.body with
    | .error _ => none
    | .ok body =>
        (Incoming.read ⟨arrival.method, arrival.uri, arrival.headers, body⟩ service.ownPath
          requestId).toOption

/-- The world in which the pipeline takes over a request. -/
def entered (request : StoreRequest) (world : World Outside) : World Outside :=
  ((beginLog request).run { world with supply := world.supply.next }).2

/-- Nothing is sent to the store but a request that the pipeline has made. -/
def Carries (sent : Http.Sent) (outbound : OutboundRequest) : Prop :=
  sent.method = outbound.method ∧ Wire.parse? outbound.uri.render = some sent.address ∧
    Http.fieldsOfPairs (Http.Fields.pairs outbound.headers) = some sent.headers ∧
    sent.body = outbound.body

/-- The attempt leaves the store alone. -/
def SparesStore {α : Type} (attempt : Attempt (Watched Outside) α) : Prop :=
  ∀ world, ∃ calls, (attempt.perform world).2.calls = world.calls ++ calls ∧
    ∀ call ∈ calls, call.stage ≠ .store

theorem SparesStore.bind {α β : Type} {attempt : Attempt (Watched Outside) α}
    {next : α → Attempt (Watched Outside) β} (first : SparesStore attempt)
    (later : ∀ value, SparesStore (next value)) : SparesStore (attempt >>= next) := by
  intro world
  rcases first world with ⟨calls, made, spared⟩
  rcases ended : attempt.perform world with ⟨result, between⟩
  rw [ended] at made
  cases result with
  | error halt =>
      rw [Attempt.perform_bind_of_error ended]
      exact ⟨calls, made, spared⟩
  | ok value =>
      rcases later value between with ⟨more, moreMade, moreSpared⟩
      rw [Attempt.perform_bind_of_ok ended, moreMade]
      change between.calls = _ at made
      rw [made, List.append_assoc]
      refine ⟨calls ++ more, rfl, fun call member => ?_⟩
      rcases List.mem_append.mp member with early | late
      · exact spared call early
      · exact moreSpared call late

theorem sparesStore_of_quiet {α : Type} {attempt : Attempt (Watched Outside) α}
    (quiet : ∀ world, (attempt.perform world).2.calls = world.calls) : SparesStore attempt :=
  fun world => ⟨[], by rw [quiet, List.append_nil], fun _ member => absurd member List.not_mem_nil⟩

theorem sparesStore_watched {α : Type}
    {call : Calendar.Moment → Except (Halt GatewayError) α → Call Outside}
    (other : ∀ now answer, (call now answer).stage ≠ .store) (attempt : Attempt Outside α) :
    SparesStore (attempt.watched call) := by
  intro world
  rw [Attempt.perform_watched]
  refine ⟨_, rfl, fun made member => ?_⟩
  rw [List.mem_singleton.mp member]
  exact other _ _

theorem sparesStore_authenticate (pipeline : Pipeline Outside) (request : StoreRequest) :
    SparesStore (pipeline.watched.authenticate request) := by
  cases named : SigningService.ofName? request.authorization.service with
  | none =>
      unfold Pipeline.authenticate
      dsimp only
      rw [named]
      exact sparesStore_of_quiet fun _ => rfl
  | some service =>
      rw [Pipeline.authenticate_eq named]
      apply SparesStore.bind (sparesStore_watched (fun _ _ => Stage.noConfusion) _)
      intro found
      cases found with
      | none => exact sparesStore_of_quiet fun _ => rfl
      | some record =>
          apply sparesStore_of_quiet
          intro world
          rw [Pipeline.perform_letIn]

theorem sparesStore_answer (credentials : CredentialSource Outside) (request : StoreRequest)
    (context : SigningContext) : SparesStore (Role.answer credentials.watched request context) := by
  refine SparesStore.bind (sparesStore_of_quiet fun _ => ?_) fun asked => ?_
  · rw [Attempt.perform_ofExcept]
  · refine SparesStore.bind (sparesStore_watched (fun _ _ => Stage.noConfusion) _) fun assumed => ?_
    cases assumed <;> exact sparesStore_of_quiet fun _ => rfl

theorem calls_forward (service : GatewayService Outside) (outbound : OutboundRequest)
    (world : World (Watched Outside)) :
    ((service.watched.forward outbound).perform world).2.calls = world.calls ∨
      ∃ sent exchange, Carries sent outbound ∧
        ((service.watched.forward outbound).perform world).2.calls =
          world.calls ++ [.send sent exchange] := by
  unfold forward
  rw [Attempt.perform_bind, Attempt.perform_act]
  dsimp only
  rw [Attempt.perform_ofExcept]
  unfold Http.Transport.send
  split
  · next address fields parsed allowed =>
      refine Or.inr ⟨⟨outbound.method, address, fields, outbound.body⟩, _,
        ⟨rfl, parsed, allowed, rfl⟩, rfl⟩
  · exact Or.inl rfl

/-- Of the calls of a run at most the last one goes to the store.  It does so only after
the pipeline has let the request pass, and what is sent is what the pipeline made. -/
def StoreLast (service : GatewayService Outside) (request : StoreRequest)
    (world : World (Watched Outside)) (calls : List (Call Outside)) : Prop :=
  ∃ outbound processed sent exchange,
    ((service.pipeline.watched.process request).perform world).1 = .ok outbound ∧
    calls = processed ++ [.send sent exchange] ∧ (∀ call ∈ processed, call.stage ≠ .store) ∧
    Carries sent outbound

theorem calls_dispatch (service : GatewayService Outside) (request : StoreRequest)
    (world : World (Watched Outside)) :
    ∃ calls, ((service.watched.dispatch request).perform world).2.calls = world.calls ++ calls ∧
      ((∀ call ∈ calls, call.stage ≠ .store) ∨ service.StoreLast request world calls) := by
  unfold dispatch
  by_cases role : request.authorization.service = SigningService.sts.name
  · rw [if_pos role]
    have spared := (sparesStore_authenticate service.pipeline request).bind
      (sparesStore_answer service.pipeline.credentials request)
    rcases spared world with ⟨calls, made, spares⟩
    exact ⟨calls, made, Or.inl spares⟩
  · rw [if_neg role]
    rcases Pipeline.failsClosed_process service.pipeline request world with ⟨calls, made, closed⟩
    have spares := closed.no_store
    rcases ended : (service.pipeline.watched.process request).perform world with ⟨result, between⟩
    rw [ended] at made
    cases result with
    | error halt =>
        have stopped := Attempt.perform_bind_of_error ended service.watched.forward
        exact ⟨calls, (congrArg (fun run => run.2.calls) stopped).trans made, Or.inl spares⟩
    | ok outbound =>
        have forwarded := Attempt.perform_bind_of_ok ended service.watched.forward
        have kept : ((service.watched.pipeline.process request >>= service.watched.forward).perform
            world).2.calls = _ := congrArg (fun run => run.2.calls) forwarded
        change between.calls = _ at made
        rcases service.calls_forward outbound between with quiet | ⟨sent, exchange, carries, asked⟩
        · exact ⟨calls, kept.trans (quiet.trans made), Or.inl spares⟩
        · refine ⟨calls ++ [.send sent exchange], ?_, Or.inr ⟨outbound, calls, sent, exchange,
            congrArg Prod.fst ended, rfl, spares, carries⟩⟩
          rw [← List.append_assoc, ← made]
          exact kept.trans asked

theorem calls_finish (request : StoreRequest) (result : Except GatewayError Http.Response)
    (world : World (Watched Outside)) : ((finish request result).run world).2.calls = world.calls := by
  cases result <;> rfl

theorem calls_serve (service : GatewayService Outside) (request : StoreRequest)
    (world : World (Watched Outside)) :
    ((service.watched.serve request).run world).2.calls =
      ((service.watched.dispatch request).perform ((beginLog request).run world).2).2.calls := by
  unfold serve Attempt.perform
  rw [Act.run_bind, Act.run_bind]
  rcases (service.watched.dispatch request).outcome.run ((beginLog request).run world).2 with
    ⟨outcome, after⟩
  match outcome with
  | .ok response => exact calls_finish request (.ok response) after
  | .error (.failed error) => exact calls_finish request (.error error) after
  | .error .outOfCalendar => rfl

theorem respond_of_reads {service : GatewayService Outside} {requestId : String}
    {arrival : Arrival} {request : StoreRequest}
    (reads : service.readsAs requestId arrival = some request) :
    service.respond requestId arrival = service.serve request := by
  unfold readsAs at reads
  unfold respond
  dsimp only
  by_cases health : isHealthCheck arrival = true
  · rw [if_pos health] at reads
    cases reads
  · rw [if_neg health] at reads
    rw [if_neg health]
    cases accepted : acceptBody service.maxBody arrival.body with
    | error error =>
        rw [accepted] at reads
        cases reads
    | ok body =>
        rw [accepted] at reads
        dsimp only at reads ⊢
        cases read : Incoming.read ⟨arrival.method, arrival.uri, arrival.headers, body⟩
            service.ownPath requestId with
        | error error =>
            rw [read] at reads
            cases reads
        | ok made =>
            rw [read] at reads
            cases reads
            rfl

theorem respond_of_not_reads {service : GatewayService Outside} {requestId : String}
    {arrival : Arrival} (unread : service.readsAs requestId arrival = none) :
    ∃ handled, service.respond requestId arrival = pure handled := by
  unfold readsAs at unread
  unfold respond
  dsimp only
  by_cases health : isHealthCheck arrival = true
  · rw [if_pos health]
    exact ⟨_, rfl⟩
  · rw [if_neg health] at unread
    rw [if_neg health]
    cases accepted : acceptBody service.maxBody arrival.body with
    | error error => exact ⟨_, rfl⟩
    | ok body =>
        rw [accepted] at unread
        dsimp only at unread ⊢
        cases read : Incoming.read ⟨arrival.method, arrival.uri, arrival.headers, body⟩
            service.ownPath requestId with
        | error error => exact ⟨_, rfl⟩
        | ok made =>
            rw [read] at unread
            cases unread

/-- A message that makes no request is answered without asking anybody. -/
theorem calls_handle_of_not_reads {service : GatewayService Outside} {arrival : Arrival}
    {world : World (Watched Outside)}
    (reads : service.readsAs (Supply.identifier world.supply) arrival = none) :
    ((service.watched.handle arrival).run world).2.calls = world.calls := by
  have unread : service.watched.readsAs (Supply.identifier world.supply) arrival = none := reads
  have responded : ((service.watched.handle arrival).run world).2.calls =
      ((service.watched.respond (Supply.identifier world.supply) arrival).run
        { world with supply := world.supply.next }).2.calls := rfl
  rcases respond_of_not_reads unread with ⟨handled, answered⟩
  rw [responded, answered]
  rfl

theorem calls_handle (service : GatewayService Outside) (arrival : Arrival)
    (world : World (Watched Outside)) :
    ∃ calls, ((service.watched.handle arrival).run world).2.calls = world.calls ++ calls ∧
      ((∀ call ∈ calls, call.stage ≠ .store) ∨
        ∃ request, service.readsAs (Supply.identifier world.supply) arrival = some request ∧
          service.StoreLast request (entered request world) calls) := by
  cases reads : service.readsAs (Supply.identifier world.supply) arrival with
  | none =>
      rw [calls_handle_of_not_reads reads]
      exact ⟨[], (List.append_nil _).symm, Or.inl fun _ member => absurd member List.not_mem_nil⟩
  | some request =>
      have responded : ((service.watched.handle arrival).run world).2.calls =
          ((service.watched.respond (Supply.identifier world.supply) arrival).run
            { world with supply := world.supply.next }).2.calls := rfl
      have read : service.watched.readsAs (Supply.identifier world.supply) arrival = some request :=
        reads
      rw [responded, respond_of_reads read, calls_serve]
      rcases service.calls_dispatch request (entered request world) with ⟨calls, made, store⟩
      refine ⟨calls, made, ?_⟩
      rcases store with spared | last
      · exact Or.inl spared
      · exact Or.inr ⟨request, rfl, last⟩

/-- If only the last call may go to the store, at most one call does. -/
theorem filter_store_length_le {processed last : List (Call Outside)} (single : last.length ≤ 1)
    (spares : ∀ call ∈ processed, call.stage ≠ .store) :
    ((processed ++ last).filter fun call => call.stage = .store).length ≤ 1 := by
  have none : processed.filter (fun call => call.stage = .store) = [] := by
    rw [List.filter_eq_nil_iff]
    intro call member
    simpa using spares call member
  rw [List.filter_append, none, List.nil_append]
  exact Nat.le_trans (List.length_filter_le _ last) single

/-- The gateway fails closed, whatever its collaborators answer.

Watching changes neither what the pipeline returns nor what it leaves behind, and the
calls that are kept go through the stages in order, each at most once: they stop at
the first answer that does not let the request pass, whose error is the result, or
they are those of a passage.  A request is made for the store only by a passage.

The same holds of the service as a whole.  It asks the store at most once, and only
when the pipeline has let the request pass, with what the pipeline has made of it. -/
theorem fails_closed (service : GatewayService Outside) (world : World (Watched Outside)) :
    (∀ request,
      let run := (service.pipeline.watched.process request).perform world
      (service.pipeline.process request).perform world.unwatched = (run.1, run.2.unwatched) ∧
      ∃ calls, run.2.calls = world.calls ++ calls ∧
        calls.map Call.stage <+: Pipeline.stages ∧
        service.pipeline.FailsClosed request calls run.1 ∧
        ∀ outbound, run.1 = .ok outbound →
          ∃ passage : Pipeline.Passage service.pipeline request,
            calls = passage.calls ∧ passage.outcome = .ok outbound) ∧
    ∀ arrival,
      let run := (service.watched.handle arrival).run world
      (service.handle arrival).run world.unwatched = (run.1, run.2.unwatched) ∧
      ∃ calls, run.2.calls = world.calls ++ calls ∧
        (calls.filter fun call => call.stage = .store).length ≤ 1 ∧
        ((∀ call ∈ calls, call.stage ≠ .store) ∨
          ∃ request, service.readsAs (Supply.identifier world.supply) arrival = some request ∧
            service.StoreLast request (entered request world) calls) := by
  constructor
  · intro request run
    rcases service.pipeline.follows_process request world with ⟨sameResult, sameWorld⟩
    rw [Except.map_id] at sameResult
    rcases Pipeline.failsClosed_process service.pipeline request world with ⟨calls, made, closed⟩
    refine ⟨(Prod.ext sameResult sameWorld).symm, calls, made, closed.stages_prefix, closed, ?_⟩
    intro outbound done
    change service.pipeline.FailsClosed request calls run.1 at closed
    rw [done] at closed
    exact closed.passage
  · intro arrival run
    rcases service.follows_handle arrival world with ⟨sameResult, sameWorld⟩
    rcases service.calls_handle arrival world with ⟨calls, made, store⟩
    refine ⟨(Prod.ext sameResult sameWorld).symm, calls, made, ?_, store⟩
    rcases store with spares | ⟨_, _, _, processed, sent, exchange, _, rfl, spares, _⟩
    · rw [← List.append_nil calls]
      exact filter_store_length_le (Nat.zero_le 1) spares
    · exact filter_store_length_le (Nat.le_refl 1) spares

end GatewayService
end SignedGateway
