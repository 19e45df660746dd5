import SignedGateway.Proofs.Gateway.Standard

namespace SignedGateway

/-!
# Gateways at one time

The signature of a request is checked when the caller's record is known, and the request for
the store is signed when its address is known.  Time can pass in between only while somebody is
asked.  If all who are asked answer at once, both is done at the time at which the request came.
-/

namespace Attempt

variable {Outside α β : Type}

/-- The attempt takes no time, and what it returns is as wanted. -/
def Prompt (attempt : Attempt Outside α) (wanted : α → Prop) : Prop :=
  ∀ moment, attempt.Retains (fun world => world.now = moment) wanted

theorem prompt_pure {wanted : α → Prop} {value : α} (returned : wanted value) :
    (pure value : Attempt Outside α).Prompt wanted := by
  intro moment world held
  refine ⟨held, fun result same => ?_⟩
  cases same
  exact returned

end Attempt

/-! ## Calls at one time -/

variable {Outside : Type}

/-- The call was answered at the moment, if it says when. -/
def Call.At (moment : Calendar.Moment) : Call Outside → Prop
  | .lookup _ _ answered _ => answered = moment
  | .place _ answered _ => answered = moment
  | _ => True

/-- It is the moment, and all that was asked was answered at it. -/
structure World.Stands (moment : Calendar.Moment) (world : World (Watched Outside)) : Prop where
  now : world.now = moment
  calls : ∀ call ∈ world.calls, call.At moment

namespace World.Stands

variable {moment : Calendar.Moment}

theorem withCalls {world : World Outside} (now : world.now = moment)
    {calls : List (Call Outside)} (answered : ∀ call ∈ calls, call.At moment) {call : Call Outside}
    (next : call.At moment) : (world.withCalls (calls ++ [call])).Stands moment := by
  refine ⟨now, fun other member => ?_⟩
  rcases List.mem_append.mp member with before | last
  · exact answered other before
  · rw [List.mem_singleton.mp last]
    exact next

end World.Stands

/-- Who takes no time is watched at one time. -/
theorem Attempt.Prompt.watched {α : Type} {attempt : Attempt Outside α} {wanted : α → Prop}
    (prompt : attempt.Prompt wanted)
    (call : Calendar.Moment → Except (Halt GatewayError) α → Call Outside)
    (dated : ∀ moment answer, (call moment answer).At moment) (moment : Calendar.Moment) :
    (attempt.watched call).Retains (World.Stands moment) wanted := by
  intro world stands
  rcases prompt moment world.unwatched stands.now with ⟨kept, returned⟩
  subst kept
  exact ⟨World.Stands.withCalls rfl stands.calls (dated _ _), returned⟩

namespace Pipeline

/-- Whoever the pipeline asks takes no time. -/
structure Prompt (pipeline : Pipeline Outside) : Prop where
  lookup : ∀ accessKey token,
    (pipeline.credentials.lookup accessKey token).Prompt fun _ => True
  policy : ∀ request context,
    (pipeline.policy.judgeFor request context).Prompt fun judge =>
      ∀ action, (judge action).Prompt fun _ => True
  remap : ∀ record request world,
    ((pipeline.remap record request).run world).2.now = world.now
  connections : ∀ context request,
    (pipeline.connections context request).Prompt fun found =>
      ∀ connection ∈ found, ∀ rule ∈ connection.endpoint, ∀ target,
        (rule target).Prompt fun _ => True
  endpoint : ∀ target, (pipeline.endpoint target).Prompt fun _ => True

namespace Prompt

variable {pipeline : Pipeline Outside} (prompt : pipeline.Prompt) {moment : Calendar.Moment}

include prompt

theorem authenticate (request : StoreRequest) :
    (pipeline.watched.authenticate request).Retains (World.Stands moment) fun _ => True := by
  cases named : SigningService.ofName? request.authorization.service with
  | none =>
      unfold Pipeline.authenticate
      dsimp only
      rw [named]
      exact Attempt.retains_of_kept fun _ held => held
  | some service =>
      rw [authenticate_eq named]
      have looked := prompt.lookup request.authorization.accessKey
        request.authorization.securityToken
      apply (looked.watched (Call.lookup _ _) (fun _ _ => rfl) moment).bind
      intro found _
      cases found with
      | none => exact Attempt.retains_of_kept fun _ held => held
      | some record =>
          apply Attempt.retains_of_kept
          intro world held
          dsimp only
          rw [perform_letIn]
          exact held

theorem verdict (request : StoreRequest) (context : SigningContext) :
    (pipeline.watched.policy.verdict request context).Retains (World.Stands moment)
      fun _ => True := by
  have bound : pipeline.watched.policy.judgeFor request context =
      Policy.Judge.watched <$> (pipeline.policy.judgeFor request context).watched fun _ answer =>
        Call.bind request context (answer.map fun _ => ()) := rfl
  rw [Policy.verdict, bound, bind_map_left]
  have asked := (prompt.policy request context).watched
    (fun _ answer => Call.bind request context (answer.map fun _ => ())) (fun _ _ => trivial) moment
  apply asked.bind
  intro judge judges
  have judged := (judges (Policy.actionOf request.rawQuery)).watched
    (fun _ => Call.judge (Policy.actionOf request.rawQuery)) (fun _ _ => trivial) moment
  apply judged.bind
  intro decision _
  exact Attempt.retains_of_kept fun _ held => ⟨held.now, held.calls⟩

theorem resolve (record : CredentialRecord) (request : StoreRequest) :
    (Attempt.act (pipeline.watched.resolve record request)).Retains (World.Stands moment)
      fun _ => True := by
  apply Attempt.retains_of_kept
  intro world held
  have kept := (prompt.remap record request world.unwatched).trans held.now
  rw [Attempt.perform_act, resolve_eq, StateT.run_map]
  exact World.Stands.withCalls kept held.calls trivial

theorem deliver (context : SigningContext) (resolved : StoreRequest) :
    (pipeline.watched.deliver context resolved).Retains (World.Stands moment) fun _ => True := by
  have found : pipeline.watched.connections context resolved =
      Option.map Connection.watched <$>
        (pipeline.connections context resolved).watched fun _ => Call.connect context resolved :=
    rfl
  rw [Pipeline.deliver, found, bind_map_left]
  have connected := (prompt.connections context resolved).watched
    (fun _ => Call.connect context resolved) (fun _ _ => trivial) moment
  apply connected.bind
  intro joined rules
  cases joined with
  | none => exact Attempt.retains_of_kept fun _ held => held
  | some connection =>
      have placed : ((connection.endpoint.getD pipeline.endpoint)
          (Outbound.targetOf resolved)).Prompt fun _ => True := by
        cases own : connection.endpoint with
        | none => exact prompt.endpoint _
        | some rule => exact rules connection rfl rule own _
      dsimp only [Option.map_some]
      unfold Outbound.prepare
      rw [watched_endpoint_eq, bind_assoc]
      apply (placed.watched (Call.place _) (fun _ _ => rfl) moment).bind
      intro uri _
      rw [bind_assoc]
      apply (Attempt.retains_of_kept fun _ held => held).bind
      intro now _
      apply (Attempt.retains_ofExcept _).bind
      intro outbound _
      exact Attempt.retains_of_kept fun _ held => ⟨held.now, held.calls⟩

theorem route (request : StoreRequest) (context : SigningContext) :
    (pipeline.watched.route request context).Retains (World.Stands moment) fun _ => True := by
  rw [route_eq]
  apply (prompt.verdict request context).bind
  intro decision _
  apply (Attempt.retains_ofExcept _).bind
  intro _ _
  apply (prompt.resolve context.record request).bind
  intro resolved _
  apply (Attempt.retains_of_kept fun _ held => ⟨held.now, held.calls⟩).bind
  intro _ _
  apply (Attempt.retains_of_kept fun _ held => ⟨held.now, held.calls⟩).bind
  intro _ _
  exact prompt.deliver context resolved

/-- All that is asked about a request is answered at the time at which it came. -/
theorem process (request : StoreRequest) :
    (pipeline.watched.process request).Retains (World.Stands moment) fun _ => True := by
  rw [process_eq]
  apply (prompt.authenticate request).bind
  intro context _
  unfold proceed
  cases context.service with
  | s3 => exact prompt.route request context
  | sts => exact Attempt.retains_of_kept fun _ held => held

end Prompt

/-- A request that passes is verified, and the one for the store is signed, at the time at which
it came, if nobody takes any time. -/
theorem Passage.times_of_prompt {pipeline : Pipeline Outside} {request : StoreRequest}
    (passage : Passage pipeline request) {world : World Outside}
    (calls : ((pipeline.watched.process request).perform (world.withCalls [])).2.calls =
      passage.calls) (prompt : pipeline.Prompt) :
    passage.answered = world.now ∧ passage.signedAt = world.now := by
  have begins : (world.withCalls []).Stands world.now :=
    ⟨rfl, fun _ none => absurd none List.not_mem_nil⟩
  have answered := (prompt.process request _ begins).1.calls
  rw [calls] at answered
  have looked := answered _ List.mem_cons_self
  have placed := answered (.place (Outbound.targetOf passage.resolved) passage.signedAt
    (.ok passage.uri)) (by simp [Passage.calls])
  exact ⟨looked, placed⟩

theorem Passage.clock_of_prompt {pipeline : Pipeline Outside} {request : StoreRequest}
    (passage : Passage pipeline request) {world : World Outside}
    (calls : ((pipeline.watched.process request).perform (world.withCalls [])).2.calls =
      passage.calls) (prompt : pipeline.Prompt) :
    passage.clock = ⟨world.now, pipeline.maxDrift⟩ := by
  rw [Passage.clock, (passage.times_of_prompt calls prompt).2]

/-- A directory answers at once, and so does everybody else whom a standard pipeline asks. -/
theorem prompt_aliased (suite : Digest.Suite) (maxDrift : Nat) (directory : Directory)
    (aliases : StoreRequest → Option Remapped) :
    (aliased suite maxDrift (.ofLookup directory.lookup) aliases : Pipeline Outside).Prompt where
  lookup _ _ := Attempt.prompt_pure trivial
  policy _ _ := Attempt.prompt_pure fun _ => Attempt.prompt_pure trivial
  remap _ _ _ := rfl
  connections context _ := by
    apply Attempt.prompt_pure
    intro connection joined rule own
    rcases Option.map_eq_some_iff.mp joined with ⟨credential, _, rfl⟩
    cases own
  endpoint target := by
    intro moment
    dsimp only [aliased, standard]
    unfold Addressing.rule
    exact Attempt.retains_ofExcept _

end Pipeline
end SignedGateway
