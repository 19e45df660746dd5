import SignedGateway.Proofs.Gateway.Outbound
import SignedGateway.Proofs.Gateway.Passage

namespace SignedGateway

/-!
# Forwarding a request as it is

A pipeline that maps no bucket forwards the very request that its policy has judged.
The policy is asked about it once, then a connection is found for it, and its address
is asked for; there are no other questions on the way.  Where a rule finds the addresses,
the URI of the request for the store is the one that it finds for its target.
-/

namespace Addressing

theorem endpoint_of_rule {Outside : Type} {addressing : Addressing} {target : StoreTarget}
    {uri : Uri} {before after : World Outside}
    (placed : (addressing.rule target).perform before = (.ok uri, after)) :
    addressing.endpoint target = .ok uri := by
  unfold rule at placed
  rw [Attempt.perform_ofExcept, Prod.mk.injEq] at placed
  exact Result.mapError_eq_ok_iff.mp placed.1

end Addressing

namespace Pipeline

variable {Outside : Type} {pipeline : Pipeline Outside} {request : StoreRequest}
  {context : SigningContext}

namespace Passage

/-- Aliases that are told by the request alone are those that it is given. -/
theorem remapped_eq (passage : Passage pipeline request) {aliases : StoreRequest → Option Remapped}
    (mapped : pipeline.remap = fun _ request => pure (aliases request)) :
    passage.remapped = aliases request := by
  rcases passage.mapped with ⟨before, after, given⟩
  rw [mapped] at given
  exact (congrArg Prod.fst given).symm

/-- Without aliases a request is not moved. -/
theorem resolved_of_unmapped (passage : Passage pipeline request)
    (unmapped : pipeline.remap = fun _ _ => pure none) : passage.resolved = request := by
  rw [resolved, passage.remapped_eq unmapped]
  rfl

/-- The address of a request that has passed is that of its target. -/
theorem endpoint_eq {passage : Passage pipeline request} {outbound : OutboundRequest}
    (made : passage.outcome = .ok outbound) {addressing : Addressing}
    (addressed : passage.connection.endpoint.getD pipeline.endpoint = addressing.rule) :
    addressing.endpoint (Outbound.targetOf passage.resolved) = .ok outbound.uri := by
  rcases passage.placed with ⟨before, after, placed, _⟩
  rw [addressed] at placed
  rw [Outbound.uri_of_assemble made]
  exact Addressing.endpoint_of_rule placed

end Passage

/-- What a verified request met that was forwarded as it is. -/
structure Forwarding (pipeline : Pipeline Outside) (context : SigningContext)
    (request : StoreRequest) where
  connection : Connection Outside
  uri : Uri
  signedAt : Calendar.Moment
  joined : ∃ before after,
    (pipeline.connections context request).perform before = (.ok (some connection), after)
  placed : ∃ before after,
    ((connection.endpoint.getD pipeline.endpoint) (Outbound.targetOf request)).perform before =
      (.ok uri, after) ∧ after.now = signedAt

namespace Forwarding

/-- All questions with the answers that let the request pass. -/
def calls (forwarding : Forwarding pipeline context request) : List (Call Outside) :=
  [.bind request context (.ok ()),
   .judge (Policy.actionOf request.rawQuery) (.ok .allowed),
   .remap context.record request none,
   .connect context request (.ok (some forwarding.connection)),
   .place (Outbound.targetOf request) forwarding.signedAt (.ok forwarding.uri)]

/-- What is made of the request in the end. -/
def outcome (forwarding : Forwarding pipeline context request) :
    Except GatewayError OutboundRequest :=
  Outbound.assemble pipeline.suite ⟨forwarding.signedAt, pipeline.maxDrift⟩ request
    context.record forwarding.connection.credential forwarding.connection.role forwarding.uri

variable {forwarding : Forwarding pipeline context request} {outbound : OutboundRequest}
  (made : forwarding.outcome = .ok outbound)

include made

theorem uri_of_outcome : outbound.uri = forwarding.uri :=
  Outbound.uri_of_assemble made

/-- The address of a request that is forwarded is that of its target. -/
theorem endpoint_eq {addressing : Addressing}
    (addressed : forwarding.connection.endpoint.getD pipeline.endpoint = addressing.rule) :
    addressing.endpoint (Outbound.targetOf request) = .ok outbound.uri := by
  rcases forwarding.placed with ⟨before, after, placed, _⟩
  rw [addressed] at placed
  rw [uri_of_outcome made]
  exact Addressing.endpoint_of_rule placed

end Forwarding

/-- A connection from a caller's record has no address rule of its own. -/
theorem Forwarding.addressed_standard {suite : Digest.Suite} {maxDrift : Nat}
    {credentials : CredentialSource Outside}
    (forwarding : Forwarding (standard suite maxDrift credentials) context request) :
    forwarding.connection.endpoint.getD
        (standard suite maxDrift credentials : Pipeline Outside).endpoint =
      Addressing.standard.rule := by
  rcases forwarding.joined with ⟨before, after, joined⟩
  have general : (standard suite maxDrift credentials : Pipeline Outside).connections =
      Connection.fromRecord := by
    dsimp only [standard]
  rw [general] at joined
  have found : Connection.ofRecord context.record = some forwarding.connection :=
    Except.ok.inj (congrArg Prod.fst joined)
  rcases Option.map_eq_some_iff.mp found with ⟨credential, _, same⟩
  rw [← same]
  dsimp only [standard, Option.getD_none]

/-- What a pipeline that maps no bucket lets through was forwarded as it is. -/
theorem forwarding_of_route {world after : World Outside} {outbound : OutboundRequest}
    (unmapped : pipeline.remap = fun _ _ => pure none)
    (done : (pipeline.route request context).perform world = (.ok outbound, after)) :
    ∃ forwarding : Forwarding pipeline context request,
      ((pipeline.watched.route request context).perform (world.withCalls [])).2.calls =
          forwarding.calls ∧
        forwarding.outcome = .ok outbound := by
  have sameResult := (pipeline.follows_route request context).result_eq world
  rw [done] at sameResult
  rcases pipeline.orderlyAt_route request context (world.withCalls []) with ⟨calls, made, orderly⟩
  rw [sameResult] at orderly
  rcases orderly.fits_of_ok with
    ⟨remapped, later, ⟨_, _, mapped⟩, rfl, connection, uri, signedAt, joined, placed, rfl, result⟩
  have kept : remapped = none := by
    rw [unmapped] at mapped
    exact (congrArg Prod.fst mapped).symm
  subst kept
  refine ⟨⟨connection, uri, signedAt, joined, placed⟩, made, ?_⟩
  exact Result.mapError_eq_ok_iff.mp result.symm

/-- A request that was authenticated was checked against the record that was found for it. -/
theorem found_of_authenticate {world after : World Outside}
    (done : (pipeline.authenticate request).perform world = (.ok context, after)) :
    (pipeline.credentials.lookup request.authorization.accessKey
        request.authorization.securityToken).perform world = (.ok (some context.record), after) ∧
      pipeline.checks request after.now context.record = .ok () ∧
      context.region = some request.authorization.region := by
  cases named : SigningService.ofName? request.authorization.service with
  | none =>
      unfold authenticate at done
      dsimp only at done
      rw [named] at done
      cases done
  | some service =>
      rw [authenticate_eq named] at done
      rcases Attempt.perform_bind_eq_ok done with ⟨found, between, looked, entered⟩
      cases found with
      | none => cases entered
      | some record =>
          dsimp only at entered
          rw [perform_letIn] at entered
          cases checked : pipeline.checks request between.now record with
          | error halt =>
              rw [checked] at entered
              cases entered
          | ok =>
              rw [checked] at entered
              cases entered
              exact ⟨looked, checked, rfl⟩

/-- A request that was processed was verified against the record that was found for it, and
then routed with that record. -/
theorem exists_found_of_process {world after : World Outside} {outbound : OutboundRequest}
    (done : (pipeline.process request).perform world = (.ok outbound, after)) :
    ∃ record between,
      (pipeline.credentials.lookup request.authorization.accessKey
        request.authorization.securityToken).perform world = (.ok (some record), between) ∧
      Signature.verify pipeline.suite ⟨between.now, pipeline.maxDrift⟩ record request = .ok () ∧
      (pipeline.route request ⟨.s3, record, some request.authorization.region⟩).perform between =
        (.ok outbound, after) := by
  rw [process_eq] at done
  rcases Attempt.perform_bind_eq_ok done with ⟨⟨service, record, region⟩, between, passed, proceeded⟩
  rcases found_of_authenticate passed with ⟨looked, checked, rfl⟩
  cases service with
  | s3 => exact ⟨record, between, looked, (checks_eq_ok checked).1, proceeded⟩
  | sts => cases proceeded

/-- A request that was processed was routed with what it was verified with. -/
theorem exists_route_of_process {world after : World Outside} {outbound : OutboundRequest}
    (done : (pipeline.process request).perform world = (.ok outbound, after)) :
    ∃ context between,
      (pipeline.route request context).perform between = (.ok outbound, after) := by
  rcases exists_found_of_process done with ⟨record, between, _, _, routed⟩
  exact ⟨_, between, routed⟩

end Pipeline
end SignedGateway
