import SignedGateway.Proofs.Gateway.Passage

namespace SignedGateway
namespace Pipeline

/-!
# The standard pipeline

A pipeline that asks nobody but a directory lets every request pass that is verified
against its record, once the record has a credential for the store and the address can
be made.  It may give other names to its buckets.
-/

/-- The standard pipeline, with other names for its buckets. -/
def aliased {Outside : Type} (suite : Digest.Suite) (maxDrift : Nat)
    (credentials : CredentialSource Outside) (aliases : StoreRequest → Option Remapped) :
    Pipeline Outside :=
  { standard suite maxDrift credentials with remap := fun _ request => pure (aliases request) }

section Standard

variable {Outside : Type} {suite : Digest.Suite} {maxDrift : Nat} {directory : Directory}
  {request resolved : StoreRequest} {world : World Outside} {record : CredentialRecord}
  {credential : Credential} {uri : Uri} {outbound : OutboundRequest}

theorem perform_letIn_of_checks {pipeline : Pipeline Outside} (service : SigningService)
    (verified : Signature.verify pipeline.suite ⟨world.now, pipeline.maxDrift⟩ record request =
      .ok ())
    (matching : Signature.verifyPayload pipeline.suite request.headers request.body = .ok ()) :
    (pipeline.letIn request service record).perform world =
      (.ok ⟨service, record, some request.authorization.region⟩, world) := by
  rw [perform_letIn, checks, verified, matching]
  rfl

theorem perform_prepare {connection : Connection Outside} {addressing : Addressing}
    (general : connection.endpoint = none)
    (placed : addressing.endpoint (Outbound.targetOf request) = .ok uri)
    (made : Outbound.assemble suite ⟨world.now, maxDrift⟩ request record connection.credential
      connection.role uri = .ok outbound) :
    (Outbound.prepare suite maxDrift addressing.rule connection record request).perform world =
      (.ok outbound, world) := by
  have addressed : (addressing.rule (Outbound.targetOf request)).perform world =
      (.ok uri, world) := by
    unfold Addressing.rule
    rw [Attempt.perform_ofExcept, placed]
    rfl
  unfold Outbound.prepare
  rw [general, Option.getD_none, Attempt.perform_bind_of_ok addressed,
    Attempt.perform_bind_of_ok (Attempt.perform_now world), Attempt.perform_ofExcept, made]
  rfl

theorem exists_perform_deliver {pipeline : Pipeline Outside} {context : SigningContext}
    {connection : Connection Outside} {addressing : Addressing}
    (connected : (pipeline.connections context request).perform world =
      (.ok (some connection), world))
    (general : connection.endpoint = none) (addressed : pipeline.endpoint = addressing.rule)
    (placed : addressing.endpoint (Outbound.targetOf request) = .ok uri)
    (made : Outbound.assemble pipeline.suite ⟨world.now, pipeline.maxDrift⟩ request context.record
      connection.credential connection.role uri = .ok outbound) :
    ∃ after, (pipeline.deliver context request).perform world = (.ok outbound, after) := by
  unfold deliver
  apply Attempt.exists_perform_bind connected
  dsimp only
  rw [addressed]
  exact Attempt.exists_perform_bind (perform_prepare general placed made) ⟨_, rfl⟩

/-- The standard pipeline makes a request for the store of every verified one whose record
has a credential for the store. -/
theorem perform_process_aliased {aliases : StoreRequest → Option Remapped}
    (named : SigningService.ofName? request.authorization.service = some .s3)
    (found : directory.find? request.authorization.accessKey
      request.authorization.securityToken = some record)
    (verified : Signature.verify suite ⟨world.now, maxDrift⟩ record request = .ok ())
    (matching : Signature.verifyPayload suite request.headers request.body = .ok ())
    (remote : record.remote = some credential)
    (mapped : ((aliases request).map (·.applyTo request)).getD request = resolved)
    (placed : Addressing.standard.endpoint (Outbound.targetOf resolved) = .ok uri)
    (made : Outbound.assemble suite ⟨world.now, maxDrift⟩ resolved record credential record.role
      uri = .ok outbound) :
    ∃ after, ((aliased suite maxDrift (.ofLookup directory.lookup) aliases).process
      request).perform world = (.ok outbound, after) := by
  have looked : (directory.lookup request.authorization.accessKey
      request.authorization.securityToken).perform world = (.ok (some record), world) := by
    rw [← found]
    rfl
  have entered : ((aliased suite maxDrift (.ofLookup directory.lookup) aliases).letIn request .s3
      record).perform world = (.ok ⟨.s3, record, some request.authorization.region⟩, world) :=
    perform_letIn_of_checks .s3 verified matching
  have kept (between : World Outside) : (Attempt.act ((aliased suite maxDrift
      (.ofLookup directory.lookup) aliases).resolve record request)).perform between =
        (.ok resolved, between) := by
    rw [Attempt.perform_act, resolve_eq, StateT.run_map]
    exact congrArg (fun request => (Except.ok request, between)) mapped
  have connected (between : World Outside) : (Connection.fromRecord
      ⟨.s3, record, some request.authorization.region⟩ resolved).perform between =
        (.ok (some ⟨credential, record.role, none⟩), between) := by
    unfold Connection.fromRecord Connection.ofRecord
    rw [remote]
    rfl
  rw [process_eq, authenticate_eq named, bind_assoc]
  apply Attempt.exists_perform_bind looked
  apply Attempt.exists_perform_bind entered
  change ∃ after, ((aliased suite maxDrift (.ofLookup directory.lookup) aliases).route request
    ⟨.s3, record, some request.authorization.region⟩).perform world = _
  rw [route_eq]
  apply Attempt.exists_perform_bind rfl
  apply Attempt.exists_perform_bind rfl
  apply Attempt.exists_perform_bind (kept _)
  apply Attempt.exists_perform_bind rfl
  apply Attempt.exists_perform_bind rfl
  have addressed : (aliased suite maxDrift (.ofLookup directory.lookup) aliases :
      Pipeline Outside).endpoint = Addressing.standard.rule := by
    dsimp only [aliased, standard]
  exact exists_perform_deliver (connected _) rfl addressed placed made

end Standard
end Pipeline
end SignedGateway
