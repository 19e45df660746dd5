import SignedGateway.Proofs.Gateway.Asking
import SignedGateway.Proofs.Gateway.Routing

namespace SignedGateway

/-!
# The action that is judged and the action that is sent

The policy judges a request by the first token of its query as the client spelled it.
The store judges by the query that it gets, and that was read, filtered and written
anew.  Both actions are told in closed form here, for every spelling of a query and
every policy.  They are the same if the first token is itself sent and keeps its word.
They need not be the same otherwise, and then the store is asked for an action that no
policy has judged.
-/

namespace Pipeline

variable {Outside : Type} {pipeline : Pipeline Outside} {request : StoreRequest}
  {context : SigningContext} {outbound : OutboundRequest}

/-- The action of a request that was forwarded. -/
theorem Forwarding.actionOf_query {forwarding : Forwarding pipeline context request}
    (made : forwarding.outcome = .ok outbound) {addressing : Addressing}
    (addressed : forwarding.connection.endpoint.getD pipeline.endpoint = addressing.rule)
    {query : String} (read : request.query = Uri.Query.parse query) :
    Policy.actionOf outbound.uri.query =
      (Outbound.sentTokens query).head?.bind fun token =>
        Policy.wordOf (Policy.respell token) := by
  rw [Addressing.query_of_endpoint (Outbound.isQueryChar_of_mem_targetOf request)
    (Forwarding.endpoint_eq made addressed), Policy.actionOf_filter]
  exact Outbound.actionOf_targetOf read

/-- A request that is forwarded as it is was judged once, by the action of its query as
the client spelled it.  The action of the request for the store is the word of the first
token that is sent, as the gateway spells it.  If that is the client's first token, the
two actions are the same exactly if the token keeps its word. -/
theorem action_judged_and_sent {message : Http.Request} {ownPath : Option String}
    {requestId : String} {world after : World Outside}
    (read : Incoming.read message ownPath requestId = .ok request)
    (unmapped : pipeline.remap = fun _ _ => pure none)
    (routed : (pipeline.route request context).perform world = (.ok outbound, after)) :
    ∃ forwarding : Forwarding pipeline context request,
      ((pipeline.watched.route request context).perform (world.withCalls [])).2.calls =
          forwarding.calls ∧
        ∀ addressing : Addressing,
          forwarding.connection.endpoint.getD pipeline.endpoint = addressing.rule →
          Policy.actionOf outbound.uri.query =
              (Outbound.sentTokens (request.rawQuery.getD "")).head?.bind (fun token =>
                Policy.wordOf (Policy.respell token)) ∧
            ∀ token, token = Policy.firstToken (request.rawQuery.getD "") →
              (Outbound.sentTokens (request.rawQuery.getD "")).head? = some token →
              (Policy.actionOf request.rawQuery = Policy.actionOf outbound.uri.query ↔
                Policy.KeepsWord token) := by
  have parsed := Incoming.query_of_read read
  rcases forwarding_of_route unmapped routed with ⟨forwarding, calls, made⟩
  refine ⟨forwarding, calls, fun addressing addressed => ?_⟩
  have sent := Forwarding.actionOf_query made addressed parsed
  refine ⟨sent, ?_⟩
  intro token first sentFirst
  have nonempty : token ≠ "" := by
    have member := List.mem_of_head? sentFirst
    rw [Outbound.sentTokens, List.mem_filter, List.mem_filter] at member
    exact bne_iff_ne.mp member.1.2
  rw [sent, sentFirst, Policy.actionOf_eq, ← first, Option.bind_some]
  exact Policy.wordOf_respell_eq_iff nonempty

/-- A client that asks for the access rules by their plain name is judged for them. -/
theorem action_of_plain_name :
    ∃ request context outbound between after,
      Incoming.read (Client.asking .sha256 "/b/k" "acl") none "id" = .ok request ∧
      ((Client.pipeline .sha256).route request context).perform between = (.ok outbound, after) ∧
      Policy.actionOf request.rawQuery = some "acl" ∧
      Policy.actionOf outbound.uri.query = some "acl" := by
  rcases Client.exists_asked .sha256 "k" with ⟨request, read, asked⟩
  rcases asked.exists_outbound (by decide +kernel) with ⟨_, outbound, _, _, processed⟩
  rcases exists_route_of_process processed with ⟨context, between, routed⟩
  rcases action_judged_and_sent read rfl routed with ⟨forwarding, _, sent⟩
  have first := (sent Addressing.standard forwarding.addressed_standard).1
  rw [asked.rawQuery] at first
  refine ⟨request, context, outbound, between, _, read, routed, ?_, ?_⟩
  · rw [asked.rawQuery]
    decide +kernel
  · rw [first]
    decide +kernel

/-- A client that asks for them with an equals sign is judged for no action at all, and
the store is asked for them all the same. -/
theorem action_of_name_with_equals_sign :
    ∃ request context outbound between after,
      Incoming.read (Client.asking .sha256 "/b/k" "acl=") none "id" = .ok request ∧
      ((Client.pipeline .sha256).route request context).perform between = (.ok outbound, after) ∧
      Policy.actionOf request.rawQuery = none ∧
      Policy.actionOf outbound.uri.query = some "acl" := by
  rcases Client.exists_heard .sha256 "/b/k" (by decide : "acl=" ≠ "") with ⟨request, read, heard⟩
  have place := heard.object (by decide +kernel : Route.bucketAndKey "/b/k" = ("b", "k"))
  have target : Outbound.targetOf request = ⟨"k", "b", "r", some "acl"⟩ := by
    rw [Outbound.targetOf, place.1, place.2, heard.region, heard.query]
    decide +kernel
  have bounded : Addressing.standard.Bounded (Outbound.targetOf request) := by
    rw [target]
    decide +kernel
  rcases heard.exists_outbound_unmapped bounded with ⟨outbound, _, placed, _, processed⟩
  rcases exists_route_of_process processed with ⟨context, between, routed⟩
  refine ⟨request, context, outbound, between, _, read, routed, ?_, ?_⟩
  · rw [heard.rawQuery]
    decide +kernel
  · rw [Addressing.query_of_endpoint (Outbound.isQueryChar_of_mem_targetOf request) placed, target]
    decide +kernel

end Pipeline
end SignedGateway
