import SignedGateway.Gateway.Service
import SignedGateway.Proofs.Http.Answer
import SignedGateway.Proofs.Text.Utf8

namespace SignedGateway

/-!
# What the client is told of a failure inside

A status of 500 or more says that the failure is not the client's, and what failed is not told.
The words are withheld by the shape of the error and not by its status.  The shape of an error of
a service that answered has a status of its own, and its words are told whatever the status is.
-/

namespace GatewayError

/-- The words about a service that answered with a status, which the client is told. -/
def disclosed : GatewayError → Option String
  | .provider (some _) message => some message
  | _ => none

end GatewayError

namespace Http

/-- What the client is told about a service that answered with a status. -/
def providerMessage (message : String) : String :=
  "upstream provider error: " ++ message

theorem publicMessage_of_internal {error : GatewayError} (internal : 500 ≤ error.status) :
    publicMessage error = (error.disclosed.map providerMessage).getD internalMessage := by
  cases error with
  | authentication code message => exact absurd internal (show ¬ 500 ≤ 401 by decide)
  | authorization reason => exact absurd internal (show ¬ 500 ≤ 403 by decide)
  | notFound code message => exact absurd internal (show ¬ 500 ≤ 404 by decide)
  | provider status message => cases status <;> rfl
  | malformed code message => exact absurd internal (show ¬ 500 ≤ 400 by decide)
  | configuration message => rfl

theorem providerMessage_ne_internalMessage (message : String) :
    providerMessage message ≠ internalMessage := by
  intro same
  have begins := Text.afterHead_eq_some_iff.mpr same.symm
  have other : Text.afterHead "upstream provider error: " internalMessage = none := by
    decide +kernel
  rw [other] at begins
  cases begins

/-- The client tells two failures inside from each other by what is disclosed of them. -/
theorem publicMessage_eq_iff {left right : GatewayError} (leftInternal : 500 ≤ left.status)
    (rightInternal : 500 ≤ right.status) :
    publicMessage left = publicMessage right ↔ left.disclosed = right.disclosed := by
  rw [publicMessage_of_internal leftInternal, publicMessage_of_internal rightInternal]
  cases left.disclosed with
  | none =>
      cases right.disclosed with
      | none => exact iff_of_true rfl rfl
      | some message =>
          exact iff_of_false (providerMessage_ne_internalMessage message).symm nofun
  | some message =>
      cases right.disclosed with
      | none => exact iff_of_false (providerMessage_ne_internalMessage message) nofun
      | some other =>
          rw [Option.map_some, Option.map_some, Option.getD_some, Option.getD_some, Option.some_inj]
          exact String.append_right_inj "upstream provider error: "

/-- Documents with different messages are different. -/
theorem eq_message_of_errorDocument_eq {code left right : String} {resource : Option String}
    {requestId : String}
    (same : errorDocument code left resource requestId =
      errorDocument code right resource requestId) : left = right := by
  have root := (readable_error code left resource requestId).read_document
  rw [← errorDocument_eq, same, errorDocument_eq,
    (readable_error code right resource requestId).read_document] at root
  have children := (Xml.element.inj (Option.some.inj root)).2.2
  have message := (List.cons.inj (List.cons.inj children).2).1
  exact (Xml.text.inj (List.cons.inj (Xml.element.inj message).2.2).1).symm

/-- Failures inside that agree on status and code are answered with the same bytes exactly if the
same is disclosed of them.  Of faults in the configuration and of services that gave no status
nothing is disclosed. -/
theorem errorResponse_eq_iff {left right : GatewayError} (sameStatus : left.status = right.status)
    (internal : 500 ≤ left.status) (sameCode : left.code = right.code)
    (resource : Option String) (requestId : String) :
    errorResponse left resource requestId = errorResponse right resource requestId ↔
      left.disclosed = right.disclosed := by
  rw [← publicMessage_eq_iff internal (sameStatus ▸ internal)]
  constructor
  · intro same
    rw [errorResponse, errorResponse, sameStatus, sameCode] at same
    have bodies := (Response.mk.inj same).2.2
    exact eq_message_of_errorDocument_eq (Utf8.bytesOf_injective bodies)
  · intro same
    rw [errorResponse, errorResponse, sameStatus, sameCode, same]

/-- A fault in the configuration is not told from a service that cannot be reached. -/
theorem errorResponse_of_refused_connection :
    errorResponse (.configuration "no credentials are given") none "req-1" =
      errorResponse (.provider none "connect to 10.0.0.1 refused") none "req-1" :=
  (errorResponse_eq_iff rfl (by decide) rfl none "req-1").mpr rfl

/-- A client tells a store that is not reached from one whose reply breaks off, though both are
failures of one status and one code. -/
theorem errorResponse_tells_failures_of_store :
    GatewayService.storeUnreachable.status = GatewayService.storeReplyTruncated.status ∧
      500 ≤ GatewayService.storeUnreachable.status ∧
      GatewayService.storeUnreachable.code = GatewayService.storeReplyTruncated.code ∧
      errorResponse GatewayService.storeUnreachable none "req-1" ≠
        errorResponse GatewayService.storeReplyTruncated none "req-1" := by
  refine ⟨rfl, by decide, rfl, fun same => ?_⟩
  have bodies := (Response.mk.inj same).2.2
  have messages := eq_message_of_errorDocument_eq (Utf8.bytesOf_injective bodies)
  exact absurd messages (by decide +kernel)

end Http
end SignedGateway
