import SignedGateway.Proofs.Gateway.Discretion

namespace SignedGateway

/-!
# Who is to blame

Most errors are made by the gateway itself, with statuses that tell the client of a failure.  An
error that another has made is passed on as it is.  Here is kept what errors a result or an
attempt may end with, so that each of them can be traced to who has made it.
-/

namespace GatewayError

/-- The status tells the client that the request has failed. -/
def SaysFailure (error : GatewayError) : Prop :=
  400 ≤ error.status ∧ error.status ≤ 599

/-- Only the status of a service that was asked may be anything. -/
theorem saysFailure_of_own {error : GatewayError}
    (own : ∀ status message, error ≠ .provider (some status) message) : error.SaysFailure := by
  cases error with
  | authentication code message => exact (by decide : 400 ≤ 401 ∧ 401 ≤ 599)
  | authorization reason => exact (by decide : 400 ≤ 403 ∧ 403 ≤ 599)
  | notFound code message => exact (by decide : 400 ≤ 404 ∧ 404 ≤ 599)
  | provider status message =>
      cases status with
      | none => exact (by decide : 400 ≤ 500 ∧ 500 ≤ 599)
      | some status => exact absurd rfl (own status message)
  | malformed code message => exact (by decide : 400 ≤ 400 ∧ 400 ≤ 599)
  | configuration message => exact (by decide : 400 ≤ 500 ∧ 500 ≤ 599)

end GatewayError

theorem AuthError.saysFailure (fault : AuthError) : fault.toGatewayError.SaysFailure := by
  cases fault <;> exact GatewayError.saysFailure_of_own nofun

/-! ## Results -/

namespace Result

variable {ε ε' α β : Type}

/-- The result is no error but one of a kind. -/
def FailsOnly (result : Except ε α) (blamed : ε → Prop) : Prop :=
  ∀ error, result = .error error → blamed error

variable {blamed : ε → Prop}

theorem failsOnly_ok (value : α) : FailsOnly (.ok value) blamed :=
  fun _ none => nomatch none

theorem failsOnly_error {error : ε} (blame : blamed error) :
    FailsOnly (.error error : Except ε α) blamed := by
  intro other same
  cases same
  exact blame

theorem failsOnly_own {error : GatewayError}
    (own : ∀ status message, error ≠ .provider (some status) message) :
    FailsOnly (.error error : Except GatewayError α) GatewayError.SaysFailure :=
  failsOnly_error (GatewayError.saysFailure_of_own own)

theorem FailsOnly.bind {first : Except ε α} {next : α → Except ε β}
    (firstFails : FailsOnly first blamed) (later : ∀ value, FailsOnly (next value) blamed) :
    FailsOnly (first >>= next) blamed := by
  cases first with
  | error error => exact failsOnly_error (firstFails error rfl)
  | ok value => exact later value

theorem failsOnly_mapError {report : ε' → ε} (blame : ∀ fault, blamed (report fault))
    (result : Except ε' α) : FailsOnly (result.mapError report) blamed := by
  cases result with
  | error fault => exact failsOnly_error (blame fault)
  | ok value => exact failsOnly_ok value

theorem FailsOnly.mono {result : Except ε α} {others : ε → Prop}
    (fails : FailsOnly result blamed) (more : ∀ error, blamed error → others error) :
    FailsOnly result others :=
  fun error ended => more error (fails error ended)

end Result

open Result

namespace GatewayService

theorem failsOnly_acceptBody (limit : Nat) (body : ReceivedBody) :
    FailsOnly (acceptBody limit body) GatewayError.SaysFailure := by
  cases body with
  | broken => exact failsOnly_own nofun
  | whole bytes =>
      unfold acceptBody
      dsimp only
      split_ifs
      · exact failsOnly_own nofun
      · exact failsOnly_ok bytes

/-- A store that gives no whole reply has a status of its own. -/
theorem failsOnly_interpret (exchange : Http.Exchange) :
    FailsOnly (interpret exchange) GatewayError.SaysFailure := by
  cases exchange with
  | unreachable detail => exact failsOnly_error (by decide : 400 ≤ 502 ∧ 502 ≤ 599)
  | answered reply complete =>
      cases complete with
      | true => exact failsOnly_ok _
      | false => exact failsOnly_error (by decide : 400 ≤ 502 ∧ 502 ≤ 599)

end GatewayService

theorem Incoming.failsOnly_read (message : Http.Request) (ownPath : Option String)
    (requestId : String) :
    FailsOnly (Incoming.read message ownPath requestId) GatewayError.SaysFailure := by
  unfold Incoming.read
  dsimp only
  split
  · exact failsOnly_own nofun
  · split
    · exact failsOnly_error (AuthError.saysFailure _)
    · exact failsOnly_ok _

theorem Policy.Decision.failsOnly_toExcept (decision : Policy.Decision) :
    FailsOnly decision.toExcept GatewayError.SaysFailure := by
  cases decision with
  | allowed => exact failsOnly_ok ()
  | denied reason => exact failsOnly_own nofun

/-- A policy server may answer anything, but it gives no status. -/
theorem Policy.Server.failsOnly_interpret (exchange : Http.Exchange) :
    FailsOnly (interpret exchange) GatewayError.SaysFailure := by
  unfold interpret
  split
  · exact failsOnly_own nofun
  · split_ifs
    · exact failsOnly_own nofun
    · exact failsOnly_own nofun
    · split
      · exact failsOnly_own nofun
      · split
        · exact failsOnly_ok _
        · exact failsOnly_own nofun

theorem Addressing.failsOnly_endpoint (addressing : Addressing) (target : StoreTarget) :
    FailsOnly (addressing.endpoint target) GatewayError.SaysFailure := by
  unfold endpoint
  dsimp only
  split
  · exact failsOnly_own nofun
  · split
    · exact failsOnly_own nofun
    · exact failsOnly_ok _

namespace Outbound

theorem failsOnly_payload (suite : Digest.Suite) (request : StoreRequest) :
    FailsOnly (payload suite request) GatewayError.SaysFailure := by
  have refused (fault : Chunked.Fault) : fault.toGatewayError.SaysFailure :=
    GatewayError.saysFailure_of_own nofun
  unfold payload
  dsimp only
  split_ifs
  · cases Chunked.decode request.body with
    | error fault => exact failsOnly_error (refused fault)
    | ok body => exact failsOnly_ok _
  · exact failsOnly_ok _
  · exact failsOnly_ok _

theorem failsOnly_fieldsFrom (fields : Http.Fields) (pairs : List (String × String)) :
    FailsOnly (fieldsFrom fields pairs) GatewayError.SaysFailure := by
  induction pairs generalizing fields with
  | nil => exact failsOnly_ok fields
  | cons pair rest inductionHypothesis =>
      unfold fieldsFrom
      split_ifs
      · exact failsOnly_own nofun
      · exact failsOnly_own nofun
      · exact inductionHypothesis _

theorem failsOnly_signedFields (headers : MultiMap) (authorization : String) :
    FailsOnly (signedFields headers authorization) GatewayError.SaysFailure := by
  refine (failsOnly_fieldsFrom [] headers.pairs).bind fun fields => ?_
  split_ifs
  · exact failsOnly_ok _
  · exact failsOnly_own nofun

theorem failsOnly_assemble (suite : Digest.Suite) (clock : Clock) (request : StoreRequest)
    (record : CredentialRecord) (credential : Credential) (role : Option SessionRole) (uri : Uri) :
    FailsOnly (assemble suite clock request record credential role uri)
      GatewayError.SaysFailure := by
  unfold assemble
  split
  · refine (failsOnly_payload suite request).bind fun described => ?_
    refine (failsOnly_mapError AuthError.saysFailure _).bind fun signed => ?_
    refine (failsOnly_signedFields _ _).bind fun fields => ?_
    split_ifs
    · exact failsOnly_ok _
    · exact failsOnly_own nofun
  · exact failsOnly_own nofun

end Outbound

namespace Role

theorem failsOnly_checkAction (parameters : List (String × String)) :
    FailsOnly (checkAction parameters) GatewayError.SaysFailure := by
  unfold checkAction
  split
  · exact failsOnly_own nofun
  · split_ifs
    · exact failsOnly_ok ()
    · exact failsOnly_own nofun

theorem failsOnly_readDuration (parameters : List (String × String)) :
    FailsOnly (readDuration parameters) GatewayError.SaysFailure := by
  unfold readDuration
  split
  · exact failsOnly_ok none
  · split
    · exact failsOnly_ok _
    · exact failsOnly_own nofun

theorem failsOnly_read (request : StoreRequest) (context : SigningContext) :
    FailsOnly (read request context) GatewayError.SaysFailure := by
  refine (failsOnly_checkAction _).bind fun _ => ?_
  split
  · exact (failsOnly_readDuration _).bind fun duration => failsOnly_ok _
  · exact failsOnly_own nofun

end Role

/-! ## Attempts -/

namespace Attempt

variable {Outside α β : Type}

/-- An error that ends a composed attempt has ended one of its parts. -/
theorem perform_bind_eq_error {attempt : Attempt Outside α} {next : α → Attempt Outside β}
    {world : World Outside} {halt : Halt GatewayError}
    (ended : ((attempt >>= next).perform world).1 = .error halt) :
    (attempt.perform world).1 = .error halt ∨
      ∃ value between, attempt.perform world = (.ok value, between) ∧
        ((next value).perform between).1 = .error halt := by
  rcases first : attempt.perform world with ⟨outcome, between⟩
  cases outcome with
  | error other =>
      rw [perform_bind_of_error first] at ended
      exact Or.inl (congrArg Except.error (Except.error.inj ended))
  | ok value =>
      rw [perform_bind_of_ok first] at ended
      exact Or.inr ⟨value, between, rfl, ended⟩

theorem eq_error_of_perform_ofExcept {result : Except GatewayError α} {world : World Outside}
    {error : GatewayError}
    (ended : ((ofExcept result : Attempt Outside α).perform world).1 = .error (.failed error)) :
    result = .error error := by
  cases result with
  | ok value => cases ended
  | error other =>
      cases ended
      rfl

/-- The attempt ends with a value that is wanted, or with an error of a kind. -/
def FailsOnly (attempt : Attempt Outside α) (wanted : α → Prop) (blamed : GatewayError → Prop) :
    Prop :=
  ∀ world, (∀ value, (attempt.perform world).1 = .ok value → wanted value) ∧
    ∀ error, (attempt.perform world).1 = .error (.failed error) → blamed error

variable {wanted : α → Prop} {blamed : GatewayError → Prop}

theorem failsOnly_pure {value : α} (good : wanted value) :
    (pure value : Attempt Outside α).FailsOnly wanted blamed := by
  refine fun world => ⟨fun other same => ?_, fun _ none => nomatch none⟩
  cases same
  exact good

theorem failsOnly_fail {error : GatewayError} (blame : blamed error) :
    (fail error : Attempt Outside α).FailsOnly wanted blamed := by
  refine fun world => ⟨fun _ none => (nomatch none), fun other same => ?_⟩
  cases same
  exact blame

theorem failsOnly_act (action : Act Outside α) :
    (act action).FailsOnly (fun _ => True) blamed :=
  fun _ => ⟨fun _ _ => trivial, fun _ none => nomatch none⟩

theorem failsOnly_ofExcept {result : Except GatewayError α}
    (fails : Result.FailsOnly result blamed) :
    (ofExcept result : Attempt Outside α).FailsOnly (fun _ => True) blamed := by
  cases result with
  | ok value => exact failsOnly_pure trivial
  | error error => exact failsOnly_fail (fails error rfl)

/-- Whatever is wrong with a signature, the client is told that the request has failed. -/
theorem failsOnly_ofCheck (result : Except (Halt AuthError) α) :
    (ofCheck result : Attempt Outside α).FailsOnly (fun _ => True) GatewayError.SaysFailure := by
  match result with
  | .ok value => exact failsOnly_pure trivial
  | .error (.failed fault) => exact failsOnly_fail fault.saysFailure
  | .error .outOfCalendar => exact fun _ => ⟨fun _ _ => trivial, fun _ none => nomatch none⟩

theorem FailsOnly.bind {attempt : Attempt Outside α} {next : α → Attempt Outside β}
    {wantedNext : β → Prop} (first : attempt.FailsOnly wanted blamed)
    (later : ∀ value, wanted value → (next value).FailsOnly wantedNext blamed) :
    (attempt >>= next).FailsOnly wantedNext blamed := by
  intro world
  rcases first world with ⟨returned, failed⟩
  rcases ended : attempt.perform world with ⟨outcome, between⟩
  rw [ended] at returned failed
  cases outcome with
  | error halt =>
      rw [perform_bind_of_error ended]
      refine ⟨fun _ none => (nomatch none), fun error same => ?_⟩
      exact failed error (congrArg Except.error (Except.error.inj same))
  | ok value =>
      rw [perform_bind_of_ok ended]
      exact later value (returned value rfl) between

theorem FailsOnly.imp {attempt : Attempt Outside α} {good : α → Prop}
    {others : GatewayError → Prop} (fails : attempt.FailsOnly wanted blamed)
    (better : ∀ value, wanted value → good value)
    (more : ∀ error, blamed error → others error) : attempt.FailsOnly good others := by
  intro world
  rcases fails world with ⟨returned, failed⟩
  exact ⟨fun value done => better value (returned value done),
    fun error ended => more error (failed error ended)⟩

theorem FailsOnly.mono {attempt : Attempt Outside α} {others : GatewayError → Prop}
    (fails : attempt.FailsOnly wanted blamed) (more : ∀ error, blamed error → others error) :
    attempt.FailsOnly wanted others :=
  fails.imp (fun _ => id) more

/-- A note of a failure does not change it. -/
theorem FailsOnly.notingFailure {attempt : Attempt Outside α}
    (fails : attempt.FailsOnly wanted blamed) (name : String) :
    (Policy.notingFailure name attempt).FailsOnly wanted blamed := by
  intro world
  rcases fails world with ⟨returned, failed⟩
  rcases ended : attempt.perform world with ⟨outcome, between⟩
  rw [ended] at returned failed
  rw [perform_notingFailure, ended]
  match outcome with
  | .ok value => exact ⟨returned, failed⟩
  | .error (.failed error) => exact ⟨returned, failed⟩
  | .error .outOfCalendar => exact ⟨returned, failed⟩

end Attempt

/-! ## Policies -/

namespace Policy

variable {Outside : Type} {supplied : GatewayError → Prop}

/-- A catalog that fails with errors of a kind. -/
structure Catalog.FailsOnly (catalog : Catalog Outside) (supplied : GatewayError → Prop) :
    Prop where
  tableName : ∀ request action,
    (catalog.tableName request action).FailsOnly (fun _ => True) supplied
  tableOperation : ∀ request table action,
    (catalog.tableOperation request table action).FailsOnly (fun _ => True) supplied
  otherOperation : ∀ request action,
    (catalog.otherOperation request action).FailsOnly (fun _ => True) supplied

/-- The policies that a gateway comes with, and others that are supplied.  What is supplied, be it
a catalog or a policy, fails with errors of a kind. -/
inductive FailsOnly (supplied : GatewayError → Prop) : Policy Outside → Prop where
  | allowAll : FailsOnly supplied Policy.allowAll
  | server (server : Server) (transport : Http.Transport Outside) :
      FailsOnly supplied (server.policy transport)
  | catalog {obtain : StoreRequest → SigningContext → Attempt Outside (Catalog Outside)}
      (errors : ∀ request context,
        (obtain request context).FailsOnly (fun catalog => catalog.FailsOnly supplied) supplied) :
      FailsOnly supplied (Catalog.policy obtain)
  | other {policy : Policy Outside}
      (errors : ∀ request context, (policy.judgeFor request context).FailsOnly
        (fun judge => ∀ action, (judge action).FailsOnly (fun _ => True) supplied) supplied) :
      FailsOnly supplied policy

theorem failsOnly_noteDecision (decision : Decision) :
    (Catalog.noteDecision decision : Attempt Outside Unit).FailsOnly (fun _ => True) supplied := by
  cases decision with
  | allowed => exact Attempt.failsOnly_act _
  | denied reason =>
      cases reason with
      | none => exact Attempt.failsOnly_act _
      | some text => exact (Attempt.failsOnly_act _).bind fun _ _ => Attempt.failsOnly_act _

theorem Catalog.FailsOnly.judge {catalog : Catalog Outside} (fails : catalog.FailsOnly supplied)
    (request : StoreRequest) (action : Option String) :
    (catalog.judge request action).FailsOnly (fun _ => True) supplied := by
  have asks : (catalog.ask request action).FailsOnly (fun _ => True) supplied := by
    refine (fails.tableName request action).bind fun found _ => ?_
    cases found with
    | none => exact fails.otherOperation request action
    | some table =>
        exact (Attempt.failsOnly_act _).bind fun _ _ => fails.tableOperation request table action
  refine (Attempt.failsOnly_act _).bind fun _ _ => ?_
  refine (Attempt.failsOnly_act _).bind fun _ _ => ?_
  refine (Attempt.failsOnly_act _).bind fun _ _ => ?_
  refine (asks.notingFailure "security").bind fun decision _ => ?_
  exact (failsOnly_noteDecision decision).bind fun _ _ => Attempt.failsOnly_pure trivial

theorem Server.failsOnly_judge (server : Server) (transport : Http.Transport Outside)
    (request : StoreRequest) (context : SigningContext) (action : Option String) :
    (server.judge transport request context action).FailsOnly (fun _ => True)
      GatewayError.SaysFailure := by
  have asks : (ask transport (server.questionFor request context action)).FailsOnly
      (fun _ => True) GatewayError.SaysFailure :=
    (Attempt.failsOnly_act _).bind fun exchange _ =>
      Attempt.failsOnly_ofExcept (failsOnly_interpret exchange)
  refine (asks.notingFailure "opa").bind fun decision _ => ?_
  exact (Attempt.failsOnly_act _).bind fun _ _ => Attempt.failsOnly_pure trivial

/-- A verdict fails with the errors of what is supplied, or says that it fails. -/
theorem FailsOnly.verdict {policy : Policy Outside} (fails : FailsOnly supplied policy)
    (request : StoreRequest) (context : SigningContext) :
    (policy.verdict request context).FailsOnly (fun _ => True)
      fun error => error.SaysFailure ∨ supplied error := by
  have judges : (policy.judgeFor request context).FailsOnly
      (fun judge => ∀ action, (judge action).FailsOnly (fun _ => True)
        fun error => error.SaysFailure ∨ supplied error)
      fun error => error.SaysFailure ∨ supplied error := by
    cases fails with
    | allowAll => exact Attempt.failsOnly_pure fun _ => Attempt.failsOnly_pure trivial
    | server server transport =>
        refine Attempt.failsOnly_pure fun action => ?_
        exact (server.failsOnly_judge transport request context action).mono fun _ => Or.inl
    | catalog errors =>
        refine (((errors request context).notingFailure "security").mono fun _ => Or.inr).bind
          fun catalog good => Attempt.failsOnly_pure fun action => ?_
        exact (good.judge request action).mono fun _ => Or.inr
    | other errors =>
        exact (errors request context).imp
          (fun judge good action => (good action).mono fun _ => Or.inr) fun _ => Or.inr
  refine judges.bind fun judge good => (good _).bind fun decision _ => ?_
  exact (Attempt.failsOnly_act _).bind fun _ _ => Attempt.failsOnly_pure trivial

end Policy

/-! ## Connections and addresses -/

section Connections

variable {Outside : Type} {blamed : GatewayError → Prop}

/-- An address rule that fails with errors of a kind. -/
def EndpointRule.FailsOnly (rule : EndpointRule Outside) (blamed : GatewayError → Prop) : Prop :=
  ∀ target, (rule target).FailsOnly (fun _ => True) blamed

/-- Connections that fail with errors of a kind, as do the address rules that they have. -/
def ConnectionRule.FailsOnly (connections : ConnectionRule Outside)
    (blamed : GatewayError → Prop) : Prop :=
  ∀ context request, (connections context request).FailsOnly
    (fun found => ∀ connection ∈ found, ∀ rule ∈ connection.endpoint,
      EndpointRule.FailsOnly rule blamed) blamed

theorem EndpointRule.FailsOnly.mono {rule : EndpointRule Outside} {others : GatewayError → Prop}
    (fails : EndpointRule.FailsOnly rule blamed) (more : ∀ error, blamed error → others error) :
    EndpointRule.FailsOnly rule others :=
  fun target => (fails target).mono more

theorem ConnectionRule.FailsOnly.mono {connections : ConnectionRule Outside}
    {others : GatewayError → Prop} (fails : ConnectionRule.FailsOnly connections blamed)
    (more : ∀ error, blamed error → others error) :
    ConnectionRule.FailsOnly connections others :=
  fun context request => (fails context request).imp
    (fun _ rules connection member rule own => (rules connection member rule own).mono more) more

theorem Addressing.failsOnly_rule (addressing : Addressing) :
    EndpointRule.FailsOnly (addressing.rule : EndpointRule Outside) GatewayError.SaysFailure :=
  fun target => Attempt.failsOnly_ofExcept (addressing.failsOnly_endpoint target)

/-- Connections that settings ask for are given without fail, and their address rules tell of a
failure. -/
theorem StoreSettings.failsOnly_connections {settings : StoreSettings} {files : Files}
    {connections : ConnectionRule Outside} (made : settings.connections files = .ok connections) :
    ConnectionRule.FailsOnly connections GatewayError.SaysFailure := by
  intro context request
  rcases exists_addressed made context request with ⟨found, given, addressed⟩
  rw [given]
  apply Attempt.failsOnly_pure
  intro connection member rule own
  rcases addressed connection member rule own with ⟨addressing, rfl⟩
  exact addressing.failsOnly_rule

end Connections
end SignedGateway
