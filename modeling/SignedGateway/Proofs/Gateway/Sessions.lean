import SignedGateway.Proofs.Gateway.FailClosed
import SignedGateway.Proofs.Session.Assume

namespace SignedGateway

/-!
# What a request does to the sessions

The collaborators of a gateway know nothing of its sessions.  So a request for the store
only looks a session up, and a request for a role either adds the session of a caller whom
the directory lists, or leaves every session that has not expired.
-/

/-! ## Collaborators that leave sessions alone -/

namespace Attempt

variable {Outside α β : Type}

/-- The attempt changes no session, and what it returns is as wanted. -/
def SparesSessions (attempt : Attempt Outside α) (wanted : α → Prop) : Prop :=
  ∀ world, (attempt.perform world).2.sessions = world.sessions ∧
    ∀ value, (attempt.perform world).1 = .ok value → wanted value

theorem sparesSessions_of_kept {attempt : Attempt Outside α}
    (kept : ∀ world, (attempt.perform world).2.sessions = world.sessions) :
    attempt.SparesSessions fun _ => True :=
  fun world => ⟨kept world, fun _ _ => trivial⟩

theorem sparesSessions_ofExcept (result : Except GatewayError α) :
    (ofExcept result : Attempt Outside α).SparesSessions fun _ => True :=
  sparesSessions_of_kept fun world => by rw [perform_ofExcept]

theorem sparesSessions_iff {attempt : Attempt Outside α} {wanted : α → Prop} :
    attempt.SparesSessions wanted ↔
      ∀ sessions, attempt.Retains (fun world => world.sessions = sessions) wanted := by
  constructor
  · intro spares sessions world held
    exact ⟨(spares world).1.trans held, (spares world).2⟩
  · exact fun retains world => retains world.sessions world rfl

theorem SparesSessions.bind {attempt : Attempt Outside α} {next : α → Attempt Outside β}
    {wanted : α → Prop} {wantedNext : β → Prop} (first : attempt.SparesSessions wanted)
    (later : ∀ value, wanted value → (next value).SparesSessions wantedNext) :
    (attempt >>= next).SparesSessions wantedNext := by
  rw [sparesSessions_iff] at first ⊢
  intro sessions
  apply (first sessions).bind
  intro value returned
  exact sparesSessions_iff.mp (later value returned) sessions

/-- A step that only notes, reads the clock or the like may come first. -/
theorem SparesSessions.after {attempt : Attempt Outside α} {next : α → Attempt Outside β}
    {wanted : β → Prop} (kept : ∀ world, (attempt.perform world).2.sessions = world.sessions)
    (later : ∀ value, (next value).SparesSessions wanted) :
    (attempt >>= next).SparesSessions wanted :=
  (sparesSessions_of_kept kept).bind fun value _ => later value

end Attempt

namespace GatewayService

variable {Outside : Type}

/-- Policies, mappings, connections, address rules and the transport know of no sessions. -/
structure SparesSessions (service : GatewayService Outside) : Prop where
  policy : ∀ request context,
    (service.pipeline.policy.judgeFor request context).SparesSessions fun judge =>
      ∀ action, (judge action).SparesSessions fun _ => True
  remap : ∀ record request world,
    ((service.pipeline.remap record request).run world).2.sessions = world.sessions
  connections : ∀ context request,
    (service.pipeline.connections context request).SparesSessions fun found =>
      ∀ connection ∈ found, ∀ rule ∈ connection.endpoint, ∀ target,
        (rule target).SparesSessions fun _ => True
  endpoint : ∀ target, (service.pipeline.endpoint target).SparesSessions fun _ => True
  transport : ∀ sent world, ((service.transport sent).run world).2.sessions = world.sessions

namespace SparesSessions

variable {service : GatewayService Outside} (spares : service.SparesSessions)

include spares

theorem verdict (request : StoreRequest) (context : SigningContext) :
    (service.pipeline.policy.verdict request context).SparesSessions fun _ => True := by
  apply (spares.policy request context).bind
  intro judge judges
  apply (judges (Policy.actionOf request.rawQuery)).bind
  intro decision _
  exact Attempt.sparesSessions_of_kept fun _ => rfl

theorem resolve (record : CredentialRecord) (request : StoreRequest) (world : World Outside) :
    ((service.pipeline.resolve record request).run world).2.sessions = world.sessions := by
  have kept := spares.remap record request world
  unfold Pipeline.resolve
  rw [Act.run_bind]
  cases ((service.pipeline.remap record request).run world).1 <;> exact kept

theorem deliver (context : SigningContext) (resolved : StoreRequest) :
    (service.pipeline.deliver context resolved).SparesSessions fun _ => True := by
  apply (spares.connections context resolved).bind
  intro found rules
  cases found with
  | none => exact Attempt.sparesSessions_of_kept fun _ => rfl
  | some connection =>
      have placed : ((connection.endpoint.getD service.pipeline.endpoint)
          (Outbound.targetOf resolved)).SparesSessions fun _ => True := by
        cases own : connection.endpoint with
        | none => exact spares.endpoint _
        | some rule => exact rules connection rfl rule own _
      have prepared : (Outbound.prepare service.pipeline.suite service.pipeline.maxDrift
          service.pipeline.endpoint connection context.record resolved).SparesSessions
            fun _ => True := by
        apply placed.bind
        intro uri _
        apply Attempt.SparesSessions.after fun _ => rfl
        intro now
        exact Attempt.sparesSessions_ofExcept _
      apply prepared.bind
      intro outbound _
      exact Attempt.sparesSessions_of_kept fun _ => rfl

theorem route (request : StoreRequest) (context : SigningContext) :
    (service.pipeline.route request context).SparesSessions fun _ => True := by
  rw [Pipeline.route_eq]
  apply (spares.verdict request context).bind
  intro decision _
  apply (Attempt.sparesSessions_ofExcept _).bind
  intro _ _
  apply Attempt.SparesSessions.after (spares.resolve context.record request)
  intro resolved
  apply Attempt.SparesSessions.after fun _ => rfl
  intro _
  apply Attempt.SparesSessions.after fun _ => rfl
  intro _
  exact spares.deliver context resolved

theorem forward (outbound : OutboundRequest) :
    (service.forward outbound).SparesSessions fun _ => True := by
  apply Attempt.SparesSessions.after
  · intro world
    rw [Attempt.perform_act, Http.Transport.send]
    split
    · exact spares.transport _ world
    · rfl
  · exact fun exchange => Attempt.sparesSessions_ofExcept _

theorem proceed (request : StoreRequest) (context : SigningContext) :
    (service.pipeline.proceed request context >>= service.forward).SparesSessions
      fun _ => True := by
  have proceeds : (service.pipeline.proceed request context).SparesSessions fun _ => True := by
    unfold Pipeline.proceed
    cases context.service with
    | s3 => exact spares.route request context
    | sts => exact Attempt.sparesSessions_of_kept fun _ => rfl
  exact proceeds.bind fun outbound _ => spares.forward outbound

end SparesSessions
end GatewayService

/-! ## Finding the caller -/

/-- The world once the sessions were looked through for the caller of a request. -/
def World.lookedUp {Outside : Type} (world : World Outside) (request : StoreRequest) :
    World Outside :=
  { world with
    sessions := (world.sessions.lookup request.authorization.accessKey
      request.authorization.securityToken world.now).2 }

theorem World.sheds_lookedUp {Outside : Type} (world : World Outside) (request : StoreRequest) :
    world.sessions.Sheds (world.lookedUp request).sessions world.now :=
  world.sessions.sheds_lookup _ _ _

namespace Pipeline

variable {Outside : Type} {pipeline : Pipeline Outside} {directory : Directory}

/-- A context with the record of a session or of the directory, whose secret signed. -/
structure Admits (pipeline : Pipeline Outside) (directory : Directory) (request : StoreRequest)
    (world : World Outside) (context : SigningContext) : Prop where
  named : SigningService.ofName? request.authorization.service = some context.service
  found : ((world.sessions.lookup request.authorization.accessKey
    request.authorization.securityToken world.now).1 <|>
      directory.find? request.authorization.accessKey request.authorization.securityToken) =
        some context.record
  verified : Signature.verify pipeline.suite ⟨world.now, pipeline.maxDrift⟩ context.record request =
    .ok ()
  region : context.region = some request.authorization.region

theorem authenticate_cases (credentials : pipeline.credentials = Session.source directory.lookup)
    (request : StoreRequest) (world : World Outside) :
    (∃ halt after, (pipeline.authenticate request).perform world = (.error halt, after) ∧
      world.sessions.Sheds after.sessions world.now) ∨
    ∃ context, (pipeline.authenticate request).perform world =
        (.ok context, world.lookedUp request) ∧ pipeline.Admits directory request world context := by
  cases named : SigningService.ofName? request.authorization.service with
  | none =>
      left
      unfold authenticate
      dsimp only
      rw [named]
      exact ⟨_, world, rfl, .refl _ _⟩
  | some service =>
      have looked := Session.perform_lookup directory request.authorization.accessKey
        request.authorization.securityToken world
      rw [← credentials] at looked
      rw [authenticate_eq named, Attempt.perform_bind_of_ok looked]
      cases found : ((world.sessions.lookup request.authorization.accessKey
          request.authorization.securityToken world.now).1 <|>
            directory.find? request.authorization.accessKey
              request.authorization.securityToken) with
      | none =>
          exact Or.inl ⟨_, _, rfl, world.sheds_lookedUp request⟩
      | some record =>
          dsimp only
          rw [perform_letIn]
          cases checked : pipeline.checks request world.now record with
          | error halt => exact Or.inl ⟨halt, _, rfl, world.sheds_lookedUp request⟩
          | ok =>
              exact Or.inr ⟨_, rfl, named, found, (checks_eq_ok checked).1, rfl⟩

end Pipeline

/-! ## Requests for a role -/

/-- A request for a role is made in the name of the verified record. -/
theorem Role.read_eq_ok {request : StoreRequest} {context : SigningContext} {asked : RoleRequest}
    (done : Role.read request context = .ok asked) :
    asked.caller = context.record.emulated ∧
      asked.region = context.region.getD request.authorization.region ∧
      parameter? (parameters request) "RoleArn" = some asked.roleArn ∧
      asked.externalId = parameter? (parameters request) "ExternalId" ∧
      readDuration (parameters request) = .ok asked.duration := by
  unfold Role.read at done
  rcases Result.bind_eq_ok_iff.mp done with ⟨_, _, done⟩
  cases named : parameter? (parameters request) "RoleArn" with
  | none =>
      rw [named] at done
      cases done
  | some roleArn =>
      rw [named] at done
      rcases Result.bind_eq_ok_iff.mp done with ⟨duration, lasting, made⟩
      cases made
      exact ⟨rfl, rfl, rfl, rfl, lasting⟩

namespace GatewayService

variable {Outside : Type} {service : GatewayService Outside} {records : List CredentialRecord}
  {request : StoreRequest} {world : World Outside}

/-- The owner of a record has signed a request for a role, and a session is what the request
asks for: it has what the record has at the store, the role, and a limited life. -/
structure Mints (service : GatewayService Outside) (base : CredentialRecord)
    (request : StoreRequest) (now : Calendar.Moment) (session : Session) : Prop where
  accessKey : base.emulated.accessKey = request.authorization.accessKey
  token : base.emulated.session = request.authorization.securityToken
  verified : Signature.verify service.pipeline.suite ⟨now, service.pipeline.maxDrift⟩ base request =
    .ok ()
  remote : session.record.remote = base.remote
  identity : session.record.identity = base.identity
  role : ∃ roleArn, Role.parameter? (Role.parameters request) "RoleArn" = some roleArn ∧
    session.record.role = some ⟨request.authorization.region, roleArn,
      Role.parameter? (Role.parameters request) "ExternalId", none⟩
  length : ∃ requested, Role.readDuration (Role.parameters request) = .ok requested ∧
    session.expiration.unixSeconds = now.unixSeconds + Session.grantedDuration requested
  bounded : 900 ≤ session.expiration.unixSeconds - now.unixSeconds ∧
    session.expiration.unixSeconds - now.unixSeconds ≤ 43200

/-- Sessions are in front of a directory that lists none of their keys. -/
structure InFront (records : List CredentialRecord) (sessions : SessionStore) : Prop where
  keyed : ∀ entry ∈ sessions.sessions, entry.1 = entry.2.record.emulated.accessKey
  unlisted : ∀ entry ∈ sessions.sessions, Directory.Unlisted records entry.1

/-- What comes of a request for a role: nothing, with an error, or a session. -/
inductive Serves (service : GatewayService Outside) (records : List CredentialRecord)
    (request : StoreRequest) (world : World Outside) :
    Except (Halt GatewayError) Http.Response × World Outside → Prop where
  | refused {halt : Halt GatewayError} {after : World Outside}
      (shed : world.sessions.Sheds after.sessions world.now) :
      Serves service records request world (.error halt, after)
  | minted {base : CredentialRecord} {session : Session} {assumed : AssumedRole}
      {after : World Outside} (among : base ∈ records)
      (mints : service.Mints base request world.now session)
      (handed : session.record.emulated = assumed.credential)
      (temporary : Session.Temporary assumed.credential.accessKey)
      (stored : after.sessions = world.sessions.insert session world.now) :
      Serves service records request world
        (.ok (Http.xmlResponse 200 (Role.document assumed request.requestId)), after)

/-- Whoever is verified is the owner of the access key. -/
theorem accessKey_of_admits (inFront : InFront records world.sessions) {context : SigningContext}
    (admits : service.pipeline.Admits (Directory.ofRecords records) request world context) :
    context.record.emulated.accessKey = request.authorization.accessKey := by
  have found := admits.found
  cases looked : (world.sessions.lookup request.authorization.accessKey
      request.authorization.securityToken world.now).1 with
  | none =>
      rw [looked] at found
      exact (Directory.mem_of_find? found).2.1
  | some record =>
      rw [looked] at found
      cases found
      rcases SessionStore.exists_of_lookup looked with ⟨session, stored, own, _⟩
      rw [← own]
      exact (inFront.keyed _ stored).symm

/-- A record that a caller has and that the directory lists was found there. -/
theorem record_of_listed (inFront : InFront records world.sessions) {context : SigningContext}
    (admits : service.pipeline.Admits (Directory.ofRecords records) request world context)
    {base : CredentialRecord} (among : base ∈ records)
    (same : base.emulated = context.record.emulated) :
    (Directory.ofRecords records).find? request.authorization.accessKey
      request.authorization.securityToken = some context.record := by
  have found := admits.found
  cases looked : (world.sessions.lookup request.authorization.accessKey
      request.authorization.securityToken world.now).1 with
  | none =>
      rw [looked] at found
      exact found
  | some record =>
      rcases SessionStore.exists_of_lookup looked with ⟨session, stored, _⟩
      have key := accessKey_of_admits inFront admits
      rw [← same] at key
      exact absurd key (inFront.unlisted _ stored base among)

/-- What the owner of a record is given is what the verified request asks for. -/
theorem mints_of_granted {context : SigningContext}
    (admits : service.pipeline.Admits (Directory.ofRecords records) request world context)
    (listed : (Directory.ofRecords records).find? request.authorization.accessKey
      request.authorization.securityToken = some context.record)
    {asked : RoleRequest} (read : Role.read request context = .ok asked) {session : Session}
    (granted : Session.GrantedBy context.record asked world.now session) :
    service.Mints context.record request world.now session := by
  rcases Directory.mem_of_find? listed with ⟨_, key, token⟩
  rcases Role.read_eq_ok read with ⟨_, region, roleArn, externalId, duration⟩
  have role := granted.role
  rw [region, admits.region, externalId] at role
  exact ⟨key, token, admits.verified, granted.remote, granted.identity, ⟨_, roleArn, role⟩,
    ⟨_, duration, granted.length⟩, granted.bounded⟩

/-- The record that is given a session is the one whose secret signed the request. -/
theorem find?_of_granted (inFront : InFront records world.sessions) {context : SigningContext}
    (admits : service.pipeline.Admits (Directory.ofRecords records) request world context)
    {asked : RoleRequest} (read : Role.read request context = .ok asked) {base : CredentialRecord}
    {session : Session} (found : (Directory.ofRecords records).find? asked.caller.accessKey
      asked.caller.session = some base)
    (granted : Session.GrantedBy base asked world.now session) :
    base = context.record ∧ (Directory.ofRecords records).find? request.authorization.accessKey
      request.authorization.securityToken = some context.record := by
  have caller := (Role.read_eq_ok read).1
  have among := (Directory.mem_of_find? found).1
  have listed := record_of_listed inFront admits among (granted.caller.trans caller)
  rcases Directory.mem_of_find? listed with ⟨_, key, token⟩
  rw [caller, key, token, listed] at found
  exact ⟨(Option.some.inj found).symm, listed⟩

theorem serves_dispatch
    (credentials : service.pipeline.credentials =
      Session.source (Directory.ofRecords records).lookup)
    (role : request.authorization.service = SigningService.sts.name)
    (inFront : InFront records world.sessions) :
    Serves service records request world ((service.dispatch request).perform world) := by
  have assumes (asked : RoleRequest) : service.pipeline.credentials.assumeRole asked =
      Session.assume (Directory.ofRecords records).lookup asked := by
    rw [credentials]
    rfl
  unfold dispatch
  rw [if_pos role]
  rcases Pipeline.authenticate_cases credentials request world with ⟨halt, after, ended, shed⟩ |
    ⟨context, passed, admits⟩
  · rw [Attempt.perform_bind_of_error ended]
    exact .refused shed
  · rw [Attempt.perform_bind_of_ok passed]
    unfold Role.answer
    cases read : Role.read request context with
    | error error => exact .refused (world.sheds_lookedUp request)
    | ok asked =>
        have requested : (Attempt.ofExcept (Except.ok asked : Except GatewayError RoleRequest) :
            Attempt Outside RoleRequest).perform (world.lookedUp request) =
              (.ok asked, world.lookedUp request) := rfl
        rw [Attempt.perform_bind_of_ok requested, assumes]
        have answers := Session.answers_assume records asked (world.lookedUp request)
        rcases assumed : (Session.assume (Directory.ofRecords records).lookup asked).perform
          (world.lookedUp request) with ⟨outcome, after⟩
        rw [assumed] at answers
        cases answers with
        | halted halt =>
            rw [Attempt.perform_bind_of_error assumed]
            exact .refused (world.sheds_lookedUp request)
        | refused =>
            rw [Attempt.perform_bind_of_ok assumed]
            exact .refused (world.sheds_lookedUp request)
        | @begun base _ session _ found granted handed temporary stored =>
            rw [Attempt.perform_bind_of_ok assumed]
            have among := (Directory.mem_of_find? found).1
            rcases find?_of_granted inFront admits read found granted with ⟨rfl, listed⟩
            have stored' : after.sessions = world.sessions.insert session world.now :=
              stored.trans (world.sessions.insert_lookup _ _ _ _)
            exact .minted among (mints_of_granted admits listed read granted) handed temporary
              stored'

/-- The owner of a record who asks for a role by the rules is given a session. -/
theorem exists_dispatch_of_role
    (credentials : service.pipeline.credentials =
      Session.source (Directory.ofRecords records).lookup)
    (role : request.authorization.service = SigningService.sts.name) {context : SigningContext}
    {between : World Outside}
    (passed : (service.pipeline.authenticate request).perform world = (.ok context, between))
    {asked : RoleRequest} (read : Role.read request context = .ok asked)
    (found : (Directory.ofRecords records).find? context.record.emulated.accessKey
      context.record.emulated.session = some context.record)
    {expiration : Calendar.Moment}
    (ends : between.now.plusSeconds? (Session.grantedDuration asked.duration) = some expiration) :
    ∃ response after, (service.dispatch request).perform world = (.ok response, after) := by
  have caller := (Role.read_eq_ok read).1
  have secret : context.record.emulated.secretKey = asked.caller.secretKey := by
    rw [caller]
  rw [← caller] at found
  rcases Session.exists_perform_assume found secret ends with ⟨assumed, after, done⟩
  have requested : (Attempt.ofExcept (Except.ok asked : Except GatewayError RoleRequest) :
      Attempt Outside RoleRequest).perform between = (.ok asked, between) := rfl
  unfold dispatch Role.answer
  rw [if_pos role, Attempt.perform_bind_of_ok passed, read, credentials,
    Attempt.perform_bind_of_ok requested]
  exact ⟨_, after, Attempt.perform_bind_of_ok done _⟩

/-- Callers are looked up behind the sessions, so whoever is verified with a session is told
that it may not be done, unless the parameters are at fault. -/
theorem dispatch_of_unlisted
    (credentials : service.pipeline.credentials =
      Session.source (Directory.ofRecords records).lookup)
    (role : request.authorization.service = SigningService.sts.name) {context : SigningContext}
    {between : World Outside}
    (passed : (service.pipeline.authenticate request).perform world = (.ok context, between))
    (unlisted : Directory.Unlisted records context.record.emulated.accessKey) :
    (service.dispatch request).perform world =
      (.error (.failed (match Role.read request context with
        | .ok _ => Role.notPermitted
        | .error error => error)), between) := by
  unfold dispatch
  rw [if_pos role, Attempt.perform_bind_of_ok passed, credentials]
  unfold Role.answer
  cases read : Role.read request context with
  | error error => rfl
  | ok asked =>
      have requested : (Attempt.ofExcept (Except.ok asked : Except GatewayError RoleRequest) :
          Attempt Outside RoleRequest).perform between = (.ok asked, between) := rfl
      rw [← (Role.read_eq_ok read).1] at unlisted
      rw [Attempt.perform_bind_of_ok requested]
      exact Attempt.perform_bind_of_ok (Session.perform_assume_of_unlisted unlisted between) _

/-! ## Other requests -/

/-- A request for the store looks a session up, and that is all. -/
theorem sheds_dispatch (spares : service.SparesSessions)
    (credentials : service.pipeline.credentials =
      Session.source (Directory.ofRecords records).lookup)
    (other : request.authorization.service ≠ SigningService.sts.name) :
    world.sessions.Sheds ((service.dispatch request).perform world).2.sessions world.now := by
  unfold dispatch
  rw [if_neg other, Pipeline.process_eq, bind_assoc]
  rcases Pipeline.authenticate_cases credentials request world with ⟨halt, after, ended, shed⟩ |
    ⟨context, passed, _⟩
  · rw [Attempt.perform_bind_of_error ended]
    exact shed
  · rw [Attempt.perform_bind_of_ok passed, (spares.proceed request context _).1]
    exact world.sheds_lookedUp request

theorem sessions_finish (request : StoreRequest) (result : Except GatewayError Http.Response)
    (world : World Outside) : ((finish request result).run world).2.sessions = world.sessions := by
  cases result <;> rfl

theorem sessions_serve (service : GatewayService Outside) (request : StoreRequest)
    (world : World Outside) :
    ((service.serve request).run world).2.sessions =
      ((service.dispatch request).perform ((beginLog request).run world).2).2.sessions := by
  unfold serve Attempt.perform
  rw [Act.run_bind, Act.run_bind]
  rcases (service.dispatch request).outcome.run ((beginLog request).run world).2 with
    ⟨outcome, after⟩
  match outcome with
  | .ok response => exact sessions_finish request (.ok response) after
  | .error (.failed error) => exact sessions_finish request (.error error) after
  | .error .outOfCalendar => rfl

/-- A message does to the sessions what its request does, if it makes one. -/
theorem sessions_handle (service : GatewayService Outside) (arrival : Arrival)
    (world : World Outside) :
    ((service.handle arrival).run world).2.sessions =
      match service.readsAs (Supply.identifier world.supply) arrival with
      | none => world.sessions
      | some request => ((service.dispatch request).perform (entered request world)).2.sessions := by
  have responded : ((service.handle arrival).run world).2.sessions =
      ((service.respond (Supply.identifier world.supply) arrival).run
        { world with supply := world.supply.next }).2.sessions := rfl
  rw [responded]
  cases reads : service.readsAs (Supply.identifier world.supply) arrival with
  | none =>
      rcases respond_of_not_reads reads with ⟨handled, answered⟩
      rw [answered]
      rfl
  | some request =>
      rw [respond_of_reads reads, sessions_serve]
      rfl

end GatewayService
end SignedGateway
