import Mathlib.Logic.Relation
import SignedGateway.Proofs.Gateway.Client
import SignedGateway.Proofs.Gateway.Sessions

namespace SignedGateway
namespace GatewayService

/-!
# The authority of a role

A gateway whose records come from a directory, with sessions in front of it, gives out
temporary credentials.  Whoever holds one may use the store in the role that it was given
for, but cannot get another one with it: callers who ask for a role are looked up behind the
sessions.  So along every run each session goes back to the owner of a record in the
directory, and ends within twelve hours of the moment at which that owner asked for it.
-/

variable {Outside : Type} {service : GatewayService Outside} {records : List CredentialRecord}

/-! ## Runs -/

/-- What may come next.  A message is handled, and no key that is made for it is listed in the
directory; or time passes, and anything may change but the sessions. -/
inductive Next (service : GatewayService Outside) (records : List CredentialRecord) :
    World Outside → World Outside → Prop where
  | handled {world : World Outside} (arrival : Arrival)
      (fresh : ∀ entry ∈ ((service.handle arrival).run world).2.sessions.sessions,
        entry ∉ world.sessions.sessions → Directory.Unlisted records entry.1) :
      Next service records world ((service.handle arrival).run world).2
  | passed {world later : World Outside} (kept : later.sessions = world.sessions) :
      Next service records world later

/-- What may come in the end. -/
def Reaches (service : GatewayService Outside) (records : List CredentialRecord) :
    World Outside → World Outside → Prop :=
  Relation.ReflTransGen (service.Next records)

/-- What holds along a run: no key of a session is listed in the directory, and every session
was made in this run for the owner of a record there. -/
structure Traced (service : GatewayService Outside) (records : List CredentialRecord)
    (start world : World Outside) : Prop where
  inFront : InFront records world.sessions
  minted : ∀ entry ∈ world.sessions.sessions, ∃ earlier base request, base ∈ records ∧
    service.Reaches records start earlier ∧ service.Reaches records earlier world ∧
    service.Mints base request earlier.now entry.2

section Run

variable (spares : service.SparesSessions)
  (credentials : service.pipeline.credentials =
    Session.source (Directory.ofRecords records).lookup)

include spares credentials

/-- A session that is there after a request was there before, or was made for the request. -/
theorem mem_or_mints {request : StoreRequest} {world : World Outside}
    (inFront : InFront records world.sessions) {entry : String × Session}
    (found : entry ∈ ((service.dispatch request).perform world).2.sessions.sessions) :
    entry ∈ world.sessions.sessions ∨
      entry.1 = entry.2.record.emulated.accessKey ∧ Session.Temporary entry.1 ∧
        ∃ base, base ∈ records ∧ service.Mints base request world.now entry.2 := by
  by_cases role : request.authorization.service = SigningService.sts.name
  · have serves := serves_dispatch credentials role inFront
    rcases done : (service.dispatch request).perform world with ⟨outcome, after⟩
    rw [done] at serves found
    cases serves with
    | refused shed => exact Or.inl (shed.old entry found)
    | @minted base session _ _ among mints handed temporary stored =>
        rw [stored, SessionStore.mem_insert] at found
        rcases found with rfl | ⟨⟨old, _⟩, _⟩
        · rw [← handed] at temporary
          exact Or.inr ⟨rfl, temporary, base, among, mints⟩
        · exact Or.inl old
  · exact Or.inl ((sheds_dispatch spares credentials role).old entry found)

/-- The same of a message, whatever request it makes. -/
theorem mem_or_mints_of_handle {world : World Outside} (inFront : InFront records world.sessions)
    {arrival : Arrival} {entry : String × Session}
    (found : entry ∈ ((service.handle arrival).run world).2.sessions.sessions) :
    entry ∈ world.sessions.sessions ∨
      entry.1 = entry.2.record.emulated.accessKey ∧ Session.Temporary entry.1 ∧
        ∃ base request, base ∈ records ∧ service.Mints base request world.now entry.2 := by
  rw [sessions_handle] at found
  cases reads : service.readsAs (Supply.identifier world.supply) arrival with
  | none =>
      rw [reads] at found
      exact Or.inl found
  | some request =>
      rw [reads] at found
      have sameInFront : InFront records (entered request world).sessions := inFront
      rcases mem_or_mints spares credentials sameInFront found with
        old | ⟨key, temporary, base, among, mints⟩
      · exact Or.inl old
      · exact Or.inr ⟨key, temporary, base, request, among, mints⟩

theorem Traced.next {start world later : World Outside} (traced : service.Traced records start world)
    (reached : service.Reaches records start world) (next : service.Next records world later) :
    service.Traced records start later := by
  have minted (entry : String × Session) (old : entry ∈ world.sessions.sessions) :
      ∃ earlier base request, base ∈ records ∧ service.Reaches records start earlier ∧
        service.Reaches records earlier later ∧
        service.Mints base request earlier.now entry.2 := by
    rcases traced.minted entry old with ⟨earlier, base, request, among, before, after, mints⟩
    exact ⟨earlier, base, request, among, before, after.tail next, mints⟩
  cases next with
  | passed kept =>
      refine ⟨kept.symm ▸ traced.inFront, fun entry found => ?_⟩
      rw [kept] at found
      exact minted entry found
  | handled arrival fresh =>
      have origin (entry : String × Session)
          (found : entry ∈ ((service.handle arrival).run world).2.sessions.sessions) :=
        mem_or_mints_of_handle spares credentials traced.inFront found
      refine ⟨⟨?_, ?_⟩, ?_⟩
      · intro entry found
        rcases origin entry found with old | ⟨key, _⟩
        · exact traced.inFront.keyed entry old
        · exact key
      · intro entry found
        by_cases old : entry ∈ world.sessions.sessions
        · exact traced.inFront.unlisted entry old
        · exact fresh entry found old
      · intro entry found
        rcases origin entry found with old | ⟨_, _, base, request, among, mints⟩
        · exact minted entry old
        · exact ⟨world, base, request, among, reached,
            Relation.ReflTransGen.single (.handled arrival fresh), mints⟩

theorem Reaches.traced {start world : World Outside} (empty : start.sessions = SessionStore.empty)
    (reached : service.Reaches records start world) : service.Traced records start world := by
  induction reached with
  | refl =>
      have none (entry : String × Session) : entry ∉ start.sessions.sessions := by
        rw [empty]
        exact List.not_mem_nil
      exact ⟨⟨fun entry found => absurd found (none entry),
        fun entry found => absurd found (none entry)⟩, fun entry found => absurd found (none entry)⟩
  | tail reached next inductionHypothesis =>
      exact inductionHypothesis.next spares credentials reached next

/-- If the directory lists no key of the form that sessions have, anything that is handled
leads on. -/
theorem next_of_permanent {world : World Outside} (inFront : InFront records world.sessions)
    (permanent : ∀ record ∈ records, ¬ Session.Temporary record.emulated.accessKey)
    (arrival : Arrival) : service.Next records world ((service.handle arrival).run world).2 := by
  apply Next.handled
  intro entry found new record among listed
  rcases mem_or_mints_of_handle spares credentials inFront found with old | ⟨_, temporary, _⟩
  · exact new old
  · exact permanent record among (listed ▸ temporary)

end Run

/-! ## What a role is good for -/

/-- Roles neither escalate nor extend authority, wherever a run without sessions has come to.

Every session was made in the run for the owner of a record in the directory, whose secret
signed the request; it has the credential and the identity of that record, the role that was
asked for, and a life of at least 900 and at most 43200 seconds from that moment.  A request
for a role either makes such a session, or it is refused and adds none, and then every session
that has not expired stays as it is.  Whoever asks for a role under the key of a session is
refused, and is told so if the session is good and the parameters are.  Other requests add no
session either.  The same holds if the source is asked directly. -/
theorem authority_of_roles (spares : service.SparesSessions)
    (credentials : service.pipeline.credentials =
      Session.source (Directory.ofRecords records).lookup)
    {start world : World Outside} (empty : start.sessions = SessionStore.empty)
    (reached : service.Reaches records start world) :
    (∀ entry ∈ world.sessions.sessions, ∃ earlier base request, base ∈ records ∧
      service.Reaches records start earlier ∧ service.Reaches records earlier world ∧
      service.Mints base request earlier.now entry.2) ∧
    (∀ request, request.authorization.service = SigningService.sts.name →
      service.Serves records request world ((service.dispatch request).perform world)) ∧
    (∀ request, request.authorization.service = SigningService.sts.name →
      ∀ earlier session, service.Reaches records start earlier →
        (request.authorization.accessKey, session) ∈ earlier.sessions.sessions →
          (∃ halt, ((service.dispatch request).perform world).1 = .error halt) ∧
          ∀ context between,
            (service.pipeline.authenticate request).perform world = (.ok context, between) →
              (service.dispatch request).perform world =
                (.error (.failed (match Role.read request context with
                  | .ok _ => Role.notPermitted
                  | .error error => error)), between)) ∧
    (∀ request, request.authorization.service ≠ SigningService.sts.name →
      world.sessions.Sheds ((service.dispatch request).perform world).2.sessions world.now) ∧
    ∀ asked, Session.Answers records asked world
      ((service.pipeline.credentials.assumeRole asked).perform world) := by
  have traced := reached.traced spares credentials empty
  have inFront := traced.inFront
  refine ⟨traced.minted, ?_, ?_, ?_, ?_⟩
  · exact fun request role => serves_dispatch credentials role inFront
  · intro request role earlier session before stored
    have unlisted : Directory.Unlisted records request.authorization.accessKey :=
      (Reaches.traced spares credentials empty before).inFront.unlisted _ stored
    constructor
    · have serves := serves_dispatch credentials role inFront
      rcases done : (service.dispatch request).perform world with ⟨outcome, after⟩
      rw [done] at serves
      cases serves with
      | refused shed => exact ⟨_, rfl⟩
      | minted among mints => exact absurd mints.accessKey (unlisted _ among)
    · intro context between passed
      apply dispatch_of_unlisted credentials role passed
      rcases Pipeline.authenticate_cases credentials request world with ⟨halt, after, ended, _⟩ |
        ⟨other, done, admits⟩
      · rw [ended] at passed
        cases passed
      · rw [done] at passed
        cases passed
        rw [accessKey_of_admits inFront admits]
        exact unlisted
  · exact fun request other => sheds_dispatch spares credentials other
  · intro asked
    rw [credentials]
    exact Session.answers_assume records asked world

end GatewayService

/-! ## A client that asks for a role -/

namespace Client

def roleQuery : String :=
  "Action=AssumeRole&RoleArn=arn%3Aaws%3Aiam%3A%3A1%3Arole%2Freader&DurationSeconds=0"

/-- What the client signs when it asks for a role. -/
def roleSignable : Signature.Signable :=
  signable "/" roleQuery

/-- A gateway for the client with sessions and without a store. -/
def roleService : GatewayService Unit :=
  { pipeline := Pipeline.standard .sha256 clock.maxDrift (Session.source directory.lookup)
    transport := fun _ => pure (.unreachable "offline")
    ownPath := none
    maxBody := 0 }

theorem roleService_spares : roleService.SparesSessions := by
  refine ⟨?_, fun _ _ _ => rfl, ?_, ?_, fun _ _ => rfl⟩
  · intro request context world
    refine ⟨rfl, fun judge bound action => ?_⟩
    cases bound
    exact Attempt.sparesSessions_of_kept fun _ => rfl
  · intro context request world
    refine ⟨rfl, fun found connected connection member rule own target => ?_⟩
    cases connected
    rcases Option.map_eq_some_iff.mp member with ⟨_, _, rfl⟩
    cases own
  · intro target
    have general : roleService.pipeline.endpoint target =
        Attempt.ofExcept (Addressing.standard.endpoint target) := by
      dsimp only [roleService, Pipeline.standard, Addressing.rule]
    rw [general]
    exact Attempt.sparesSessions_ofExcept _

theorem roleSendable : Signature.Sendable roleSignable :=
  sendable "/" roleQuery

def roleUri : Uri :=
  ⟨none, none, some ⟨"/", some roleQuery⟩⟩

/-- The request that is read from the client's message. -/
structure RoleAsked (request : StoreRequest) : Prop where
  back : ∃ day, Signature.ReadBack roleSignable .sha256 credential ⟨day, "r", "sts"⟩ request
  query : request.query = Uri.Query.parse roleQuery
  body : request.body = []

theorem exists_roleAsked (requestId : String) :
    ∃ fields request,
      roleService.readsAs requestId ⟨"GET", roleUri, fields, .whole []⟩ = some request ∧
        RoleAsked request := by
  have selected : record.select .emulated = .ok credential := rfl
  have names : (Signature.namesToSign roleSignable.headers).Perm signedNames := List.Perm.refl _
  rcases exists_signed .sha256 .sts selected rfl rfl (isFieldValue_signedNames names) (by decide) with
    ⟨signed, signs, valid⟩
  have path : roleUri.path = roleSignable.path := rfl
  rcases exists_read roleSendable rfl signs valid rfl path [] requestId with
    ⟨day, request, read, back, query, body, _⟩
  refine ⟨Http.Fields.ofMap (roleSignable.sentHeaders signed.authorization), request, ?_,
    ⟨day, back⟩, query, body⟩
  have plain (fields : Http.Fields) : roleService.readsAs requestId
      ⟨"GET", roleUri, fields, .whole []⟩ =
        (Incoming.read ⟨"GET", roleUri, fields, []⟩ none requestId).toOption := rfl
  rw [plain]
  exact congrArg Except.toOption read

namespace RoleAsked

variable {request : StoreRequest} (asked : RoleAsked request)

include asked

theorem role : request.authorization.service = SigningService.sts.name := by
  rcases asked.back with ⟨day, back⟩
  rw [back.authorization]
  rfl

theorem named : SigningService.ofName? request.authorization.service = some .sts := by
  rw [asked.role]
  rfl

/-- As long as there are no sessions, the client's record is found in the directory. -/
theorem looked {world : World Unit} (empty : world.sessions = SessionStore.empty) :
    (roleService.pipeline.credentials.lookup request.authorization.accessKey
      request.authorization.securityToken).perform world = (.ok (some record), world) := by
  rcases asked.back with ⟨day, back⟩
  have found : directory.find? request.authorization.accessKey request.authorization.securityToken =
      some record := by
    rw [back.authorization]
    rfl
  have unlooked : world.sessions.lookup request.authorization.accessKey
      request.authorization.securityToken world.now = (none, SessionStore.empty) := by
    rw [empty]
    rfl
  have looked := Session.perform_lookup directory request.authorization.accessKey
    request.authorization.securityToken world
  rw [unlooked, found, ← empty] at looked
  exact looked

theorem passed {world : World Unit} (empty : world.sessions = SessionStore.empty)
    (now : world.now = clock.now) :
    (roleService.pipeline.authenticate request).perform world =
      (.ok ⟨.sts, record, some "r"⟩, world) := by
  rcases asked.back with ⟨day, back⟩
  rcases back.headers with ⟨header, headers⟩
  have region : request.authorization.region = "r" := by
    rw [back.authorization]
    rfl
  have verified : Signature.verify .sha256 ⟨world.now, clock.maxDrift⟩ record request = .ok () := by
    rw [now]
    change Signature.verify .sha256 clock record request = .ok ()
    rw [back.verify_iff roleSendable clock_accepts rfl, asked.query]
    rfl
  have matching : Signature.verifyPayload .sha256 request.headers request.body = .ok () := by
    rw [Signature.verifyPayload, headers]
    rfl
  have entered : (roleService.pipeline.letIn request .sts record).perform world =
      (.ok ⟨.sts, record, some request.authorization.region⟩, world) :=
    Pipeline.perform_letIn_of_checks .sts verified matching
  rw [region] at entered
  rw [Pipeline.authenticate_eq asked.named]
  exact (Attempt.perform_bind_of_ok (asked.looked empty) _).trans entered

theorem read : ∃ role, Role.read request ⟨.sts, record, some "r"⟩ = .ok role ∧
    role.duration = some 0 := by
  have parameters : Role.parameters request =
      [("Action", "AssumeRole"), ("RoleArn", "arn:aws:iam::1:role/reader"),
       ("DurationSeconds", "0")] := by
    rw [Role.parameters, asked.query, asked.body]
    decide +kernel
  unfold Role.read
  rw [parameters]
  exact ⟨_, rfl, rfl⟩

theorem exists_dispatch {world : World Unit} (empty : world.sessions = SessionStore.empty)
    (now : world.now = clock.now) :
    ∃ response after, (roleService.dispatch request).perform world = (.ok response, after) := by
  rcases asked.read with ⟨role, read, shortest⟩
  have ends : world.now.plusSeconds? (Session.grantedDuration role.duration) =
      some ⟨19723, 900, 0⟩ := by
    rw [now, shortest]
    decide +kernel
  have credentials : roleService.pipeline.credentials =
      Session.source (Directory.ofRecords [record]).lookup := rfl
  exact GatewayService.exists_dispatch_of_role credentials asked.role (asked.passed empty now) read
    rfl ends

end RoleAsked

theorem permanent : ∀ owner ∈ [record], ¬ Session.Temporary owner.emulated.accessKey := by
  intro owner member
  rw [List.mem_singleton.mp member]
  rintro ⟨digits, temporary⟩
  have head := congrArg (fun key => key.toList.head?) temporary
  rw [String.toList_append, List.head?_append_of_ne_nil _ (by decide)] at head
  revert head
  decide

/-- The client asks for the shortest session there can be and gets one of a quarter of an hour.
Whoever asks for another one with its key is refused. -/
theorem role_of_client :
    ∃ accessKey session world, roleService.Reaches [record] Client.world world ∧
      world.sessions.sessions = [(accessKey, session)] ∧
      (∃ base request earlier, base ∈ [record] ∧
        roleService.Reaches [record] Client.world earlier ∧
        roleService.Mints base request earlier.now session) ∧
      ∀ request, request.authorization.service = SigningService.sts.name →
        request.authorization.accessKey = accessKey →
          ∃ halt, ((roleService.dispatch request).perform world).1 = .error halt := by
  rcases exists_roleAsked (Supply.identifier Client.world.supply) with ⟨fields, request, reads, asked⟩
  have inFront : GatewayService.InFront [record] Client.world.sessions :=
    ⟨fun _ none => absurd none List.not_mem_nil, fun _ none => absurd none List.not_mem_nil⟩
  have reached : roleService.Reaches [record] Client.world _ := Relation.ReflTransGen.single
    (GatewayService.next_of_permanent roleService_spares rfl inFront permanent
      ⟨"GET", roleUri, fields, .whole []⟩)
  have sessions := GatewayService.sessions_handle roleService
    ⟨"GET", roleUri, fields, .whole []⟩ Client.world
  rw [reads] at sessions
  have serves : roleService.Serves [record] request (GatewayService.entered request Client.world)
      _ := GatewayService.serves_dispatch rfl asked.role inFront
  have answered : ∃ response after, (roleService.dispatch request).perform
      (GatewayService.entered request Client.world) = (.ok response, after) :=
    asked.exists_dispatch rfl rfl
  rcases answered with ⟨response, after, done⟩
  dsimp only at sessions
  rw [done] at sessions serves
  cases serves with
  | @minted _ session _ _ _ _ _ _ stored =>
      have single := sessions.trans stored
      have member : (session.record.emulated.accessKey, session) ∈
          ((roleService.handle ⟨"GET", roleUri, fields, .whole []⟩).run
            Client.world).2.sessions.sessions :=
        single ▸ List.mem_cons_self
      have authority := GatewayService.authority_of_roles roleService_spares rfl rfl reached
      rcases authority.1 _ member with ⟨earlier, base, made, among, before, _, mints⟩
      refine ⟨_, session, _, reached, congrArg SessionStore.sessions single,
        ⟨base, made, earlier, among, before, mints⟩, ?_⟩
      intro other role same
      exact (authority.2.2.1 other role _ session reached (same ▸ member)).1

end Client
end SignedGateway
