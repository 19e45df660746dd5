import SignedGateway.Policy.Catalog
import SignedGateway.Policy.Server
import SignedGateway.Proofs.Gateway.FailClosed
import SignedGateway.Proofs.RequestLog

namespace SignedGateway

/-!
# What is noted on the way

Those whom a gateway asks know nothing of its log.  The gateway notes what they decide, and it
notes an error only when it is about to fail with it.  So however a request ends, the log tells
of an error only if the request has failed.  It always ends, unless a date leaves the calendar:
that of a presigned request, or that of a session, for which the clock must not have come too
close to the last day.
-/

/-! ## Attempts that note -/

namespace Attempt

variable {Outside α β : Type} {shown : Calendar.Moment → Prop}

/-- How an attempt may end that has made these notes: with an error, or with a value that is
wanted if no note was of an error, but not without an answer. -/
def Settles (wanted : α → Prop) (entries : List LogEntry) : Except (Halt GatewayError) α → Prop
  | .ok value => wanted value ∧ ∀ entry ∈ entries, ¬ entry.IsError
  | .error (.failed _) => True
  | .error .outOfCalendar => False

/-- The attempt adds nothing to the log but notes of a kind, and ends as it may.  The clock shows
only moments of a kind, and goes on to do so. -/
def Notes (attempt : Attempt Outside α) (allowed : LogEntry → Prop)
    (shown : Calendar.Moment → Prop) (wanted : α → Prop) : Prop :=
  ∀ world, shown world.now → ∃ entries, (∀ entry ∈ entries, allowed entry) ∧
    (attempt.perform world).2.log = world.log.noteAll entries ∧
      shown (attempt.perform world).2.now ∧ Settles wanted entries (attempt.perform world).1

/-- The attempt notes whatever it does. -/
def Candid (attempt : Attempt Outside α) (shown : Calendar.Moment → Prop) (wanted : α → Prop) :
    Prop :=
  attempt.Notes (fun _ => True) shown wanted

/-- The attempt leaves the log alone. -/
def Discreet (attempt : Attempt Outside α) (shown : Calendar.Moment → Prop) (wanted : α → Prop) :
    Prop :=
  ∀ world, shown world.now → (attempt.perform world).2.log = world.log ∧
    shown (attempt.perform world).2.now ∧ Settles wanted [] (attempt.perform world).1

theorem discreet_iff_notes {attempt : Attempt Outside α} {wanted : α → Prop} :
    attempt.Discreet shown wanted ↔ attempt.Notes (fun _ => False) shown wanted := by
  constructor
  · exact fun discreet world time =>
      ⟨[], fun _ none => absurd none List.not_mem_nil, discreet world time⟩
  · intro notes world time
    rcases notes world time with ⟨entries, none, noted, timely, settled⟩
    rw [List.eq_nil_iff_forall_not_mem.mpr none] at noted settled
    exact ⟨noted, timely, settled⟩

theorem Discreet.candid {attempt : Attempt Outside α} {wanted : α → Prop}
    (discreet : attempt.Discreet shown wanted) : attempt.Candid shown wanted :=
  fun world time => ⟨[], fun _ _ => trivial, discreet world time⟩

theorem discreet_pure {wanted : α → Prop} {value : α} (good : wanted value) :
    (pure value : Attempt Outside α).Discreet shown wanted :=
  fun _ time => ⟨rfl, time, good, fun _ none => absurd none List.not_mem_nil⟩

theorem discreet_fail (error : GatewayError) (wanted : α → Prop) :
    (fail error : Attempt Outside α).Discreet shown wanted :=
  fun _ time => ⟨rfl, time, trivial⟩

theorem discreet_ofExcept (result : Except GatewayError α) :
    (ofExcept result : Attempt Outside α).Discreet shown fun _ => True := by
  cases result with
  | ok value => exact discreet_pure trivial
  | error error => exact discreet_fail error _

theorem candid_note (name value : String) :
    (note (.property name value) : Attempt Outside Unit).Candid shown fun _ => True := by
  refine fun world time =>
    ⟨[.property name value], fun _ _ => trivial, rfl, time, trivial, fun entry member => ?_⟩
  rw [List.mem_singleton.mp member]
  exact id

/-- Notes of other things than errors may stand in front. -/
theorem Settles.after {wanted : α → Prop} {entries more : List LogEntry}
    {result : Except (Halt GatewayError) α} (clean : ∀ entry ∈ entries, ¬ entry.IsError)
    (settled : Settles wanted more result) : Settles wanted (entries ++ more) result := by
  match result with
  | .error (.failed error) => trivial
  | .error .outOfCalendar => exact settled
  | .ok value =>
      refine ⟨settled.1, fun entry member => ?_⟩
      rcases List.mem_append.mp member with early | late
      · exact clean entry early
      · exact settled.2 entry late

/-- What a composed attempt notes is what its first part notes, and then what its second does. -/
theorem Notes.bind {attempt : Attempt Outside α} {next : α → Attempt Outside β}
    {allowed : LogEntry → Prop} {wanted : α → Prop} {wantedNext : β → Prop}
    (first : attempt.Notes allowed shown wanted)
    (later : ∀ value, wanted value → (next value).Notes allowed shown wantedNext) :
    (attempt >>= next).Notes allowed shown wantedNext := by
  intro world time
  rcases first world time with ⟨entries, good, noted, timely, settled⟩
  rcases ended : attempt.perform world with ⟨result, between⟩
  rw [ended] at noted timely settled
  match result with
  | .error (.failed error) =>
      rw [perform_bind_of_error ended]
      exact ⟨entries, good, noted, timely, trivial⟩
  | .error .outOfCalendar => exact settled.elim
  | .ok value =>
      rw [perform_bind_of_ok ended]
      rcases later value settled.1 between timely with
        ⟨more, goodMore, notedMore, timelyMore, settledMore⟩
      refine ⟨entries ++ more, fun entry member => ?_, ?_, timelyMore,
        settledMore.after settled.2⟩
      · exact (List.mem_append.mp member).elim (good entry) (goodMore entry)
      · rw [notedMore, noted, RequestLog.noteAll_append]

theorem Candid.bind {attempt : Attempt Outside α} {next : α → Attempt Outside β}
    {wanted : α → Prop} {wantedNext : β → Prop} (first : attempt.Candid shown wanted)
    (later : ∀ value, wanted value → (next value).Candid shown wantedNext) :
    (attempt >>= next).Candid shown wantedNext :=
  Notes.bind first later

theorem Discreet.bind {attempt : Attempt Outside α} {next : α → Attempt Outside β}
    {wanted : α → Prop} {wantedNext : β → Prop} (first : attempt.Discreet shown wanted)
    (later : ∀ value, wanted value → (next value).Discreet shown wantedNext) :
    (attempt >>= next).Discreet shown wantedNext :=
  discreet_iff_notes.mpr ((discreet_iff_notes.mp first).bind fun value good =>
    discreet_iff_notes.mp (later value good))

theorem perform_notingFailure (name : String) (attempt : Attempt Outside α)
    (world : World Outside) :
    (Policy.notingFailure name attempt).perform world =
      match attempt.perform world with
      | (.ok value, after) => (.ok value, after)
      | (.error (.failed error), after) =>
          (.error (.failed error), { after with log := after.log.note (.error name error.message) })
      | (.error .outOfCalendar, after) => (.error .outOfCalendar, after) := by
  unfold Policy.notingFailure perform
  change ((attempt.outcome >>= fun _ => _).run world) = _
  rw [Act.run_bind]
  rcases attempt.outcome.run world with ⟨result, after⟩
  match result with
  | .ok value => rfl
  | .error (.failed error) => rfl
  | .error .outOfCalendar => rfl

/-- The failure that is noted is the one with which the attempt fails. -/
theorem Candid.notingFailure {attempt : Attempt Outside α} {wanted : α → Prop} (name : String)
    (candid : attempt.Candid shown wanted) :
    (Policy.notingFailure name attempt).Candid shown wanted := by
  intro world time
  rcases candid world time with ⟨entries, _, noted, timely, settled⟩
  rcases ended : attempt.perform world with ⟨result, after⟩
  rw [ended] at noted timely settled
  rw [perform_notingFailure, ended]
  match result with
  | .ok value => exact ⟨entries, fun _ _ => trivial, noted, timely, settled⟩
  | .error .outOfCalendar => exact settled.elim
  | .error (.failed error) =>
      refine ⟨entries ++ [.error name error.message], fun _ _ => trivial, ?_, timely, trivial⟩
      rw [RequestLog.noteAll_append, ← noted]
      rfl

end Attempt

/-! ## Policies -/

section Policies

variable {Outside : Type} {shown : Calendar.Moment → Prop}

theorem Http.Transport.discreet_send {transport : Http.Transport Outside}
    (discreet : ∀ sent, (Attempt.act (transport sent)).Discreet shown fun _ => True)
    (method url : String) (headers : List (String × List UInt8)) (body : List UInt8) :
    (Attempt.act (transport.send method url headers body)).Discreet shown fun _ => True := by
  unfold send
  split
  · exact discreet _
  · exact Attempt.discreet_pure trivial

namespace Policy

/-- A catalog that knows nothing of the log. -/
structure Catalog.Discreet (catalog : Catalog Outside) (shown : Calendar.Moment → Prop) : Prop where
  tableName : ∀ request action, (catalog.tableName request action).Discreet shown fun _ => True
  tableOperation : ∀ request table action,
    (catalog.tableOperation request table action).Discreet shown fun _ => True
  otherOperation : ∀ request action,
    (catalog.otherOperation request action).Discreet shown fun _ => True

/-- The policies that a gateway can have: the one that allows everything, that of a server, and
that of a catalog.  Neither the server nor the catalog knows of the log. -/
inductive Known (shown : Calendar.Moment → Prop) : Policy Outside → Prop where
  | allowAll : Known shown Policy.allowAll
  | server (server : Server) {transport : Http.Transport Outside}
      (discreet : ∀ sent, (Attempt.act (transport sent)).Discreet shown fun _ => True) :
      Known shown (server.policy transport)
  | catalog {obtain : StoreRequest → SigningContext → Attempt Outside (Catalog Outside)}
      (discreet : ∀ request context,
        (obtain request context).Discreet shown fun catalog => catalog.Discreet shown) :
      Known shown (Catalog.policy obtain)

theorem candid_noteDecision (decision : Decision) :
    (Catalog.noteDecision decision : Attempt Outside Unit).Candid shown fun _ => True := by
  cases decision with
  | allowed => exact Attempt.candid_note _ _
  | denied reason =>
      cases reason with
      | none => exact Attempt.candid_note _ _
      | some text => exact (Attempt.candid_note _ _).bind fun _ _ => Attempt.candid_note _ _

theorem Catalog.Discreet.judge {catalog : Catalog Outside} (discreet : catalog.Discreet shown)
    (request : StoreRequest) (action : Option String) :
    (catalog.judge request action).Candid shown fun _ => True := by
  have asks : (catalog.ask request action).Candid shown fun _ => True := by
    refine (discreet.tableName request action).candid.bind fun found _ => ?_
    cases found with
    | none => exact (discreet.otherOperation request action).candid
    | some table =>
        refine (Attempt.candid_note _ _).bind fun _ _ => ?_
        exact (discreet.tableOperation request table action).candid
  refine (Attempt.candid_note _ _).bind fun _ _ => ?_
  refine (Attempt.candid_note _ _).bind fun _ _ => ?_
  refine (Attempt.candid_note _ _).bind fun _ _ => ?_
  refine (asks.notingFailure "security").bind fun decision _ => ?_
  exact (candid_noteDecision decision).bind fun _ _ => (Attempt.discreet_pure trivial).candid

theorem Server.candid_judge (server : Server) {transport : Http.Transport Outside}
    (discreet : ∀ sent, (Attempt.act (transport sent)).Discreet shown fun _ => True)
    (request : StoreRequest) (context : SigningContext) (action : Option String) :
    (server.judge transport request context action).Candid shown fun _ => True := by
  have asks : (ask transport (server.questionFor request context action)).Candid shown
      fun _ => True := by
    refine (Http.Transport.discreet_send discreet _ _ _ _).candid.bind fun exchange _ => ?_
    exact (Attempt.discreet_ofExcept _).candid
  refine (asks.notingFailure "opa").bind fun decision _ => ?_
  exact (Attempt.candid_note _ _).bind fun _ _ => (Attempt.discreet_pure trivial).candid

/-- Whatever the policy, a verdict notes its errors only when it fails with them. -/
theorem Known.verdict {policy : Policy Outside} (known : policy.Known shown)
    (request : StoreRequest) (context : SigningContext) :
    (policy.verdict request context).Candid shown fun _ => True := by
  have judges : (policy.judgeFor request context).Candid shown fun judge =>
      ∀ action, (judge action).Candid shown fun _ => True := by
    cases known with
    | allowAll =>
        exact (Attempt.discreet_pure fun _ => (Attempt.discreet_pure trivial).candid).candid
    | server server discreet =>
        exact (Attempt.discreet_pure (server.candid_judge discreet request context)).candid
    | catalog discreet =>
        refine ((discreet request context).candid.notingFailure "security").bind
          fun catalog good => ?_
        exact (Attempt.discreet_pure (good.judge request)).candid
  refine judges.bind fun judge candid => ?_
  refine (candid _).bind fun decision _ => ?_
  exact (Attempt.candid_note _ _).bind fun _ _ => (Attempt.discreet_pure trivial).candid

end Policy

end Policies

/-! ## Dates of presigned requests -/

/-- Some answer is given, be it an error. -/
def Halt.Answered {ε α : Type} (result : Except (Halt ε) α) : Prop :=
  result ≠ .error .outOfCalendar

namespace Halt

variable {ε δ α β : Type}

theorem Answered.bind {first : Except (Halt ε) α} {next : α → Except (Halt ε) β}
    (answered : Answered first) (later : ∀ value, Answered (next value)) :
    Answered (first >>= next) := by
  cases first with
  | error halt => exact fun ended => answered (congrArg Except.error (Except.error.inj ended))
  | ok value => exact later value

theorem answered_failed (result : Except ε α) : Answered (result.mapError failed) := by
  cases result <;> exact nofun

theorem Answered.map {result : Except (Halt ε) α} (answered : Answered result)
    (change : ε → δ) : Answered (result.mapError (Halt.map change)) := by
  match result with
  | .ok value => exact nofun
  | .error (.failed error) => exact nofun
  | .error .outOfCalendar => exact absurd rfl answered

end Halt

/-- The life of a presigned request ends within the calendar, if it has one of sixty-three bits. -/
def StoreRequest.EndsInCalendar (request : StoreRequest) : Prop :=
  ∀ lifetime moment, request.authorization.expires = some lifetime →
    Clock.readDate request.date = .ok moment → lifetime < UInt64.size / 2 →
      lifetime ≤ Clock.maxLifetime ∧ moment.plusSeconds? lifetime ≠ none

section Dates

variable {request : StoreRequest} (ends : request.EndsInCalendar)

include ends

theorem Clock.answered_checkLifetime {lifetime : Nat}
    (presigned : request.authorization.expires = some lifetime) (clock : Clock) :
    Halt.Answered (clock.checkLifetime request.date lifetime) := by
  unfold checkLifetime
  cases read : readDate request.date with
  | error fault => exact nofun
  | ok moment =>
      dsimp only
      by_cases long : UInt64.size / 2 ≤ lifetime
      · rw [if_pos long]
        exact nofun
      · rcases ends lifetime moment presigned read (Nat.lt_of_not_le long) with ⟨short, later⟩
        rw [if_neg long, if_neg (Nat.not_lt_of_le short)]
        cases expiry : moment.plusSeconds? lifetime with
        | none => exact absurd expiry later
        | some expiry =>
            dsimp only
            split_ifs <;> exact nofun

namespace Signature

theorem answered_coveredParts (suite : Digest.Suite) (clock : Clock) :
    Halt.Answered (coveredParts suite clock request) := by
  unfold coveredParts
  cases presigned : request.authorization.expires with
  | none =>
      dsimp only
      split <;> exact nofun
  | some lifetime =>
      have answered := Clock.answered_checkLifetime ends presigned clock
      dsimp only
      cases checked : clock.checkLifetime request.date lifetime with
      | ok => exact nofun
      | error halt =>
          rw [checked] at answered
          exact fun ended => answered (congrArg Except.error (Except.error.inj ended))

theorem answered_verify (suite : Digest.Suite) (clock : Clock) (record : CredentialRecord) :
    Halt.Answered (verify suite clock record request) := by
  refine (answered_coveredParts ends suite clock).bind fun parts => ?_
  refine (Halt.answered_failed (coveredHeaders request)).bind fun pairs => ?_
  split_ifs <;> exact nofun

end Signature

theorem Pipeline.answered_checks {Outside : Type} (pipeline : Pipeline Outside)
    (answered : Calendar.Moment) (record : CredentialRecord) :
    Halt.Answered (pipeline.checks request answered record) := by
  refine ((Signature.answered_verify ends _ _ record).map _).bind fun _ => ?_
  cases Signature.verifyPayload pipeline.suite request.headers request.body <;> exact nofun

end Dates

/-! ## Requests -/

namespace GatewayService

variable {Outside : Type}

/-- Those whom the gateway asks know nothing of its log, and answer.  Its policy is one of those
that it comes with. -/
structure Discreet (service : GatewayService Outside) (shown : Calendar.Moment → Prop) : Prop where
  lookup : ∀ accessKey token,
    (service.pipeline.credentials.lookup accessKey token).Discreet shown fun _ => True
  assumeRole : ∀ asked,
    (service.pipeline.credentials.assumeRole asked).Discreet shown fun _ => True
  policy : service.pipeline.policy.Known shown
  remap : ∀ record request,
    (Attempt.act (service.pipeline.remap record request)).Discreet shown fun _ => True
  connections : ∀ context request,
    (service.pipeline.connections context request).Discreet shown fun found =>
      ∀ connection ∈ found, ∀ rule ∈ connection.endpoint, ∀ target,
        (rule target).Discreet shown fun _ => True
  endpoint : ∀ target, (service.pipeline.endpoint target).Discreet shown fun _ => True
  transport : ∀ sent, (Attempt.act (service.transport sent)).Discreet shown fun _ => True

namespace Discreet

variable {service : GatewayService Outside} {shown : Calendar.Moment → Prop}
  (discreet : service.Discreet shown)

include discreet

theorem authenticate {request : StoreRequest} (ends : request.EndsInCalendar) :
    (service.pipeline.authenticate request).Candid shown fun _ => True := by
  cases named : SigningService.ofName? request.authorization.service with
  | none =>
      unfold Pipeline.authenticate
      dsimp only
      rw [named]
      exact (Attempt.discreet_fail _ _).candid
  | some kind =>
      rw [Pipeline.authenticate_eq named]
      refine (discreet.lookup _ _).candid.bind fun found _ => ?_
      cases found with
      | none => exact (Attempt.discreet_fail _ _).candid
      | some record =>
          apply Attempt.Discreet.candid
          intro world time
          have answered := service.pipeline.answered_checks ends world.now record
          rw [Pipeline.perform_letIn]
          refine ⟨rfl, time, ?_⟩
          generalize service.pipeline.checks request world.now record = result at answered ⊢
          match result with
          | .ok _ => exact ⟨trivial, fun _ none => absurd none List.not_mem_nil⟩
          | .error (.failed error) => trivial
          | .error .outOfCalendar => exact absurd rfl answered

theorem resolve (record : CredentialRecord) (request : StoreRequest) :
    (Attempt.act (service.pipeline.resolve record request)).Candid shown fun _ => True := by
  intro world time
  rcases discreet.remap record request world time with ⟨kept, timely, _⟩
  rw [Pipeline.resolve_eq, Attempt.perform_act, StateT.run_map]
  exact ⟨[], fun _ _ => trivial, kept, timely, trivial, fun _ none => absurd none List.not_mem_nil⟩

theorem deliver (context : SigningContext) (resolved : StoreRequest) :
    (service.pipeline.deliver context resolved).Candid shown fun _ => True := by
  refine (discreet.connections context resolved).candid.bind fun found rules => ?_
  cases found with
  | none => exact (Attempt.discreet_fail _ _).candid
  | some connection =>
      have placed : ((connection.endpoint.getD service.pipeline.endpoint)
          (Outbound.targetOf resolved)).Discreet shown fun _ => True := by
        cases own : connection.endpoint with
        | none => exact discreet.endpoint _
        | some rule => exact rules connection rfl rule own _
      have timed : (Attempt.act Act.now : Attempt Outside _).Discreet shown fun _ => True :=
        fun _ time => ⟨rfl, time, trivial, fun _ none => absurd none List.not_mem_nil⟩
      have prepared : (Outbound.prepare service.pipeline.suite service.pipeline.maxDrift
          service.pipeline.endpoint connection context.record resolved).Discreet shown fun _ => True :=
        placed.bind fun uri _ => timed.bind fun now _ => Attempt.discreet_ofExcept _
      refine prepared.candid.bind fun outbound _ => ?_
      exact (Attempt.candid_note _ _).bind fun _ _ => (Attempt.discreet_pure trivial).candid

theorem route (request : StoreRequest) (context : SigningContext) :
    (service.pipeline.route request context).Candid shown fun _ => True := by
  rw [Pipeline.route_eq]
  refine (discreet.policy.verdict request context).bind fun decision _ => ?_
  refine (Attempt.discreet_ofExcept _).candid.bind fun _ _ => ?_
  refine (discreet.resolve context.record request).bind fun resolved _ => ?_
  refine (Attempt.candid_note _ _).bind fun _ _ => ?_
  refine (Attempt.candid_note _ _).bind fun _ _ => ?_
  exact discreet.deliver context resolved

theorem process {request : StoreRequest} (ends : request.EndsInCalendar) :
    (service.pipeline.process request).Candid shown fun _ => True := by
  rw [Pipeline.process_eq]
  refine (discreet.authenticate ends).bind fun context _ => ?_
  unfold Pipeline.proceed
  cases context.service with
  | s3 => exact discreet.route request context
  | sts => exact (Attempt.discreet_fail _ _).candid

theorem forward (outbound : OutboundRequest) :
    (service.forward outbound).Discreet shown fun _ => True :=
  (Http.Transport.discreet_send discreet.transport _ _ _ _).bind fun _ _ =>
    Attempt.discreet_ofExcept _

theorem answer (request : StoreRequest) (context : SigningContext) :
    (Role.answer service.pipeline.credentials request context).Discreet shown fun _ => True := by
  refine (Attempt.discreet_ofExcept _).bind fun asked _ => ?_
  refine (discreet.assumeRole asked).bind fun assumed _ => ?_
  cases assumed with
  | none => exact Attempt.discreet_fail _ _
  | some role => exact Attempt.discreet_pure trivial

/-- A request whose dates stay within the calendar is answered, and an error is noted only if it
is the answer. -/
theorem dispatch {request : StoreRequest} (ends : request.EndsInCalendar) :
    (service.dispatch request).Candid shown fun _ => True := by
  unfold GatewayService.dispatch
  by_cases role : request.authorization.service = SigningService.sts.name
  · rw [if_pos role]
    exact (discreet.authenticate ends).bind fun context _ =>
      (discreet.answer request context).candid
  · rw [if_neg role]
    exact (discreet.process ends).bind fun outbound _ => (discreet.forward outbound).candid

end Discreet
end GatewayService
end SignedGateway
