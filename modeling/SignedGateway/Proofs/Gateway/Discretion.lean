import SignedGateway.Policy.Settings
import SignedGateway.Proofs.Gateway.Candor
import SignedGateway.Proofs.Session.Assume
import SignedGateway.Store.Settings

namespace SignedGateway

/-!
# Parts that know nothing of the log

The sources, policies, connections and address rules that settings ask for leave the log alone
and give answers, whatever the servers behind them say.  Only a session cannot begin where the
calendar has no room for its end.
-/

/-- The longest session that begins now ends within the calendar. -/
def Calendar.Moment.HasRoom (moment : Moment) : Prop :=
  moment.plusSeconds? Session.maxDuration ≠ none

namespace Calendar.Moment

theorem plusSeconds?_ne_none {moment : Moment} {seconds later : Nat} (sooner : seconds ≤ later)
    (room : moment.plusSeconds? later ≠ none) : moment.plusSeconds? seconds ≠ none := by
  unfold plusSeconds? at room ⊢
  by_cases zero : seconds = 0
  · rw [if_pos zero]
    exact nofun
  · have positive : later ≠ 0 := by
      omega
    rw [if_neg positive] at room
    rw [if_neg zero]
    dsimp only at room ⊢
    have earlier : (moment.second + seconds) / 86400 ≤ (moment.second + later) / 86400 :=
      Nat.div_le_div_right (Nat.add_le_add_left sooner _)
    by_cases outside : lastDay < moment.day + ((moment.second + later : Nat) : Int) / 86400
    · rw [if_pos outside] at room
      exact absurd rfl room
    · rw [if_neg (by omega)]
      exact nofun

end Calendar.Moment

variable {Outside : Type} {shown : Calendar.Moment → Prop}

namespace Attempt

theorem discreet_act {α : Type} {action : Act Outside α} {wanted : α → Prop}
    (kept : ∀ world, shown world.now → (action.run world).2.log = world.log ∧
      shown (action.run world).2.now ∧ wanted (action.run world).1) :
    (act action).Discreet shown wanted := by
  intro world time
  rcases kept world time with ⟨same, timely, good⟩
  exact ⟨same, timely, good, fun _ none => absurd none List.not_mem_nil⟩

theorem discreet_get : (get : Attempt Outside (World Outside)).Discreet shown fun _ => True :=
  fun _ time => ⟨rfl, time, trivial, fun _ none => absurd none List.not_mem_nil⟩

theorem discreet_modify {change : World Outside → World Outside}
    (kept : ∀ world, (change world).log = world.log ∧ (change world).now = world.now) :
    (modify change : Attempt Outside Unit).Discreet shown fun _ => True := by
  intro world time
  rcases kept world with ⟨same, sameTime⟩
  refine ⟨same, ?_, trivial, fun _ none => absurd none List.not_mem_nil⟩
  change shown (change world).now
  rwa [sameTime]

end Attempt

/-! ## Sources of records -/

namespace CredentialService

variable {transport : Http.Transport Outside}
  (discreet : ∀ sent, (Attempt.act (transport sent)).Discreet shown fun _ => True)

include discreet

theorem discreet_fetch (service : CredentialService) (accessKey : String) (token : Option String) :
    (service.fetch transport accessKey token).Discreet shown fun _ => True :=
  (Http.Transport.discreet_send discreet _ _ _ _).bind fun _ _ => Attempt.discreet_ofExcept _

theorem discreet_lookup (service : CredentialService) (accessKey : String)
    (token : Option String) :
    (service.lookup transport accessKey token).Discreet shown fun _ => True := by
  unfold lookup
  split_ifs
  · refine Attempt.discreet_get.bind fun world _ => ?_
    cases world.cache.lookup (accessKey, token) with
    | some answer => exact Attempt.discreet_pure trivial
    | none =>
        refine (discreet_fetch discreet service accessKey token).bind fun answer _ => ?_
        refine (Attempt.discreet_modify ?_).bind fun _ _ => Attempt.discreet_pure trivial
        exact fun _ => ⟨rfl, rfl⟩
  · exact discreet_fetch discreet service accessKey token

end CredentialService

namespace Session

variable {elsewhere : RecordLookup Outside}
  (lookups : ∀ accessKey token, (elsewhere accessKey token).Discreet shown fun _ => True)

theorem discreet_draw (make : Supply → String) :
    (Attempt.act (Act.draw make : Act Outside String)).Discreet shown fun _ => True :=
  Attempt.discreet_act fun _ time => ⟨rfl, time, trivial⟩

theorem discreet_begin (room : ∀ moment, shown moment → moment.HasRoom) (base : CredentialRecord)
    (asked : RoleRequest) :
    (begin base asked : Attempt Outside AssumedRole).Discreet shown fun _ => True := by
  have clock : (Attempt.act Act.now : Attempt Outside Calendar.Moment).Discreet shown shown :=
    Attempt.discreet_act fun _ time => ⟨rfl, time, time⟩
  refine clock.bind fun now time => ?_
  have dated : (Attempt.ofHalting (expirationFrom now (grantedDuration asked.duration)) :
      Attempt Outside Calendar.Moment).Discreet shown fun _ => True := by
    have ends := Calendar.Moment.plusSeconds?_ne_none (grantedDuration_bounds asked.duration).2
      (room now time)
    unfold expirationFrom
    cases expiration : now.plusSeconds? (grantedDuration asked.duration) with
    | none => exact absurd expiration ends
    | some moment => exact Attempt.discreet_pure trivial
  refine dated.bind fun expiration _ => ?_
  have named : (Attempt.act (nameFor asked) : Attempt Outside String).Discreet shown
      fun _ => True := by
    unfold nameFor
    cases asked.sessionName with
    | some name => exact Attempt.discreet_pure trivial
    | none => exact Attempt.discreet_act fun _ time => ⟨rfl, time, trivial⟩
  refine named.bind fun name _ => ?_
  have minted : (Attempt.act mint : Attempt Outside Credential).Discreet shown fun _ => True :=
    Attempt.discreet_act fun _ time => ⟨rfl, time, trivial⟩
  refine minted.bind fun credential _ => ?_
  refine (Attempt.discreet_modify ?_).bind fun _ _ => ?_
  · exact fun _ => ⟨rfl, rfl⟩
  · exact (discreet_draw _).bind fun _ _ => Attempt.discreet_pure trivial

include lookups

theorem discreet_assume (room : ∀ moment, shown moment → moment.HasRoom) (asked : RoleRequest) :
    (assume elsewhere asked).Discreet shown fun _ => True := by
  refine (lookups _ _).bind fun found _ => ?_
  cases found with
  | none => exact Attempt.discreet_pure trivial
  | some base =>
      dsimp only
      split_ifs
      · exact (discreet_begin room base asked).bind fun _ _ => Attempt.discreet_pure trivial
      · exact Attempt.discreet_pure trivial

theorem discreet_lookupFirst (accessKey : String) (token : Option String) :
    (lookupFirst elsewhere accessKey token).Discreet shown fun _ => True := by
  intro world time
  rw [perform_lookupFirst]
  cases (world.sessions.lookup accessKey token world.now).1 with
  | some record => exact ⟨rfl, time, trivial, fun _ none => absurd none List.not_mem_nil⟩
  | none => exact lookups accessKey token { world with sessions := _ } time

end Session

namespace CredentialSettings

variable {settings : CredentialSettings} {files : Files} {transport : Http.Transport Outside}

/-- Settings ask for a directory or for a service. -/
theorem recordLookup_cases {lookup : RecordLookup Outside}
    (found : settings.recordLookup files transport = .ok lookup) :
    (∃ directory : Directory, lookup = directory.lookup) ∨
      settings.provider = .http ∧ ∃ endpoint service, settings.httpEndpoint = some endpoint ∧
        CredentialService.make endpoint settings.httpHeaders (settings.httpCacheSize != 0) =
          .ok service ∧
        lookup = service.lookup transport := by
  unfold recordLookup at found
  cases provider : settings.provider with
  | file =>
      rw [provider] at found
      dsimp only at found
      split at found
      · cases found
      · rcases Result.bind_eq_ok_iff.mp found with ⟨directory, _, same⟩
        cases same
        exact Or.inl ⟨directory, rfl⟩
  | http =>
      rw [provider] at found
      dsimp only at found
      split at found
      · cases found
      · next endpoint named =>
          rcases Result.bind_eq_ok_iff.mp found with ⟨service, made, same⟩
          cases same
          exact Or.inr ⟨rfl, endpoint, service, named, made, rfl⟩

variable (discreet : ∀ sent, (Attempt.act (transport sent)).Discreet shown fun _ => True)

include discreet

theorem discreet_recordLookup {lookup : RecordLookup Outside}
    (found : settings.recordLookup files transport = .ok lookup) (accessKey : String)
    (token : Option String) : (lookup accessKey token).Discreet shown fun _ => True := by
  rcases recordLookup_cases found with ⟨directory, rfl⟩ | ⟨_, _, service, _, _, rfl⟩
  · exact Attempt.discreet_pure trivial
  · exact service.discreet_lookup discreet accessKey token

/-- The source that settings ask for leaves the log alone.  If roles may be taken on, the clock
must leave room for the end of a session. -/
theorem discreet_source {source : CredentialSource Outside}
    (room : settings.assumedRoles = true → ∀ moment, shown moment → moment.HasRoom)
    (made : settings.source files transport = .ok source) :
    (∀ accessKey token, (source.lookup accessKey token).Discreet shown fun _ => True) ∧
      ∀ asked, (source.assumeRole asked).Discreet shown fun _ => True := by
  rcases Result.bind_eq_ok_iff.mp made with ⟨lookup, found, given⟩
  cases given
  have lookups := discreet_recordLookup discreet found
  cases roles : settings.assumedRoles with
  | true =>
      exact ⟨Session.discreet_lookupFirst lookups, Session.discreet_assume lookups (room roles)⟩
  | false => exact ⟨lookups, fun _ => Attempt.discreet_pure trivial⟩

end CredentialSettings

/-! ## Policies, connections and addresses -/

/-- The policy that settings ask for is one of those that a gateway can have. -/
theorem PolicySettings.known_policy {settings : PolicySettings} {transport : Http.Transport Outside}
    {policy : Policy Outside}
    (discreet : ∀ sent, (Attempt.act (transport sent)).Discreet shown fun _ => True)
    (made : settings.policy transport = .ok policy) : policy.Known shown := by
  unfold PolicySettings.policy at made
  cases provider : settings.provider with
  | allowAll =>
      rw [provider] at made
      cases made
      exact .allowAll
  | server =>
      rw [provider] at made
      dsimp only at made
      split at made
      · cases made
      · cases made
        exact .server _ discreet

theorem Addressing.discreet_rule (addressing : Addressing) (target : StoreTarget) :
    (addressing.rule target : Attempt Outside Uri).Discreet shown fun _ => True :=
  Attempt.discreet_ofExcept _

namespace Connection

/-- The connection has no address rule of its own, or one that asks nobody. -/
def Addressed (connection : Connection Outside) : Prop :=
  ∀ rule ∈ connection.endpoint, ∃ addressing : Addressing, rule = addressing.rule

theorem discreet_found {found : Option (Connection Outside)}
    (addressed : ∀ connection ∈ found, connection.Addressed) :
    (pure found : Attempt Outside (Option (Connection Outside))).Discreet shown fun found =>
      ∀ connection ∈ found, ∀ rule ∈ connection.endpoint, ∀ target,
        (rule target).Discreet shown fun _ => True := by
  apply Attempt.discreet_pure
  intro connection member rule own target
  rcases addressed connection member rule own with ⟨addressing, rfl⟩
  exact addressing.discreet_rule target

theorem addressed_ofRecord {record : CredentialRecord} {connection : Connection Outside}
    (found : connection ∈ ofRecord record) : connection.Addressed := by
  rcases Option.map_eq_some_iff.mp found with ⟨credential, _, rfl⟩
  exact nofun

theorem addressed_connection (entry : ConnectionEntry) :
    (entry.connection : Connection Outside).Addressed := by
  intro rule own
  rcases Option.map_eq_some_iff.mp own with ⟨addressing, _, same⟩
  exact ⟨addressing, same.symm⟩

end Connection

/-- Connections that settings ask for are found without asking anybody. -/
theorem StoreSettings.exists_addressed {settings : StoreSettings} {files : Files}
    {connections : ConnectionRule Outside} (made : settings.connections files = .ok connections)
    (context : SigningContext) (request : StoreRequest) :
    ∃ found, connections context request = pure found ∧
      ∀ connection ∈ found, connection.Addressed := by
  unfold StoreSettings.connections at made
  cases provider : settings.provider with
  | credentials =>
      rw [provider] at made
      cases made
      exact ⟨_, rfl, fun _ found => Connection.addressed_ofRecord found⟩
  | fixed =>
      rw [provider] at made
      dsimp only at made
      split at made
      · cases made
      · cases made
        refine ⟨_, rfl, fun connection found => ?_⟩
        cases found
        exact nofun
  | file =>
      rw [provider] at made
      dsimp only at made
      split at made
      · cases made
      · rcases Result.bind_eq_ok_iff.mp made with ⟨table, _, same⟩
        cases same
        refine ⟨_, rfl, fun connection found => ?_⟩
        rcases Option.map_eq_some_iff.mp found with ⟨entry, _, rfl⟩
        exact Connection.addressed_connection entry

/-- The connections that settings ask for leave the log alone, as do their address rules. -/
theorem StoreSettings.discreet_connections {settings : StoreSettings} {files : Files}
    {connections : ConnectionRule Outside} (made : settings.connections files = .ok connections)
    (context : SigningContext) (request : StoreRequest) :
    (connections context request).Discreet shown fun found =>
      ∀ connection ∈ found, ∀ rule ∈ connection.endpoint, ∀ target,
        (rule target).Discreet shown fun _ => True := by
  rcases exists_addressed made context request with ⟨found, given, addressed⟩
  rw [given]
  exact Connection.discreet_found addressed

/-! ## Gateways -/

namespace GatewayService

/-- A gateway as its settings describe it.  Everything that it sends goes through transports that
know nothing of its log; its policy is the one of the settings or that of a catalog. -/
structure Configured (service : GatewayService Outside) (shown : Calendar.Moment → Prop) :
    Prop where
  credentials : ∃ (settings : CredentialSettings) (files : Files)
      (transport : Http.Transport Outside),
    (∀ sent, (Attempt.act (transport sent)).Discreet shown fun _ => True) ∧
      (settings.assumedRoles = true → ∀ moment, shown moment → moment.HasRoom) ∧
      settings.source files transport = .ok service.pipeline.credentials
  policy : (∃ (settings : PolicySettings) (transport : Http.Transport Outside),
      (∀ sent, (Attempt.act (transport sent)).Discreet shown fun _ => True) ∧
        settings.policy transport = .ok service.pipeline.policy) ∨
    service.pipeline.policy.Known shown
  remap : ∃ aliases : StoreRequest → Option Remapped,
    service.pipeline.remap = fun _ request => pure (aliases request)
  connections : ∃ (settings : StoreSettings) (files : Files),
    settings.connections files = .ok service.pipeline.connections
  endpoint : ∃ addressing : Addressing, service.pipeline.endpoint = addressing.rule
  transport : ∀ sent, (Attempt.act (service.transport sent)).Discreet shown fun _ => True

/-- Nobody whom a configured gateway asks knows of its log. -/
theorem Configured.discreet {service : GatewayService Outside}
    (configured : service.Configured shown) : service.Discreet shown := by
  rcases configured.credentials with ⟨settings, files, transport, quiet, room, made⟩
  rcases CredentialSettings.discreet_source quiet room made with ⟨lookups, assumes⟩
  refine ⟨lookups, assumes, ?_, ?_, ?_, ?_, configured.transport⟩
  · rcases configured.policy with ⟨asked, server, unheard, provided⟩ | known
    · exact PolicySettings.known_policy unheard provided
    · exact known
  · intro record request
    rcases configured.remap with ⟨aliases, mapped⟩
    rw [mapped]
    exact Attempt.discreet_pure trivial
  · rcases configured.connections with ⟨store, held, connected⟩
    exact StoreSettings.discreet_connections connected
  · rcases configured.endpoint with ⟨addressing, addressed⟩
    rw [addressed]
    exact addressing.discreet_rule

/-- Another source that leaves the log alone may take the place of the gateway's. -/
theorem Discreet.withCredentials {service : GatewayService Outside}
    (discreet : service.Discreet shown) {source : CredentialSource Outside}
    (lookup : ∀ accessKey token, (source.lookup accessKey token).Discreet shown fun _ => True)
    (assumeRole : ∀ asked, (source.assumeRole asked).Discreet shown fun _ => True) :
    ({ service with pipeline := { service.pipeline with credentials := source } } :
      GatewayService Outside).Discreet shown :=
  ⟨lookup, assumeRole, discreet.policy, discreet.remap, discreet.connections, discreet.endpoint,
    discreet.transport⟩

end GatewayService
end SignedGateway
