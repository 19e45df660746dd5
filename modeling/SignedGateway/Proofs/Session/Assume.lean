import SignedGateway.Proofs.Credential.Directory
import SignedGateway.Proofs.Gateway.Attempt
import SignedGateway.Proofs.Session.Store

namespace SignedGateway

/-!
# Who gets a session, and what for

Callers are looked up in a directory, and sessions stand in front of it.  A session begins
only for a caller whose access key, token and secret are those of a record in the directory;
it acts with what that record has at the store, in the role that was asked for, and ends
within twelve hours.  If nothing begins, nothing changes.
-/

namespace Session

/-! ## The length of a session -/

theorem grantedDuration_bounds (requested : Option Nat) :
    900 ≤ grantedDuration requested ∧ grantedDuration requested ≤ 43200 := by
  unfold grantedDuration minDuration maxDuration
  omega

end Session

/-- Time that is added in seconds is there in seconds. -/
theorem Calendar.Moment.unixSeconds_of_plusSeconds? {moment later : Moment} {seconds : Nat}
    (added : moment.plusSeconds? seconds = some later) :
    later.unixSeconds = moment.unixSeconds + seconds := by
  unfold plusSeconds? at added
  by_cases zero : seconds = 0
  · rw [if_pos zero] at added
    cases added
    omega
  · rw [if_neg zero] at added
    dsimp only at added
    split at added
    · cases added
    · cases added
      unfold unixSeconds
      dsimp only
      omega

namespace Session

variable {Outside : Type}

/-! ## Beginning a session -/

/-- What a caller who owns a record is given at a moment. -/
structure GrantedBy (base : CredentialRecord) (asked : RoleRequest) (now : Calendar.Moment)
    (session : Session) : Prop where
  caller : base.emulated = asked.caller
  remote : session.record.remote = base.remote
  identity : session.record.identity = base.identity
  role : session.record.role = some ⟨asked.region, asked.roleArn, asked.externalId, none⟩
  length : session.expiration.unixSeconds = now.unixSeconds + grantedDuration asked.duration
  bounded : 900 ≤ session.expiration.unixSeconds - now.unixSeconds ∧
    session.expiration.unixSeconds - now.unixSeconds ≤ 43200

/-- The form of the access keys that are made for sessions. -/
def Temporary (accessKey : String) : Prop :=
  ∃ digits, accessKey = "ASIA" ++ digits

/-- A session begins unless it would end after the calendar. -/
theorem begin_cases (base : CredentialRecord) (asked : RoleRequest) (world : World Outside) :
    (world.now.plusSeconds? (grantedDuration asked.duration) = none ∧
      (begin base asked).perform world = (.error .outOfCalendar, world)) ∨
    ∃ assumed session after, (begin base asked).perform world = (.ok assumed, after) ∧
      session.record = recordFor base asked assumed.credential ∧
      Temporary assumed.credential.accessKey ∧
      world.now.plusSeconds? (grantedDuration asked.duration) = some session.expiration ∧
      after.sessions = world.sessions.insert session world.now := by
  have clock : (Attempt.act Act.now).perform world = (.ok world.now, world) := rfl
  unfold begin
  rw [Attempt.perform_bind_of_ok clock]
  cases ends : world.now.plusSeconds? (grantedDuration asked.duration) with
  | none =>
      have ended : (Attempt.ofHalting (expirationFrom world.now
          (grantedDuration asked.duration))).perform world = (.error .outOfCalendar, world) := by
        rw [expirationFrom, ends]
        rfl
      rw [Attempt.perform_bind_of_error ended]
      exact Or.inl ⟨rfl, rfl⟩
  | some expiration =>
      have dated : (Attempt.ofHalting (expirationFrom world.now
          (grantedDuration asked.duration))).perform world = (.ok expiration, world) := by
        rw [expirationFrom, ends]
        rfl
      rw [Attempt.perform_bind_of_ok dated]
      -- The rest draws text and stores the session; it draws once more for a missing name.
      right
      cases named : asked.sessionName with
      | some name =>
          unfold nameFor
          rw [named]
          exact ⟨_, ⟨recordFor base asked _, expiration⟩, _, rfl, rfl, ⟨_, rfl⟩, rfl, rfl⟩
      | none =>
          unfold nameFor
          rw [named]
          exact ⟨_, ⟨recordFor base asked _, expiration⟩, _, rfl, rfl, ⟨_, rfl⟩, rfl, rfl⟩

/-- A session that begins is what its caller may be given. -/
theorem grantedBy_of_record {base : CredentialRecord} {asked : RoleRequest}
    {now : Calendar.Moment} {session : Session} {minted : Credential}
    (caller : base.emulated = asked.caller) (made : session.record = recordFor base asked minted)
    (ends : now.plusSeconds? (grantedDuration asked.duration) = some session.expiration) :
    GrantedBy base asked now session := by
  have bounds := grantedDuration_bounds asked.duration
  have later := Calendar.Moment.unixSeconds_of_plusSeconds? ends
  refine ⟨caller, ?_, ?_, ?_, later, by omega, by omega⟩ <;> rw [made] <;> rfl

/-! ## Asking for a role -/

section Asking

variable {records : List CredentialRecord}

/-- What comes of asking for a role.  Only one of the three ways changes anything. -/
inductive Answers (records : List CredentialRecord) (asked : RoleRequest) (world : World Outside) :
    Except (Halt GatewayError) (Option AssumedRole) × World Outside → Prop where
  | halted (halt : Halt GatewayError) : Answers records asked world (.error halt, world)
  | refused : Answers records asked world (.ok none, world)
  | begun {base : CredentialRecord} {assumed : AssumedRole} {session : Session}
      {after : World Outside}
      (found : (Directory.ofRecords records).find? asked.caller.accessKey asked.caller.session =
        some base)
      (granted : GrantedBy base asked world.now session)
      (handed : session.record.emulated = assumed.credential)
      (temporary : Temporary assumed.credential.accessKey)
      (stored : after.sessions = world.sessions.insert session world.now) :
      Answers records asked world (.ok (some assumed), after)

theorem answers_assume (records : List CredentialRecord) (asked : RoleRequest)
    (world : World Outside) :
    Answers records asked world
      ((assume (Directory.ofRecords records).lookup asked).perform world) := by
  unfold assume Directory.lookup
  rw [pure_bind]
  cases found : (Directory.ofRecords records).find? asked.caller.accessKey asked.caller.session with
  | none => exact .refused
  | some base =>
      dsimp only
      by_cases secret : base.emulated.secretKey = asked.caller.secretKey
      · rw [if_pos secret]
        rcases Directory.mem_of_find? found with ⟨_, key, token⟩
        have caller : base.emulated = asked.caller := by
          cases own : base.emulated
          cases shown : asked.caller
          rw [own, shown] at key token secret
          cases key
          cases token
          cases secret
          rfl
        rcases begin_cases base asked world with ⟨_, ended⟩ | ⟨assumed, session, after, done,
          made, temporary, ends, stored⟩
        · rw [Attempt.perform_bind_of_error ended]
          exact .halted .outOfCalendar
        · rw [Attempt.perform_bind_of_ok done]
          exact .begun found (grantedBy_of_record caller made ends)
            (congrArg CredentialRecord.emulated made) temporary stored
      · rw [if_neg secret]
        exact .refused

/-- A caller who holds the secret of a record is given a session. -/
theorem exists_perform_assume {base : CredentialRecord} {asked : RoleRequest}
    {world : World Outside} {expiration : Calendar.Moment}
    (found : (Directory.ofRecords records).find? asked.caller.accessKey asked.caller.session =
      some base)
    (secret : base.emulated.secretKey = asked.caller.secretKey)
    (ends : world.now.plusSeconds? (grantedDuration asked.duration) = some expiration) :
    ∃ assumed after, (assume (Directory.ofRecords records).lookup asked).perform world =
      (.ok (some assumed), after) := by
  unfold assume Directory.lookup
  rw [pure_bind, found]
  dsimp only
  rw [if_pos secret]
  rcases begin_cases base asked world with ⟨none, _⟩ | ⟨assumed, _, after, done, _⟩
  · rw [none] at ends
    cases ends
  · rw [Attempt.perform_bind_of_ok done]
    exact ⟨assumed, after, rfl⟩

/-- A caller whom the directory does not list is refused. -/
theorem perform_assume_of_unlisted {asked : RoleRequest}
    (unlisted : Directory.Unlisted records asked.caller.accessKey) (world : World Outside) :
    (assume (Directory.ofRecords records).lookup asked).perform world = (.ok none, world) := by
  unfold assume Directory.lookup
  rw [pure_bind, unlisted.find?_eq_none]
  rfl

/-- A lookup goes on elsewhere if no session shows a record. -/
theorem perform_lookupFirst (elsewhere : RecordLookup Outside) (accessKey : String)
    (token : Option String) (world : World Outside) :
    (lookupFirst elsewhere accessKey token).perform world =
      match (world.sessions.lookup accessKey token world.now).1 with
      | some record =>
          (.ok (some record),
            { world with sessions := (world.sessions.lookup accessKey token world.now).2 })
      | none =>
          (elsewhere accessKey token).perform
            { world with sessions := (world.sessions.lookup accessKey token world.now).2 } := by
  have present : (get : Attempt Outside (World Outside)).perform world = (.ok world, world) := rfl
  rcases looked : world.sessions.lookup accessKey token world.now with ⟨found, sessions⟩
  unfold lookupFirst
  rw [Attempt.perform_bind_of_ok present, looked]
  cases found <;> rfl

/-- A record is that of a session, or else it stands in the directory. -/
theorem perform_lookup (directory : Directory) (accessKey : String) (token : Option String)
    (world : World Outside) :
    ((source directory.lookup).lookup accessKey token).perform world =
      (.ok ((world.sessions.lookup accessKey token world.now).1 <|>
          directory.find? accessKey token),
        { world with sessions := (world.sessions.lookup accessKey token world.now).2 }) := by
  unfold source
  dsimp only
  rw [perform_lookupFirst]
  cases (world.sessions.lookup accessKey token world.now).1 <;> rfl

end Asking
end Session

end SignedGateway
