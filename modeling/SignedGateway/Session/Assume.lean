import SignedGateway.Calendar.Stamp
import SignedGateway.Credential.Source

namespace SignedGateway
namespace Session

/-!
# Taking on a role

A caller who proves to hold the secret of a record gets a fresh credential with a
session of limited length.  The session's record is the caller's but for the role
it names.  Sessions are found before the records they were made from; whether
they may themselves ask for a role depends on where callers are looked up.
-/

/-- The length of a session in seconds when none is asked for. -/
def defaultDuration : Nat := 3600

def minDuration : Nat := 900

def maxDuration : Nat := 43200

/-- The length that a session gets. -/
def grantedDuration (requested : Option Nat) : Nat :=
  min (max (requested.getD defaultDuration) minDuration) maxDuration

/-- The account in the name of a role, which is its fifth part. -/
def accountOf (roleArn : String) : String :=
  ((Text.splitUpTo ':' 6 roleArn)[4]?).getD ""

/-- The name of a role, which is its last segment. -/
def roleNameOf (roleArn : String) : String :=
  ((Text.splitOn '/' roleArn).getLast?).getD roleArn

def assumedArn (roleArn sessionName : String) : String :=
  "arn:aws:sts::" ++ accountOf roleArn ++ ":assumed-role/" ++ roleNameOf roleArn ++ "/" ++
    sessionName

variable {Outside : Type}

/-- A fresh temporary credential. -/
def mint : Act Outside Credential := do
  let key ← Act.draw fun supply => supply.upperText 16
  let secret ← Act.draw fun supply => supply.lowerText 40
  let token ← Act.draw fun supply => supply.lowerText 64
  return ⟨"ASIA" ++ key, secret, some token⟩

/-- The record of a session made from the record of its caller. -/
def recordFor (base : CredentialRecord) (request : RoleRequest) (minted : Credential) :
    CredentialRecord :=
  { emulated := minted
    remote := base.remote
    role := some ⟨request.region, request.roleArn, request.externalId, none⟩
    identity := base.identity }

/-- The moment at which a session ends that begins now. -/
def expirationFrom (now : Calendar.Moment) (duration : Nat) :
    Except (Halt GatewayError) Calendar.Moment :=
  match now.plusSeconds? duration with
  | some moment => .ok moment
  | none => .error .outOfCalendar

/-- The name that a session gets. -/
def nameFor (request : RoleRequest) : Act Outside String :=
  match request.sessionName with
  | some name => pure name
  | none => do
      let text ← Act.draw fun supply => supply.lowerText 32
      return "session-" ++ text

/-- Begin a session for a caller whose record is known. -/
def begin (base : CredentialRecord) (request : RoleRequest) : Attempt Outside AssumedRole := do
  let now ← Attempt.act Act.now
  let expiration ← Attempt.ofHalting (expirationFrom now (grantedDuration request.duration))
  let sessionName ← Attempt.act (nameFor request)
  let minted ← Attempt.act mint
  let session : Session := ⟨recordFor base request minted, expiration⟩
  modify fun world => { world with sessions := world.sessions.insert session now }
  let roleId ← Attempt.act (Act.draw fun supply => supply.upperText 17)
  return {
    credential := minted
    arn := assumedArn request.roleArn sessionName
    roleId := "AROA" ++ roleId ++ ":" ++ sessionName
    expiration := expiration }

/-- Give a caller a temporary credential, or none when the caller is unknown or
does not hold the secret. -/
def assume (callers : RecordLookup Outside) (request : RoleRequest) :
    Attempt Outside (Option AssumedRole) := do
  match ← callers request.caller.accessKey request.caller.session with
  | none => return none
  | some base =>
      if base.emulated.secretKey = request.caller.secretKey then
        return some (← begin base request)
      else return none

/-- Find the record of a session, or else look it up elsewhere. -/
def lookupFirst (elsewhere : RecordLookup Outside) : RecordLookup Outside :=
    fun accessKey token => do
  let world ← get
  let (found, sessions) := world.sessions.lookup accessKey token world.now
  set { world with sessions := sessions }
  match found with
  | some record => return some record
  | none => elsewhere accessKey token

/-- A source whose sessions stand in front of other records.  Callers are looked up
behind the sessions, so that no session begins another. -/
def source (base : RecordLookup Outside) : CredentialSource Outside :=
  ⟨lookupFirst base, assume base⟩

end Session
end SignedGateway
