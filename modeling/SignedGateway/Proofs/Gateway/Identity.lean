import SignedGateway.Policy.Server
import SignedGateway.Proofs.Gateway.RoleAuthority
import SignedGateway.Proofs.Gateway.Routing
import SignedGateway.Proofs.Json.Fields
import SignedGateway.Proofs.Session.Reachable
import SignedGateway.Proofs.Text.StrictUtf8

namespace SignedGateway

/-!
# Who a request acts for

A client names an access key and a token.  Records with the key may stand in the file, and a
session with the key in front of them; each of the two looks at the token for itself.  So a
record is only ever found for its own key and its own token, and whatever the gateway does for
a verified client in the name of the record's key, it does in the name that the client gave.
-/

/-! ## Lookups -/

section Lookups

variable {Outside : Type}

/-- A session under this key that a gateway has made and that has not ended. -/
structure Session.InUse (records : List CredentialRecord) (world : World Outside)
    (accessKey : String) (session : Session) : Prop where
  stored : (accessKey, session) ∈ world.sessions.sessions
  live : session.isLive world.now = true
  minted : session.Minted records

/-- A record belongs to this key and this token.  It is the last one of the key in the file, or
that of a session, if there are sessions. -/
structure CredentialRecord.BoundTo (records : List CredentialRecord) (roles : Bool)
    (world : World Outside) (accessKey : String) (token : Option String)
    (record : CredentialRecord) : Prop where
  key : record.emulated.accessKey = accessKey
  held : record.emulated.session = token
  origin : Directory.lastOf records accessKey = some record ∨
    roles = true ∧ ∃ session, Session.InUse records world accessKey session ∧
      session.record = record

/-- What is found for a key and a token: the record of a session, or else that of the file. -/
def CredentialRecord.foundFor (records : List CredentialRecord) (roles : Bool)
    (world : World Outside) (accessKey : String) (token : Option String) :
    Option CredentialRecord :=
  (if roles then (world.sessions.lookup accessKey token world.now).1 else none) <|>
    (Directory.ofRecords records).find? accessKey token

namespace CredentialRecord

variable {records : List CredentialRecord} {roles : Bool} {world : World Outside}
  {accessKey : String} {token : Option String} {record : CredentialRecord}

/-- Sessions and the directory each show a record only to its own key and token. -/
theorem boundTo_of_foundFor {Caller : Type} [DecidableEq Caller]
    (reachable : SessionStore.Reachable Caller records world.sessions)
    (found : foundFor records roles world accessKey token = some record) :
    BoundTo records roles world accessKey token record := by
  unfold foundFor at found
  cases looked : (if roles then (world.sessions.lookup accessKey token world.now).1 else none) with
  | none =>
      rw [looked] at found
      rcases Directory.mem_of_find? found with ⟨_, key, held⟩
      exact ⟨key, held, Or.inl (Directory.find?_eq_some_iff.mp found).1⟩
  | some other =>
      rw [looked] at found
      cases found
      split_ifs at looked with taken
      rcases SessionStore.exists_of_lookup looked with ⟨session, stored, rfl, held, live⟩
      rcases reachable.of_mem stored with ⟨minted, key⟩
      exact ⟨key, held, Or.inr ⟨taken, session, ⟨stored, live, minted⟩, rfl⟩⟩

/-- If no session is in use under its key, the last record of the key is found with its token. -/
theorem foundFor_of_lastOf {Caller : Type} [DecidableEq Caller]
    (reachable : SessionStore.Reachable Caller records world.sessions)
    (last : Directory.lastOf records accessKey = some record)
    (unused : roles = true → ∀ session, ¬ Session.InUse records world accessKey session) :
    foundFor records roles world accessKey record.emulated.session = some record := by
  have listed : (Directory.ofRecords records).find? accessKey record.emulated.session =
      some record :=
    Directory.find?_eq_some_iff.mpr ⟨last, rfl⟩
  unfold foundFor
  rw [listed]
  split_ifs with taken
  · cases looked : (world.sessions.lookup accessKey record.emulated.session world.now).1 with
    | none => rfl
    | some other =>
        rcases SessionStore.exists_of_lookup looked with ⟨session, stored, _, _, live⟩
        exact absurd ⟨stored, live, (reachable.of_mem stored).1⟩ (unused taken session)
  · rfl

/-- A source with its records from a file returns what is found, and asks nobody. -/
theorem exists_perform_lookup {source : CredentialSource Outside}
    (given : source = if roles then Session.source (Directory.ofRecords records).lookup
      else CredentialSource.ofLookup (Directory.ofRecords records).lookup)
    (world : World Outside) (accessKey : String) (token : Option String) :
    ∃ after, (source.lookup accessKey token).perform world =
      (.ok (foundFor records roles world accessKey token), after) ∧ after.now = world.now := by
  rw [given]
  cases roles with
  | true => exact ⟨_, Session.perform_lookup _ accessKey token world, rfl⟩
  | false => exact ⟨world, rfl, rfl⟩

end CredentialRecord

end Lookups

namespace Pipeline

variable {Outside : Type}

/-! ## Verified requests -/

theorem accessKey_documentFor (request : StoreRequest) (context : SigningContext)
    (action : Option String) :
    (Policy.documentFor request context action).field? "accessKey" =
      some (.text context.record.emulated.accessKey) := by
  unfold Policy.documentFor Json.ofFields Json.field?
  simp only [List.foldl_cons, List.foldl_nil]
  rw [Json.lookup_insertField_of_ne (by decide), Json.lookup_insertField_of_ne (by decide),
    Json.lookup_insertField_of_ne (by decide), Json.lookup_insertField_self]

/-- A verified request acts for the owner of the key and the token that it names: the record
whose secret has signed it belongs to both, and the policy server is told about that key, under
which the table of connections is searched too. -/
structure ActsFor (pipeline : Pipeline Outside) (records : List CredentialRecord) (roles : Bool)
    (world : World Outside) (request : StoreRequest) (context : SigningContext) : Prop where
  bound : CredentialRecord.BoundTo records roles world request.authorization.accessKey
    request.authorization.securityToken context.record
  verified : Signature.verify pipeline.suite ⟨world.now, pipeline.maxDrift⟩ context.record request =
    .ok ()
  judged : ∀ judged action, (Policy.documentFor judged context action).field? "accessKey" =
    some (.text request.authorization.accessKey)
  connected : ∀ (table : ConnectionTable) (resolved : StoreRequest),
    (table.rule context resolved : Attempt Outside (Option (Connection Outside))) =
      pure ((table.entries.lookup request.authorization.accessKey).map ConnectionEntry.connection)

/-- What a source does in a world.  It answers every lookup, and only with a record that belongs
to the key and the token.  It finds the last record of each key in the file with its own token,
unless a session has the key.  And a pipeline that asks it verifies requests only for the owner
of what they name. -/
structure BindsIdentities (source : CredentialSource Outside) (records : List CredentialRecord)
    (roles : Bool) (world : World Outside) : Prop where
  answers : ∀ accessKey token, ∃ found after,
    (source.lookup accessKey token).perform world = (.ok found, after) ∧
      ∀ record ∈ found, CredentialRecord.BoundTo records roles world accessKey token record
  lists : ∀ accessKey record, Directory.lastOf records accessKey = some record →
    (roles = true → ∀ session, ¬ Session.InUse records world accessKey session) →
      ∃ after, (source.lookup accessKey record.emulated.session).perform world =
        (.ok (some record), after)
  admits : ∀ pipeline : Pipeline Outside, pipeline.credentials = source →
    ∀ request context after, (pipeline.authenticate request).perform world = (.ok context, after) →
      pipeline.ActsFor records roles world request context

theorem actsFor_of_authenticate {pipeline : Pipeline Outside} {records : List CredentialRecord}
    {roles : Bool} {Caller : Type} [DecidableEq Caller] {world after : World Outside}
    (reachable : SessionStore.Reachable Caller records world.sessions)
    (given : pipeline.credentials =
      if roles then Session.source (Directory.ofRecords records).lookup
      else CredentialSource.ofLookup (Directory.ofRecords records).lookup)
    {request : StoreRequest} {context : SigningContext}
    (passed : (pipeline.authenticate request).perform world = (.ok context, after)) :
    pipeline.ActsFor records roles world request context := by
  rcases found_of_authenticate passed with ⟨looked, checked, _⟩
  rcases CredentialRecord.exists_perform_lookup given world request.authorization.accessKey
    request.authorization.securityToken with ⟨between, answered, sameTime⟩
  rw [looked, Prod.mk.injEq] at answered
  rcases answered with ⟨found, rfl⟩
  have bound := CredentialRecord.boundTo_of_foundFor reachable (Except.ok.inj found).symm
  rw [sameTime] at checked
  refine ⟨bound, (checks_eq_ok checked).1, fun judged action => ?_, fun table resolved => ?_⟩
  · rw [accessKey_documentFor, bound.key]
  · rw [← bound.key]
    rfl

/-- A gateway with its records in a file binds identities, wherever its callers have brought its
sessions to, and whether roles may be taken on or not. -/
theorem identities_bound {settings : CredentialSettings} {files : Files}
    {transport : Http.Transport Outside} {source : CredentialSource Outside}
    (inFile : settings.provider = .file) (made : settings.source files transport = .ok source) :
    ∃ records, settings.Lists files records ∧
      ∀ (Caller : Type) [DecidableEq Caller] (world : World Outside),
        SessionStore.Reachable Caller records world.sessions →
          BindsIdentities source records settings.assumedRoles world := by
  rcases CredentialSettings.exists_listed_of_source inFile made with ⟨records, listed, given⟩
  refine ⟨records, listed, fun Caller _ world reachable => ⟨?_, ?_, ?_⟩⟩
  · intro accessKey token
    rcases CredentialRecord.exists_perform_lookup given world accessKey token with
      ⟨after, answered, _⟩
    exact ⟨_, after, answered, fun record found =>
      CredentialRecord.boundTo_of_foundFor reachable found⟩
  · intro accessKey record last unused
    rcases CredentialRecord.exists_perform_lookup given world accessKey record.emulated.session with
      ⟨after, answered, _⟩
    rw [CredentialRecord.foundFor_of_lastOf reachable last unused] at answered
    exact ⟨after, answered⟩
  · intro pipeline asks request context after passed
    exact actsFor_of_authenticate reachable (asks.trans given) passed

end Pipeline

/-! ## A client in a file -/

namespace Client

def fileSettings : CredentialSettings :=
  { CredentialSettings.standard with filePath := some "records", assumedRoles := true }

/-- A file that lists the client's record alone. -/
def recordText : String :=
  "[\x7b\"emulated\":\x7b\"accessKey\":\"client\",\"secretKey\":\"shown\"\x7d," ++
    "\"remote\":\x7b\"accessKey\":\"store\",\"secretKey\":\"hidden\"\x7d\x7d]"

def recordFiles : Files :=
  ⟨fun _ => .ok (Utf8.bytesOf recordText)⟩

theorem text_recordFiles (path : String) : recordFiles.text path = .ok recordText := by
  have decoded : Utf8.decode (Utf8.bytesOf recordText) = some recordText :=
    Utf8.decode_eq_some_iff.mpr rfl
  unfold Files.text recordFiles
  dsimp only
  rw [decoded]

set_option maxRecDepth 4096 in
theorem read_recordText :
    (Json.Tree.parse recordText >>= Json.Reader.list CredentialRecord.ofTree) = .ok [record] :=
  rfl

theorem eq_of_lists {records : List CredentialRecord}
    (listed : fileSettings.Lists recordFiles records) : records = [record] := by
  rcases listed with ⟨path, text, _, content, read⟩
  rw [text_recordFiles] at content
  cases content
  rw [read_recordText] at read
  exact (Except.ok.inj read).symm

def asked : RoleRequest :=
  ⟨credential, "r", "arn:aws:iam::1:role/reader", none, none, none⟩

def offline : Http.Transport Unit :=
  fun _ => pure (.unreachable "offline")

theorem exists_fileSource : ∃ source, fileSettings.source recordFiles offline = .ok source := by
  have loaded : Directory.load recordFiles "records" = .ok directory := by
    unfold Directory.load Directory.parse
    rw [text_recordFiles]
    dsimp only
    rw [read_recordText]
    rfl
  have looked : fileSettings.recordLookup recordFiles offline = .ok directory.lookup := by
    change (Directory.load recordFiles "records" >>= fun directory => .ok directory.lookup) = _
    rw [loaded]
    rfl
  unfold CredentialSettings.source
  rw [looked]
  exact ⟨_, rfl⟩

/-- The client is verified in its own name.  It takes on a role, its record is still found, and the
identities stay bound. -/
theorem identities_of_client :
    ∃ source, fileSettings.source recordFiles offline = .ok source ∧
      (∃ request context after,
        (roleService.pipeline.authenticate request).perform Client.world = (.ok context, after) ∧
        roleService.pipeline.ActsFor [record] true Client.world request context) ∧
      ∃ assumed world later, (source.assumeRole asked).perform Client.world =
          (.ok (some assumed), world) ∧
        Pipeline.BindsIdentities source [record] true world ∧
        (source.lookup "client" none).perform world = (.ok (some record), later) ∧
        Pipeline.BindsIdentities source [record] true later := by
  rcases exists_fileSource with ⟨source, made⟩
  rcases Pipeline.identities_bound rfl made with ⟨records, listed, binds⟩
  cases eq_of_lists listed
  rcases CredentialSettings.exists_listed_of_source rfl made with ⟨others, sameList, given⟩
  cases eq_of_lists sameList
  have sessions : source = Session.source (Directory.ofRecords [record]).lookup := given
  subst sessions
  have fresh : SessionStore.Reachable Nat [record] Client.world.sessions :=
    SessionStore.reachable_empty
  refine ⟨_, made, ?_, ?_⟩
  · rcases exists_roleAsked "id" with ⟨_, request, _, asked⟩
    have passed : (roleService.pipeline.authenticate request).perform Client.world =
        (.ok ⟨.sts, record, some "r"⟩, Client.world) := asked.passed rfl rfl
    exact ⟨request, _, _, passed,
      (binds Nat Client.world fresh).admits roleService.pipeline rfl request _ _ passed⟩
  · have found : (Directory.ofRecords [record]).find? asked.caller.accessKey asked.caller.session =
        some record := rfl
    have ends : Client.world.now.plusSeconds? (Session.grantedDuration asked.duration) =
        some ⟨19723, 3600, 0⟩ := by
      decide +kernel
    rcases Session.exists_perform_assume found rfl ends with ⟨assumed, world, begun⟩
    have reachable := Session.reachable_assumeRole fresh asked
    change SessionStore.Reachable Nat [record]
      ((Session.assume (Directory.ofRecords [record]).lookup asked).perform
        Client.world).2.sessions at reachable
    rw [begun] at reachable
    have bound := binds Nat world reachable
    -- The key of a session is temporary, and the client's own key is not.
    have unused : fileSettings.assumedRoles = true →
        ∀ session, ¬ Session.InUse [record] world "client" session := by
      intro _ session inUse
      rcases inUse.minted with ⟨_, _, _, _, _, temporary⟩
      rw [(reachable.of_mem inUse.stored).2] at temporary
      exact permanent record List.mem_cons_self temporary
    rcases bound.lists "client" record rfl unused with ⟨after, looked⟩
    have later := Session.reachable_lookup reachable "client" none
    change SessionStore.Reachable Nat [record] (((Session.source
      (Directory.ofRecords [record]).lookup).lookup "client"
        record.emulated.session).perform world).2.sessions at later
    rw [looked] at later
    exact ⟨assumed, world, after, begun, bound, looked, binds Nat after later⟩

end Client
end SignedGateway
