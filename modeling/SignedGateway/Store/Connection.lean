import SignedGateway.Request
import SignedGateway.Settings.Files
import SignedGateway.Store.Addressing

namespace SignedGateway

/-!
# Connections to the store

A connection is what a request is sent to the store with: a credential, possibly a
role, and possibly an address rule of its own.  It comes from the caller's record,
is the same for everyone, or stands in a document under the caller's access key.
-/

structure Connection (Outside : Type) where
  credential : Credential
  role : Option SessionRole
  endpoint : Option (EndpointRule Outside)

/-- Finds the connection for a request, if there is one. -/
abbrev ConnectionRule (Outside : Type) : Type :=
  SigningContext → StoreRequest → Attempt Outside (Option (Connection Outside))

namespace Connection

variable {Outside : Type}

/-- The connection in the caller's record. -/
def ofRecord (record : CredentialRecord) : Option (Connection Outside) :=
  record.remote.map fun credential => ⟨credential, record.role, none⟩

/-- Everyone uses the remote credential of their own record. -/
def fromRecord : ConnectionRule Outside :=
  fun context _ => pure (ofRecord context.record)

/-- Everyone uses the same connection. -/
def fixed (connection : Connection Outside) : ConnectionRule Outside :=
  fun _ _ => pure (some connection)

end Connection

/-- A connection as a document describes it. -/
structure ConnectionEntry where
  credential : Credential
  role : Option SessionRole
  addressing : Option Addressing
  deriving Repr

namespace ConnectionEntry

def ofTree : Json.Reader ConnectionEntry := fun tree => do
  let record ←
    Json.Record.ofTree
      ["remoteCredential", "remoteSessionRole", "remoteS3FacadeConfiguration"] tree
  return {
    credential := ← record.required "remoteCredential" Credential.ofTree
    role := ← record.optional "remoteSessionRole" SessionRole.ofTree
    addressing := ← record.optional "remoteS3FacadeConfiguration" Addressing.ofTree }

def connection {Outside : Type} (entry : ConnectionEntry) : Connection Outside :=
  ⟨entry.credential, entry.role, entry.addressing.map Addressing.rule⟩

end ConnectionEntry

/-- The connections of a document by access key. -/
structure ConnectionTable where
  entries : List (String × ConnectionEntry)
  deriving Repr

namespace ConnectionTable

def size (table : ConnectionTable) : Nat :=
  table.entries.length

/-- Store an entry under an access key in place of any other. -/
def add (table : ConnectionTable) (accessKey : String) (entry : ConnectionEntry) :
    ConnectionTable :=
  ⟨(accessKey, entry) :: table.entries.filter fun held => held.1 != accessKey⟩

/-- Read the fields of an object; of equal names the last counts. -/
def readFields : ConnectionTable → List (String × Json.Tree) →
    Except Json.ReadError ConnectionTable
  | table, [] => .ok table
  | table, (accessKey, value) :: rest => do
      readFields (table.add accessKey (← ConnectionEntry.ofTree value)) rest

def ofTree : Json.Reader ConnectionTable
  | .object fields => readFields ⟨[]⟩ fields
  | .unusable => .error .unusableValue
  | _ => .error (.wrongType "a map")

def parse (text : String) : Except GatewayError ConnectionTable :=
  match Json.Tree.parse text >>= ofTree with
  | .ok table => .ok table
  | .error fault => .error (.configuration ("invalid connections file: " ++ fault.message))

def load (files : Files) (path : String) : Except GatewayError ConnectionTable :=
  match files.text path with
  | .ok text => parse text
  | .error reason =>
      .error (.configuration ("failed to read connections file " ++ path ++ ": " ++ reason))

/-- Everyone uses the connection under the access key of their record. -/
def rule {Outside : Type} (table : ConnectionTable) : ConnectionRule Outside :=
  fun context _ =>
    pure ((table.entries.lookup context.record.emulated.accessKey).map ConnectionEntry.connection)

end ConnectionTable
end SignedGateway
