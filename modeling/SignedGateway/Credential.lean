import SignedGateway.Error
import SignedGateway.Json.Record
import SignedGateway.Text.Quoted

namespace SignedGateway

/-!
# Credentials and the records they belong to

A record ties the credential that clients sign with to the credential that
reaches the store, together with a role at the store and the identity of the
client.  Records are read from documents and written to them; what is absent is
left out.
-/

/-- An access key with its secret, and the token of a temporary credential. -/
structure Credential where
  accessKey : String
  secretKey : String
  session : Option String
  deriving DecidableEq, Repr, Inhabited

/-- A role to take on at the store. -/
structure SessionRole where
  region : String
  roleArn : String
  externalId : Option String
  stsEndpoint : Option String
  deriving DecidableEq, Repr

/-- Who a credential belongs to: a user name and whatever else the document says
about them. -/
structure Identity where
  user : Option String
  attributes : List (String × Json)
  deriving Repr

structure CredentialRecord where
  emulated : Credential
  remote : Option Credential
  role : Option SessionRole
  identity : Option Identity
  deriving Repr

/-- Which credential of a record signs. -/
inductive Selector where
  | emulated
  | remote
  deriving DecidableEq, Repr

/-- A field that is left out when it is absent. -/
def optionalField (name : String) (value : Option Json) : List (String × Json) :=
  match value with
  | some present => [(name, present)]
  | none => []

namespace Credential

/-- The credential as logs may show it, without what must stay secret. -/
def describe (credential : Credential) : String :=
  "Credential \x7b access_key: " ++ Text.quoted credential.accessKey ++
    ", secret_key: \"***\", session: " ++
    (if credential.session.isSome then "Some(\"***\")" else "None") ++ " \x7d"

def ofTree : Json.Reader Credential := fun tree => do
  let record ← Json.Record.ofTree ["accessKey", "secretKey", "session"] tree
  return {
    accessKey := ← record.required "accessKey" Json.Reader.text
    secretKey := ← record.required "secretKey" Json.Reader.text
    session := ← record.optional "session" Json.Reader.text }

def toJson (credential : Credential) : Json :=
  Json.ofFields
    ([("accessKey", .text credential.accessKey), ("secretKey", .text credential.secretKey)] ++
      optionalField "session" (credential.session.map .text))

end Credential

namespace SessionRole

def ofTree : Json.Reader SessionRole := fun tree => do
  let record ← Json.Record.ofTree ["region", "roleArn", "externalId", "stsEndpoint"] tree
  return {
    region := ← record.required "region" Json.Reader.text
    roleArn := ← record.required "roleArn" Json.Reader.text
    externalId := ← record.optional "externalId" Json.Reader.text
    stsEndpoint := ← record.optional "stsEndpoint" Json.Reader.text }

def toJson (role : SessionRole) : Json :=
  Json.ofFields
    ([("region", .text role.region), ("roleArn", .text role.roleArn)] ++
      optionalField "externalId" (role.externalId.map .text) ++
      optionalField "stsEndpoint" (role.stsEndpoint.map .text))

end SessionRole

namespace Identity

/-- Every field but the user name is an attribute; of equal names the last counts. -/
def attributesOf : List (String × Json.Tree) → List (String × Json) →
    Except Json.ReadError (List (String × Json))
  | [], held => .ok held
  | (name, value) :: rest, held =>
      if name = "user" then attributesOf rest held
      else
        match value.toJson? with
        | some read => attributesOf rest (Json.insertField name read held)
        | none => .error .unusableValue

/-- An identity is always an object. -/
def ofTree : Json.Reader Identity
  | .object fields => do
      Json.Record.noDuplicates ["user"] fields
      let record : Json.Record := ⟨false, fields⟩
      return {
        user := ← record.optional "user" Json.Reader.text
        attributes := ← attributesOf fields [] }
  | .unusable => .error .unusableValue
  | _ => .error (.wrongType "a map")

def toJson (identity : Identity) : Json :=
  Json.ofFields (optionalField "user" (identity.user.map .text) ++ identity.attributes)

end Identity

namespace CredentialRecord

/-- The credential that reaches the store.  The one that clients sign with never
takes its place. -/
def remoteCredential (record : CredentialRecord) : Except GatewayError Credential :=
  match record.remote with
  | some credential => .ok credential
  | none =>
      .error (.notFound .noSuchBucket
        ("no remote credential is bound to access key " ++ record.emulated.accessKey))

def select (record : CredentialRecord) : Selector → Except GatewayError Credential
  | .emulated => .ok record.emulated
  | .remote => record.remoteCredential

def ofTree : Json.Reader CredentialRecord := fun tree => do
  let record ← Json.Record.ofTree ["emulated", "remote", "remoteSessionRole", "identity"] tree
  return {
    emulated := ← record.required "emulated" Credential.ofTree
    remote := ← record.optional "remote" Credential.ofTree
    role := ← record.optional "remoteSessionRole" SessionRole.ofTree
    identity := ← record.optional "identity" Identity.ofTree }

def toJson (record : CredentialRecord) : Json :=
  Json.ofFields
    ([("emulated", record.emulated.toJson)] ++
      optionalField "remote" (record.remote.map Credential.toJson) ++
      optionalField "remoteSessionRole" (record.role.map SessionRole.toJson) ++
      optionalField "identity" (record.identity.map Identity.toJson))

end CredentialRecord
end SignedGateway
