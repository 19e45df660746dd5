import SignedGateway.Credential.Directory
import SignedGateway.World

namespace SignedGateway

/-!
# Where records come from

A source finds the record of an access key and token, and may give a caller a
temporary credential for a role.  The simplest source is a directory, which gives
none.
-/

/-- What a caller asks for who wants to take on a role. -/
structure RoleRequest where
  caller : Credential
  region : String
  roleArn : String
  externalId : Option String
  sessionName : Option String
  duration : Option Nat
  deriving DecidableEq, Repr

/-- A temporary credential with the names of the role it stands for. -/
structure AssumedRole where
  credential : Credential
  arn : String
  roleId : String
  expiration : Calendar.Moment
  deriving DecidableEq, Repr

/-- Finds the record of an access key and token. -/
abbrev RecordLookup (Outside : Type) : Type :=
  String → Option String → Attempt Outside (Option CredentialRecord)

structure CredentialSource (Outside : Type) where
  lookup : RecordLookup Outside
  assumeRole : RoleRequest → Attempt Outside (Option AssumedRole)

namespace CredentialSource

variable {Outside : Type}

/-- A source that gives no temporary credentials. -/
def ofLookup (lookup : RecordLookup Outside) : CredentialSource Outside :=
  ⟨lookup, fun _ => pure none⟩

end CredentialSource

/-- Lookups in a directory ask nobody. -/
def Directory.lookup {Outside : Type} (directory : Directory) : RecordLookup Outside :=
  fun accessKey token => pure (directory.find? accessKey token)

end SignedGateway
