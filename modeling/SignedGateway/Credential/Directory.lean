import SignedGateway.Credential
import SignedGateway.Settings.Files

namespace SignedGateway

/-!
# Directories of records

A directory holds one record for each access key; of several records with one
access key the last counts.  A record is found only by its access key together
with its session token, and a record without a token only without one.
-/

structure Directory where
  records : List (String × CredentialRecord)
  deriving Repr

namespace Directory

def empty : Directory := ⟨[]⟩

def add (directory : Directory) (record : CredentialRecord) : Directory :=
  let accessKey := record.emulated.accessKey
  ⟨(accessKey, record) :: directory.records.filter fun entry => entry.1 != accessKey⟩

def ofRecords (records : List CredentialRecord) : Directory :=
  records.foldl add empty

def size (directory : Directory) : Nat :=
  directory.records.length

/-- The record of an access key for the holder of its token. -/
def find? (directory : Directory) (accessKey : String) (token : Option String) :
    Option CredentialRecord :=
  (directory.records.lookup accessKey).filter fun record => record.emulated.session = token

/-- The directory in a document. -/
def parse (text : String) : Except GatewayError Directory :=
  match Json.Tree.parse text >>= Json.Reader.list CredentialRecord.ofTree with
  | .ok records => .ok (ofRecords records)
  | .error fault => .error (.configuration ("invalid credentials JSON: " ++ fault.message))

/-- The directory in a file. -/
def load (files : Files) (path : String) : Except GatewayError Directory :=
  match files.text path with
  | .ok text => parse text
  | .error reason =>
      .error (.configuration ("cannot read credentials file " ++ path ++ ": " ++ reason))

end Directory
end SignedGateway
