import Mathlib.Data.List.Induction
import SignedGateway.Credential.Settings
import SignedGateway.Proofs.MultiMap
import SignedGateway.Proofs.Result

namespace SignedGateway
namespace Directory

/-!
# What a directory finds

A directory is made of a list of records, in which an access key may stand several times.  It
has the last record of each key, and shows it to whoever names the key together with the token
of that very record.
-/

/-- The last of the records that have an access key. -/
def lastOf (records : List CredentialRecord) (accessKey : String) : Option CredentialRecord :=
  (records.filter fun record => record.emulated.accessKey = accessKey).getLast?

theorem lastOf_concat (records : List CredentialRecord) (record : CredentialRecord)
    (accessKey : String) :
    lastOf (records ++ [record]) accessKey =
      if record.emulated.accessKey = accessKey then some record else lastOf records accessKey := by
  unfold lastOf
  rw [List.filter_append, List.filter_cons, List.filter_nil]
  by_cases same : record.emulated.accessKey = accessKey
  · rw [if_pos (decide_eq_true same), if_pos same, List.getLast?_concat]
  · rw [decide_eq_false same, if_neg Bool.false_ne_true, if_neg same, List.append_nil]

theorem mem_of_lastOf {records : List CredentialRecord} {accessKey : String}
    {record : CredentialRecord} (last : lastOf records accessKey = some record) :
    record ∈ records ∧ record.emulated.accessKey = accessKey := by
  rcases List.mem_filter.mp (List.mem_of_getLast? last) with ⟨among, key⟩
  exact ⟨among, of_decide_eq_true key⟩

theorem lookup_add (directory : Directory) (record : CredentialRecord) (accessKey : String) :
    (directory.add record).records.lookup accessKey =
      if record.emulated.accessKey = accessKey then some record
      else directory.records.lookup accessKey := by
  unfold add
  dsimp only
  rw [List.lookup_cons]
  by_cases same : record.emulated.accessKey = accessKey
  · rw [if_pos same, same, beq_self_eq_true]
  · rw [if_neg same, beq_false_of_ne (Ne.symm same)]
    exact MultiMap.lookup_filter_of_kept (· != record.emulated.accessKey)
      (bne_iff_ne.mpr (Ne.symm same)) directory.records

/-- Under an access key stands the last of its records. -/
theorem lookup_ofRecords (records : List CredentialRecord) (accessKey : String) :
    (ofRecords records).records.lookup accessKey = lastOf records accessKey := by
  -- The last record is added last, so the induction takes records from the end.
  induction records using List.reverseRecOn with
  | nil => rfl
  | append_singleton records record inductionHypothesis =>
      have added : ofRecords (records ++ [record]) = (ofRecords records).add record :=
        List.foldl_append
      rw [added, lookup_add, inductionHypothesis, lastOf_concat]

/-- A record is found exactly if it is the last of its access key, with its token. -/
theorem find?_eq_some_iff {records : List CredentialRecord} {accessKey : String}
    {token : Option String} {record : CredentialRecord} :
    (ofRecords records).find? accessKey token = some record ↔
      lastOf records accessKey = some record ∧ record.emulated.session = token := by
  unfold find?
  rw [lookup_ofRecords, Option.filter_eq_some_iff, decide_eq_true_eq]

/-- What is found in a directory is a record of the key and the token. -/
theorem mem_of_find? {records : List CredentialRecord} {accessKey : String}
    {token : Option String} {record : CredentialRecord}
    (found : (ofRecords records).find? accessKey token = some record) :
    record ∈ records ∧ record.emulated.accessKey = accessKey ∧ record.emulated.session = token := by
  rcases find?_eq_some_iff.mp found with ⟨last, held⟩
  rcases mem_of_lastOf last with ⟨among, key⟩
  exact ⟨among, key, held⟩

/-- No record has this access key. -/
def Unlisted (records : List CredentialRecord) (accessKey : String) : Prop :=
  ∀ record ∈ records, record.emulated.accessKey ≠ accessKey

theorem Unlisted.find?_eq_none {records : List CredentialRecord} {accessKey : String}
    (unlisted : Unlisted records accessKey) (token : Option String) :
    (ofRecords records).find? accessKey token = none := by
  cases found : (ofRecords records).find? accessKey token with
  | none => rfl
  | some record =>
      rcases mem_of_find? found with ⟨among, key, _⟩
      exact absurd key (unlisted record among)

/-! ## The directory in a file -/

/-- A directory that is loaded is made of the records that the file lists. -/
theorem exists_records_of_load {files : Files} {path : String} {directory : Directory}
    (loaded : load files path = .ok directory) :
    ∃ text records, files.text path = .ok text ∧
      (Json.Tree.parse text >>= Json.Reader.list CredentialRecord.ofTree) = .ok records ∧
      directory = ofRecords records := by
  unfold load at loaded
  cases content : files.text path with
  | error reason =>
      rw [content] at loaded
      cases loaded
  | ok text =>
      rw [content] at loaded
      dsimp only at loaded
      unfold parse at loaded
      cases read : (Json.Tree.parse text >>= Json.Reader.list CredentialRecord.ofTree) with
      | error fault =>
          rw [read] at loaded
          cases loaded
      | ok records =>
          rw [read] at loaded
          cases loaded
          exact ⟨text, records, rfl, read, rfl⟩

end Directory

namespace CredentialSettings

variable {Outside : Type}

/-- The file that the settings name lists these records. -/
def Lists (settings : CredentialSettings) (files : Files) (records : List CredentialRecord) :
    Prop :=
  ∃ path text, settings.filePath = some path ∧ files.text path = .ok text ∧
    (Json.Tree.parse text >>= Json.Reader.list CredentialRecord.ofTree) = .ok records

/-- A source that has its records from a file looks in the directory of the file's records,
behind sessions if roles may be taken on. -/
theorem exists_listed_of_source {settings : CredentialSettings} {files : Files}
    {transport : Http.Transport Outside} {source : CredentialSource Outside}
    (inFile : settings.provider = .file) (made : settings.source files transport = .ok source) :
    ∃ records, settings.Lists files records ∧
      source = if settings.assumedRoles then Session.source (Directory.ofRecords records).lookup
        else CredentialSource.ofLookup (Directory.ofRecords records).lookup := by
  rcases Result.bind_eq_ok_iff.mp made with ⟨lookup, found, given⟩
  cases given
  rw [recordLookup, inFile] at found
  dsimp only at found
  cases named : settings.filePath with
  | none =>
      rw [named] at found
      cases found
  | some path =>
      rw [named] at found
      rcases Result.bind_eq_ok_iff.mp found with ⟨directory, loaded, same⟩
      cases same
      rcases Directory.exists_records_of_load loaded with ⟨text, records, content, read, rfl⟩
      exact ⟨records, ⟨path, text, named, content, read⟩, rfl⟩

end CredentialSettings
end SignedGateway
