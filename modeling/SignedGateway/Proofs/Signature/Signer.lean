import SignedGateway.Proofs.Calendar.Stamp
import SignedGateway.Proofs.MultiMap
import SignedGateway.Signature.Signer

namespace SignedGateway
namespace Signature

/-!
# What a signature is made of

A request that is signed has a date within the limit of the clock, and its header
names the credential, the day, the names that were signed and the signature.  The
signature is over one text, which depends on the headers only through the values
of the names that are signed.
-/

/-! ## The day of a scope -/

theorem mem_of_takeBytes {size : Nat} {text taken : List Char}
    (took : takeBytes size text = some taken) {c : Char} (member : c ∈ taken) : c ∈ text := by
  fun_induction takeBytes size text generalizing taken with
  | case1 =>
      cases took
      exact absurd member List.not_mem_nil
  | case2 => cases took
  | case3 size first rest fits inductionHypothesis =>
      rcases Option.map_eq_some_iff.mp took with ⟨later, tookLater, rfl⟩
      rcases List.mem_cons.mp member with isFirst | inLater
      · exact isFirst ▸ List.mem_cons_self
      · exact List.mem_cons_of_mem first (inductionHypothesis tookLater inLater)
  | case4 => cases took

/-- Of a text that begins with characters of one byte, as many bytes are these characters. -/
theorem takeBytes_append {front : List Char} (single : ∀ c ∈ front, c.utf8Size = 1)
    (rest : List Char) : takeBytes front.length (front ++ rest) = some front := by
  induction front with
  | nil => rw [List.length_nil, takeBytes]
  | cons c front inductionHypothesis =>
      have size := single c List.mem_cons_self
      have later := inductionHypothesis fun other member => single other (List.mem_cons_of_mem c member)
      rw [List.length_cons, List.cons_append, takeBytes, size, if_pos (Nat.le_add_left 1 _),
        Nat.add_sub_cancel, later]
      rfl

/-- A date that begins with eight characters of one byte has these for its day. -/
theorem scopeDate_append {day : String} (length : day.toList.length = 8)
    (single : (day.toList.all fun c => decide (c.utf8Size = 1)) = true) (rest : String) :
    scopeDate (day ++ rest) = .ok day := by
  have begun := takeBytes_append
    (fun c member => of_decide_eq_true (List.all_eq_true.mp single c member)) rest.toList
  rw [length] at begun
  rw [scopeDate, String.toList_append, begun]
  exact congrArg Except.ok String.ofList_toList

theorem parseStamp?_of_checkDrift {clock : Clock} {date : String}
    (checked : clock.checkDrift date = .ok ()) : ∃ moment, Calendar.parseStamp? date = some moment := by
  unfold Clock.checkDrift Clock.readDate at checked
  cases read : Calendar.parseStamp? date with
  | none =>
      rw [read] at checked
      cases checked
  | some moment => exact ⟨moment, rfl⟩

/-- The day of a date that the clock accepts is made of characters of stamps. -/
theorem not_mem_scopeDate {clock : Clock} {date day : String}
    (checked : clock.checkDrift date = .ok ()) (begun : scopeDate date = .ok day) {c : Char}
    (other : Calendar.isStampChar c = false) : c ∉ day.toList := by
  rcases parseStamp?_of_checkDrift checked with ⟨moment, read⟩
  unfold scopeDate at begun
  cases took : takeBytes 8 date.toList with
  | none =>
      rw [took] at begun
      cases begun
  | some taken =>
      rw [took] at begun
      cases begun
      rw [String.toList_ofList]
      intro member
      exact Calendar.not_mem_of_parseStamp? other read (mem_of_takeBytes took member)

/-! ## Names and values -/

theorem mem_namesToSign {headers : MultiMap} {name : String} :
    name ∈ namesToSign headers ↔ name ∈ headers.keys ∧ name ∉ ignoredHeaders := by
  rw [namesToSign, List.mem_filter, Bool.not_eq_true', ← Bool.not_eq_true, List.contains_iff_mem]

/-- No header that belongs to the protocol is passed over. -/
theorem not_mem_ignoredHeaders {name : String} (own : Text.startsWith "x-amz-" name = true) :
    name ∉ ignoredHeaders := by
  intro member
  have others : ∀ ignored ∈ ignoredHeaders, Text.startsWith "x-amz-" ignored = false := by
    decide
  rw [others name member] at own
  cases own

/-- The headers that are signed, with their values. -/
def pairsToSign (headers : MultiMap) : List (String × String) :=
  headers.pairs.filter fun pair => (namesToSign headers).contains pair.1

/-- A name that is signed is signed with all its values. -/
theorem lookup_pairsToSign {headers : MultiMap} (tidy : headers.Tidy)
    (insensitive : headers.caseSensitive = false) {name : String}
    (signed : name ∈ namesToSign headers) :
    (MultiMap.ofPairs false (pairsToSign headers)).entries.lookup name =
      headers.entries.lookup name := by
  have kept := tidy.lookup_filter (fun name => (namesToSign headers).contains name) name
  rw [insensitive, if_pos (List.contains_iff_mem.mpr signed)] at kept
  exact kept

/-! ## The text and its signature -/

/-- The text that is signed for a request with given parameters. -/
def Signable.textWith (request : Signable) (parameters : List (String × String)) : String :=
  Canonical.request request.method request.path parameters (pairsToSign request.headers)
    (namesToSign request.headers) ((request.headers.getFirst? payloadHeader).getD emptyPayloadHash)

/-- The signature for a request with given parameters. -/
def Signable.signatureWith (request : Signable) (suite : Digest.Suite) (secret : String)
    (scope : KeyScope) (parameters : List (String × String)) : String :=
  ofCanonical suite secret request.date scope (request.textWith parameters)

/-- What has been signed was signed with the selected credential at a time that the
clock accepts. -/
theorem sign_eq_ok {suite : Digest.Suite} {clock : Clock} {context : SigningContext}
    {selector : Selector} {credential : Credential} {request : Signable} {signed : Signed}
    (selected : context.record.select selector = .ok credential)
    (made : sign suite clock context selector request = .ok signed) :
    clock.checkDrift request.date = .ok () ∧
      ∃ day, scopeDate request.date = .ok day ∧
        signed.authorization =
          Authorization.renderHeader credential.accessKey
            (Authorization.scopeText day request.region context.service.name)
            (Canonical.signedHeaders (namesToSign request.headers))
            (request.signatureWith suite credential.secretKey
              ⟨day, request.region, context.service.name⟩ request.query.pairs) := by
  unfold sign at made
  cases checked : clock.checkDrift request.date with
  | error fault =>
      rw [checked] at made
      cases made
  | ok =>
      rw [checked, selected] at made
      cases begun : scopeDate request.date with
      | error fault =>
          rw [begun] at made
          cases made
      | ok day =>
          rw [begun] at made
          cases made
          exact ⟨rfl, day, rfl, rfl⟩

/-- Conversely, such a request is signed. -/
theorem sign_of_checkDrift {suite : Digest.Suite} {clock : Clock} {context : SigningContext}
    {selector : Selector} {credential : Credential} {request : Signable} {day : String}
    (selected : context.record.select selector = .ok credential)
    (checked : clock.checkDrift request.date = .ok ()) (begun : scopeDate request.date = .ok day) :
    sign suite clock context selector request =
      .ok {
        authorization :=
          Authorization.renderHeader credential.accessKey
            (Authorization.scopeText day request.region context.service.name)
            (Canonical.signedHeaders (namesToSign request.headers))
            (request.signatureWith suite credential.secretKey
              ⟨day, request.region, context.service.name⟩ request.query.pairs)
        signature :=
          request.signatureWith suite credential.secretKey
            ⟨day, request.region, context.service.name⟩ request.query.pairs
        signedHeaders := Text.sort (namesToSign request.headers) } := by
  unfold sign
  rw [checked, selected, begun]
  rfl

/-- A record without a credential for the store signs nothing for the store. -/
theorem exists_error_of_sign {context : SigningContext}
    (remoteless : context.record.remote = none) (suite : Digest.Suite) (clock : Clock)
    (request : Signable) : ∃ fault, sign suite clock context .remote request = .error fault := by
  have unselected : ∃ error, context.record.select .remote = .error error := by
    rw [CredentialRecord.select, CredentialRecord.remoteCredential, remoteless]
    exact ⟨_, rfl⟩
  rcases unselected with ⟨error, unselected⟩
  unfold sign
  rw [unselected]
  cases clock.checkDrift request.date with
  | error fault => exact ⟨fault, rfl⟩
  | ok => exact ⟨_, rfl⟩

end Signature
end SignedGateway
