import SignedGateway.Proofs.Signature.Signer
import SignedGateway.Proofs.Signature.Verifier
import SignedGateway.Proofs.Text.Order

namespace SignedGateway
namespace Signature

/-!
# What was signed, as a verifier finds it

The signer takes every header it is given but for a few, and the verifier takes the
headers that are listed with the signature.  Both find the same text when the verifier is
shown the same values under every name that was signed and no protocol header besides.
Headers that were not signed may come and go in between.
-/

/-- A verifier finds under these headers what was signed of others. -/
structure Shows (shown headers : MultiMap) : Prop where
  values : ∀ name ∈ namesToSign headers, shown.get name = headers.get name
  owned : ∀ name ∈ shown.keys, Text.startsWith protocolHead name = true → name ∈ headers.keys

theorem Shows.refl (headers : MultiMap) : Shows headers headers :=
  ⟨fun _ _ => rfl, fun _ stored _ => stored⟩

/-- Every name that has a value is taken with its values. -/
theorem signedPairs_eq {headers : MultiMap} {names : List String}
    (found : ∀ name ∈ names, headers.get name ≠ []) :
    signedPairs headers names = .ok (valuesOf headers names) := by
  induction names with
  | nil => rfl
  | cons name rest inductionHypothesis =>
      have later := inductionHypothesis fun other member =>
        found other (List.mem_cons_of_mem name member)
      have first := found name List.mem_cons_self
      rw [signedPairs]
      split
      · next empty => exact absurd empty first
      · rw [later, valuesOf, valuesOf, List.flatMap_cons]
        rfl

/-- Header texts agree if the values under the signed names do. -/
theorem headers_sort_eq {pairs otherPairs : List (String × String)} {names : List String}
    (same : ∀ name ∈ names, (MultiMap.ofPairs false pairs).entries.lookup name =
      (MultiMap.ofPairs false otherPairs).entries.lookup name) :
    Canonical.headers pairs (Text.sort names) = Canonical.headers otherPairs names := by
  rw [Canonical.headers, Canonical.headers, Text.sort_sort]
  congr 1
  apply List.filterMap_congr
  intro name member
  rw [Canonical.headerLine, Canonical.headerLine, same name (Text.mem_sort.mp member)]

theorem signedHeaders_sort (names : List String) :
    Canonical.signedHeaders (Text.sort names) = Canonical.signedHeaders names := by
  rw [Canonical.signedHeaders, Canonical.signedHeaders, Text.sort_sort]

section Tidy

variable {headers : MultiMap} (tidy : headers.Tidy) (insensitive : headers.caseSensitive = false)

include tidy

theorem nodup_sort_namesToSign : (Text.sort (namesToSign headers)).Nodup :=
  (Text.sort_perm _).nodup_iff.mpr (tidy.distinct.filter _)

include insensitive

theorem lower_of_signed {name : String} (signed : name ∈ namesToSign headers) :
    Text.lower name = name := by
  have normalized := tidy.normalized name (mem_namesToSign.mp signed).1
  rwa [insensitive] at normalized

omit tidy in
theorem host_mem_namesToSign (hosted : headers.contains "host" = true) :
    "host" ∈ namesToSign headers := by
  have normal : MultiMap.normalize headers.caseSensitive "host" = "host" := by
    rw [insensitive]
    decide
  rw [mem_namesToSign, MultiMap.mem_keys_iff normal]
  exact ⟨Option.isSome_iff_ne_none.mp hosted, by decide⟩

end Tidy

namespace Shows

variable {shown headers : MultiMap} (shows : Shows shown headers)

include shows

/-- Host and protocol headers are signed, so what is shown is not refused for them. -/
theorem checkSignedHeaders_eq (insensitive : headers.caseSensitive = false)
    (hosted : headers.contains "host" = true) :
    checkSignedHeaders (Text.sort (namesToSign headers)) shown = .ok () := by
  have hostSigned : (Text.sort (namesToSign headers)).contains "host" = true :=
    List.contains_iff_mem.mpr (Text.mem_sort.mpr (host_mem_namesToSign insensitive hosted))
  have covered : shown.keys.find? (fun name =>
      Text.startsWith protocolHead name && !(Text.sort (namesToSign headers)).contains name) =
        none := by
    rw [List.find?_eq_none]
    intro name stored refused
    rw [Bool.and_eq_true, Bool.not_eq_true', ← Bool.not_eq_true, List.contains_iff_mem,
      Text.mem_sort] at refused
    rcases refused with ⟨own, unsigned⟩
    exact unsigned (mem_namesToSign.mpr ⟨shows.owned name stored own, not_mem_ignoredHeaders own⟩)
  rw [checkSignedHeaders, hostSigned, covered]
  rfl

variable (tidy : headers.Tidy)

include tidy

/-- A signed name has some value where it is shown. -/
theorem get_ne_nil {name : String} (signed : name ∈ namesToSign headers) : shown.get name ≠ [] := by
  rw [shows.values name signed]
  exact tidy.get_ne_nil (mem_namesToSign.mp signed).1

theorem signedPairs_sort :
    signedPairs shown (Text.sort (namesToSign headers)) =
      .ok (valuesOf shown (Text.sort (namesToSign headers))) :=
  signedPairs_eq fun _ member => shows.get_ne_nil tidy (Text.mem_sort.mp member)

variable (insensitive : headers.caseSensitive = false)

include insensitive

/-- Under a signed name the verifier finds what was signed. -/
theorem lookup_valuesOf {name : String} (signed : name ∈ namesToSign headers) :
    (MultiMap.ofPairs false (valuesOf shown (Text.sort (namesToSign headers)))).entries.lookup
        name =
      (MultiMap.ofPairs false (pairsToSign headers)).entries.lookup name := by
  have normal : ∀ other ∈ Text.sort (namesToSign headers),
      MultiMap.normalize false other = other :=
    fun other member => lower_of_signed tidy insensitive (Text.mem_sort.mp member)
  have values := MultiMap.valuesUnder_flatMap (nodup_sort_namesToSign tidy) normal shown.get
    (Text.mem_sort.mpr signed)
  have filled := shows.get_ne_nil tidy signed
  have held : shown.get name = (headers.entries.lookup name).getD [] := by
    rw [shows.values name signed, MultiMap.get_eq,
      tidy.normalized name (mem_namesToSign.mp signed).1]
  rw [MultiMap.lookup_ofPairs, valuesOf, values, if_neg filled,
    lookup_pairsToSign tidy insensitive signed]
  rw [held] at filled ⊢
  cases found : headers.entries.lookup name with
  | none =>
      rw [found] at filled
      exact absurd rfl filled
  | some stored => rfl

theorem headers_eq :
    Canonical.headers (valuesOf shown (Text.sort (namesToSign headers)))
        (Text.sort (namesToSign headers)) =
      Canonical.headers (pairsToSign headers) (namesToSign headers) :=
  headers_sort_eq fun _ signed => shows.lookup_valuesOf tidy insensitive signed

omit tidy insensitive in
/-- The digest that a client declares is shown exactly if it was signed. -/
theorem getFirst?_payloadHeader :
    shown.getFirst? payloadHeader = headers.getFirst? payloadHeader := by
  have lower : Text.lower payloadHeader = payloadHeader := by
    decide
  have own : Text.startsWith protocolHead payloadHeader = true := by
    decide
  by_cases stored : payloadHeader ∈ headers.keys
  · have signed := mem_namesToSign.mpr ⟨stored, not_mem_ignoredHeaders own⟩
    rw [MultiMap.getFirst?, MultiMap.getFirst?, shows.values _ signed]
  · have absent (map : MultiMap) (none : payloadHeader ∉ map.keys) : map.get payloadHeader = [] := by
      by_contra filled
      exact none (MultiMap.mem_keys_of_get (MultiMap.normalize_of_lower _ lower) filled)
    have hidden : payloadHeader ∉ shown.keys := fun member => stored (shows.owned _ member own)
    rw [MultiMap.getFirst?, MultiMap.getFirst?, absent headers stored, absent shown hidden]

/-- A header may be added that is neither signed nor one of the protocol. -/
theorem put {name : String} (lower : Text.lower name = name)
    (unsigned : name ∉ namesToSign headers) (foreign : Text.startsWith protocolHead name = false)
    (value : String) : Shows (shown.put name value) headers := by
  constructor
  · intro other signed
    have different : other ≠ name := by
      rintro rfl
      exact unsigned signed
    rw [MultiMap.get_put_of_lower shown lower (lower_of_signed tidy insensitive signed),
      if_neg different, shows.values other signed]
  · intro other stored own
    rcases MultiMap.mem_keys_put stored with rfl | old
    · rw [MultiMap.normalize_of_lower shown.caseSensitive lower, foreign] at own
      cases own
    · exact shows.owned other old own

end Shows

/-! ## Verifying -/

/-- Who signed a request and how, as its header says it. -/
def Signable.authorization (request : Signable) (suite : Digest.Suite) (credential : Credential)
    (scope : KeyScope) : Authorization :=
  { accessKey := credential.accessKey
    date := scope.date
    region := scope.region
    service := scope.service
    signedHeaders := Text.sort (namesToSign request.headers)
    signature := request.signatureWith suite credential.secretKey scope request.query.pairs
    securityToken := request.headers.getFirst? "x-amz-security-token"
    expires := none }

/-- A request that says again what was signed.  Its path may be spelled otherwise, its
parameters may be others, and the token travels apart from the signature. -/
structure Restates (request : Signable) (suite : Digest.Suite) (credential : Credential)
    (scope : KeyScope) (again : StoreRequest) : Prop where
  method : again.method = request.method
  uri : Canonical.uri again.rawPath = Canonical.uri request.path
  date : again.date = request.date
  headers : Shows again.headers request.headers
  digest : (again.headers.getFirst? payloadHeader).getD (payloadHash suite again.body) =
    (request.headers.getFirst? payloadHeader).getD emptyPayloadHash
  authorization : ∃ token, again.authorization =
    { request.authorization suite credential scope with securityToken := token }

section Verify

variable {request : Signable} {suite : Digest.Suite} {clock : Clock} {credential : Credential}
  {scope : KeyScope} {again : StoreRequest} {record : CredentialRecord}

theorem verify_eq {parameters headerPairs : List (String × String)} {hash : String}
    (parts : coveredParts suite clock again = .ok (parameters, hash))
    (covered : coveredHeaders again = .ok headerPairs) :
    verify suite clock record again =
      if again.authorization.signature =
          expected suite record.emulated.secretKey again parameters headerPairs hash then .ok ()
      else .error (.failed .signatureDoesNotMatch) := by
  rw [verify, parts, covered]
  rfl

theorem coveredParts_of_header (unlimited : again.authorization.expires = none)
    (checked : clock.checkDrift again.date = .ok ()) :
    coveredParts suite clock again =
      .ok (again.query.pairs,
        (again.headers.getFirst? payloadHeader).getD (payloadHash suite again.body)) := by
  rw [coveredParts, unlimited]
  dsimp only
  rw [checked]

namespace Restates

variable (restated : Restates request suite credential scope again) (tidy : request.headers.Tidy)
  (insensitive : request.headers.caseSensitive = false)

include restated tidy insensitive

theorem coveredHeaders_eq (hosted : request.headers.contains "host" = true) :
    coveredHeaders again =
      .ok (valuesOf again.headers (Text.sort (namesToSign request.headers))) := by
  rcases restated.authorization with ⟨token, authorized⟩
  rw [coveredHeaders, authorized]
  dsimp only [Signable.authorization]
  rw [restated.headers.checkSignedHeaders_eq insensitive hosted]
  exact restated.headers.signedPairs_sort tidy

/-- The expected signature is the one for the parameters that are found. -/
theorem expected_eq (parameters : List (String × String)) :
    expected suite credential.secretKey again parameters
        (valuesOf again.headers (Text.sort (namesToSign request.headers)))
        ((again.headers.getFirst? payloadHeader).getD (payloadHash suite again.body)) =
      request.signatureWith suite credential.secretKey scope parameters := by
  rcases restated.authorization with ⟨token, authorized⟩
  rw [expected, restated.method, restated.date, restated.digest, authorized]
  dsimp only [Signable.authorization]
  rw [Signable.signatureWith, Signable.textWith, Canonical.request, Canonical.request, restated.uri,
    restated.headers.headers_eq tidy insensitive, signedHeaders_sort]

/-- What is said again is verified exactly if its parameters have the signature of those
that were signed. -/
theorem verify_iff (hosted : request.headers.contains "host" = true)
    (checked : clock.checkDrift request.date = .ok ()) (emulated : record.emulated = credential) :
    verify suite clock record again = .ok () ↔
      request.signatureWith suite credential.secretKey scope request.query.pairs =
        request.signatureWith suite credential.secretKey scope again.query.pairs := by
  rcases restated.authorization with ⟨token, authorized⟩
  have unlimited : again.authorization.expires = none := by
    rw [authorized]
    rfl
  have signature : again.authorization.signature =
      request.signatureWith suite credential.secretKey scope request.query.pairs := by
    rw [authorized]
    rfl
  have parts : coveredParts suite clock again = _ :=
    coveredParts_of_header unlimited (restated.date.symm ▸ checked)
  rw [verify_eq parts (restated.coveredHeaders_eq tidy insensitive hosted), emulated,
    restated.expected_eq tidy insensitive, signature]
  split_ifs with same
  · exact ⟨fun _ => same, fun _ => rfl⟩
  · exact ⟨fun passed => (by cases passed), fun agree => absurd agree same⟩

end Restates
end Verify
end Signature
end SignedGateway
