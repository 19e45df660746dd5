import SignedGateway.Credential.Service
import SignedGateway.Proofs.Uri.Below
import SignedGateway.Proofs.Uri.Form

namespace SignedGateway
namespace CredentialService

/-!
# Where a record is asked for

A record is asked for at an address that is made from the endpoint of the service, the access
key as a segment and the token as a parameter.  A client of the web does not send the address as
it is made: it resolves segments of dots, and an escaped dot counts as one.  So the lookup stays
below the endpoint and tells keys and tokens apart, except for the two keys that are dots.
-/

/-- The endpoint is a web address without a query or a fragment; `base` is the address of what
lies below it. -/
structure Below (service : CredentialService) (base : Wire.Address) : Prop where
  read : Wire.parse? (service.endpoint ++ "/") = some base
  unasked : '?' ∉ service.endpoint.toList
  unfragmented : '#' ∉ service.endpoint.toList

/-- An access key as it is written in an address. -/
def codedKey (accessKey : String) : String :=
  Uri.Percent.encodeWith Uri.Percent.isAlphanumeric accessKey

/-- A token as it is written in an address. -/
def tokenQuery (token : String) : String :=
  "sessionToken" ++ "=" ++ Uri.Form.encode token

theorem plain_isAlphanumeric : Uri.Percent.Plain Uri.Percent.isAlphanumeric :=
  Uri.Percent.forall_byte (by decide +kernel)

theorem decode_codedKey (accessKey : String) : Uri.Percent.decode (codedKey accessKey) = accessKey :=
  Uri.Percent.decode_encodeWith plain_isAlphanumeric accessKey

theorem names_codedKey_iff {accessKey : String} :
    Wire.Names (codedKey accessKey) ↔ accessKey ≠ "." ∧ accessKey ≠ ".." :=
  Wire.names_encodeWith_iff plain_isAlphanumeric

theorem kept_of_mem_codedKey {accessKey : String} :
    ∀ c ∈ (codedKey accessKey).toList, Wire.keptInPath c = true :=
  fun _ member => Uri.Percent.holds_of_mem_encodeWith Wire.keptInPath (by decide +kernel) member

theorem slash_not_mem_codedKey (accessKey : String) : '/' ∉ (codedKey accessKey).toList := by
  intro member
  have other := Uri.Percent.holds_of_mem_encodeWith (· != '/') (by decide +kernel) member
  cases other

theorem kept_of_mem_tokenQuery {token : String} :
    ∀ c ∈ (tokenQuery token).toList, Wire.keptInQuery c = true := by
  intro c member
  rw [tokenQuery, String.toList_append, List.mem_append] at member
  rcases member with inName | inValue
  · have every : ("sessionToken" ++ "=").toList.all Wire.keptInQuery = true := by
      decide
    exact List.all_eq_true.mp every c inName
  · exact Uri.Form.holds_of_mem_encode Wire.keptInQuery (by decide +kernel) inValue

theorem parsePairs_tokenQuery (token : String) :
    Uri.Form.parsePairs (Utf8.bytesOf (tokenQuery token)) = [("sessionToken", token)] :=
  Uri.Form.parsePairs_pair (by decide) (by decide) (by decide +kernel) token

theorem lookupUrl_eq (service : CredentialService) (accessKey : String) (token : Option String) :
    service.lookupUrl accessKey token =
      service.endpoint ++ String.ofList
        ('/' :: (codedKey accessKey).toList ++ Wire.queryPart (token.map tokenQuery)) := by
  apply String.toList_injective
  cases token <;> simp [lookupUrl, codedKey, tokenQuery, Wire.queryPart]

/-- The address of a lookup is that of the endpoint with the coded key behind it, as far as it
names something. -/
theorem exists_lookup_address {service : CredentialService} {base : Wire.Address}
    (below : service.Below base) :
    ∃ reached : List String, base.segments = reached.reverse ++ [""] ∧
      ∀ accessKey token, Wire.parse? (service.lookupUrl accessKey token) =
        some { base with
          segments := Wire.resolveFrom reached [codedKey accessKey]
          query := token.map tokenQuery } := by
  rcases Wire.parse?_below below.read below.unasked below.unfragmented with ⟨reached, ends, parsed⟩
  refine ⟨reached, ends, fun accessKey token => ?_⟩
  rw [lookupUrl_eq]
  refine parsed _ _ kept_of_mem_codedKey (slash_not_mem_codedKey accessKey) ?_
  intro text asked
  rcases Option.map_eq_some_iff.mp asked with ⟨token, _, rfl⟩
  exact kept_of_mem_tokenQuery

/-- A segment behind what is left of the endpoint is the key exactly if the key is not of dots. -/
theorem exists_segment_iff {reached : List String} {accessKey : String} (filled : accessKey ≠ "") :
    (∃ segment, Wire.resolveFrom reached [codedKey accessKey] = reached.reverse ++ [segment] ∧
        Uri.Percent.decode segment = accessKey) ↔ accessKey ≠ "." ∧ accessKey ≠ ".." := by
  rw [← names_codedKey_iff]
  constructor
  · rintro ⟨segment, ends, read⟩
    by_contra dots
    have last := Wire.getLast?_resolveFrom_of_dots reached dots
    rw [ends, List.getLast?_concat, Option.some.injEq] at last
    rw [last] at read
    exact filled (read.symm.trans (by decide +kernel))
  · intro names
    exact ⟨codedKey accessKey, Wire.resolveFrom_singleton_of_names reached names,
      decode_codedKey accessKey⟩

theorem fetch_eq {Outside : Type} {service : CredentialService}
    (transport : Http.Transport Outside) {accessKey : String} {token : Option String}
    {address : Wire.Address} {fields : Http.Fields}
    (read : Wire.parse? (service.lookupUrl accessKey token) = some address)
    (headers : Http.fieldsOfPairs service.headers = some fields) :
    service.fetch transport accessKey token = (do
      let exchange ← Attempt.act (transport ⟨"GET", address, fields, []⟩)
      Attempt.ofExcept (interpret exchange)) := by
  rw [fetch, Http.Transport.send, read, headers]

/-- The parameters of a lookup are its token. -/
theorem parsePairs_query (token : Option String) :
    (token.map tokenQuery).map (fun text => Uri.Form.parsePairs (Utf8.bytesOf text)) =
      token.map fun token => [("sessionToken", token)] := by
  cases token with
  | none => rfl
  | some token => rw [Option.map_some, Option.map_some, Option.map_some, parsePairs_tokenQuery]

theorem tokenQuery_injective : Function.Injective tokenQuery := by
  intro left right same
  have pairs := parsePairs_tokenQuery left
  rw [same, parsePairs_tokenQuery] at pairs
  simpa using pairs.symm

/-- A lookup goes to the endpoint's host, with the token as its only parameter if there is one,
and to a segment below the endpoint that is read as the access key exactly if the key is neither
of the segments of dots.  Other keys and tokens are told apart by their addresses. -/
theorem lookup_below {service : CredentialService} {base : Wire.Address}
    (below : service.Below base) :
    (∀ accessKey token, accessKey ≠ "" → ∃ address,
      Wire.parse? (service.lookupUrl accessKey token) = some address ∧
        (∀ {Outside : Type} (transport : Http.Transport Outside) (fields : Http.Fields),
          Http.fieldsOfPairs service.headers = some fields →
          service.fetch transport accessKey token = (do
            let exchange ← Attempt.act (transport ⟨"GET", address, fields, []⟩)
            Attempt.ofExcept (interpret exchange))) ∧
        address.scheme = base.scheme ∧ address.host = base.host ∧
        address.portNumber = base.portNumber ∧
        ((∃ segment, address.segments = base.segments.dropLast ++ [segment] ∧
          Uri.Percent.decode segment = accessKey) ↔ accessKey ≠ "." ∧ accessKey ≠ "..") ∧
        address.query.map (fun text => Uri.Form.parsePairs (Utf8.bytesOf text)) =
          token.map fun token => [("sessionToken", token)]) ∧
    ∀ accessKey token otherKey otherToken,
      accessKey ≠ "." ∧ accessKey ≠ ".." → otherKey ≠ "." ∧ otherKey ≠ ".." →
      Wire.parse? (service.lookupUrl accessKey token) =
        Wire.parse? (service.lookupUrl otherKey otherToken) →
      accessKey = otherKey ∧ token = otherToken := by
  rcases exists_lookup_address below with ⟨reached, ends, parsed⟩
  constructor
  · intro accessKey token filled
    refine ⟨_, parsed accessKey token, fun transport fields headers =>
      fetch_eq transport (parsed accessKey token) headers, rfl, rfl, rfl, ?_, ?_⟩
    · dsimp only
      rw [ends, List.dropLast_concat]
      exact exists_segment_iff filled
    · exact parsePairs_query token
  · intro accessKey token otherKey otherToken undotted otherUndotted same
    rw [parsed, parsed, Option.some.injEq, Wire.Address.mk.injEq] at same
    rcases same with ⟨_, _, _, segments, query⟩
    rw [Wire.resolveFrom_singleton_of_names reached (names_codedKey_iff.mpr undotted),
      Wire.resolveFrom_singleton_of_names reached (names_codedKey_iff.mpr otherUndotted)] at segments
    have coded := List.singleton_inj.mp (List.append_cancel_left segments)
    have keys := congrArg Uri.Percent.decode coded
    rw [decode_codedKey, decode_codedKey] at keys
    exact ⟨keys, Option.map_injective tokenQuery_injective query⟩

/-- The service that keeps its records under `/credentials`. -/
def recordService : CredentialService :=
  ⟨"http://creds.test/credentials", [], false⟩

theorem below_recordService :
    recordService.Below ⟨"http", "creds.test", none, ["credentials", ""], none⟩ :=
  ⟨by decide +kernel, by decide, by decide⟩

/-- A key with a slash and a token with marks of queries are found again in the address. -/
theorem lookup_below_of_marks :
    recordService.Below ⟨"http", "creds.test", none, ["credentials", ""], none⟩ ∧
      ∃ address, Wire.parse? (recordService.lookupUrl "../a" (some "x&y=z")) = some address ∧
        (∃ segment, address.segments = ["credentials"] ++ [segment] ∧
          Uri.Percent.decode segment = "../a") ∧
        address.query.map (fun text => Uri.Form.parsePairs (Utf8.bytesOf text)) =
          some [("sessionToken", "x&y=z")] := by
  rcases (lookup_below below_recordService).1 "../a" (some "x&y=z") (by decide) with
    ⟨address, read, _, _, _, _, named, asked⟩
  exact ⟨below_recordService, address, read, named.mpr (by decide), asked⟩

/-- The key of two dots is asked for above the endpoint, and below the root of a host it shares
its address with the key of one dot. -/
theorem lookup_above_of_dots :
    Wire.parse? (recordService.lookupUrl ".." none) =
        some ⟨"http", "creds.test", none, [""], none⟩ ∧
      (∀ segment : String, ([""] : List String) ≠ ["credentials"] ++ [segment]) ∧
      Wire.parse? (CredentialService.lookupUrl ⟨"http://creds.test", [], false⟩ "." none) =
        Wire.parse? (CredentialService.lookupUrl ⟨"http://creds.test", [], false⟩ ".." none) ∧
      "." ≠ ".." :=
  ⟨by decide +kernel, fun _ => by simp, by decide +kernel, by decide⟩

end CredentialService
end SignedGateway
