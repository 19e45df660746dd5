import SignedGateway.Proofs.MultiMap.Additions
import SignedGateway.Proofs.Signature.Coverage

namespace SignedGateway
namespace Signature

/-!
# Arrangement plays no part in a signature

A client puts its headers and parameters in some order, spells the names of headers with
capitals or without, and lists the names that it has signed in an order of its own.  The
verifier looks up what is listed and sorts what it writes down, so it finds the same text for
every arrangement.  A name may be listed more than once, a header may have several values and
a parameter may be repeated: only the values of one header keep their order among themselves.
-/

/-- The requests differ at most in how headers, parameters and signed names are arranged. -/
structure Rearranged (left right : StoreRequest) : Prop where
  headers : ∃ fields others, left.headers = MultiMap.ofFields false fields ∧
    right.headers = MultiMap.ofFields false others ∧
    ∀ name, MultiMap.gathered false fields name = MultiMap.gathered false others name
  parameters : left.query.pairs.Perm right.query.pairs
  signedHeaders : left.authorization.signedHeaders.Perm right.authorization.signedHeaders
  authorization : left.authorization =
    { right.authorization with signedHeaders := left.authorization.signedHeaders }
  method : left.method = right.method
  rawPath : left.rawPath = right.rawPath
  date : left.date = right.date
  body : left.body = right.body

/-! ## When a request is verified -/

/-- What the verifier asks of a list of signed names before it looks at the signature. -/
structure Enough (signed : List String) (headers : MultiMap) : Prop where
  host : "host" ∈ signed
  owned : ∀ name ∈ headers.keys, Text.startsWith protocolHead name = true → name ∈ signed
  filled : ∀ name ∈ signed, headers.get name ≠ []

theorem checkSignedHeaders_eq_ok_iff {signed : List String} {headers : MultiMap} :
    checkSignedHeaders signed headers = .ok () ↔ "host" ∈ signed ∧
      ∀ name ∈ headers.keys, Text.startsWith protocolHead name = true → name ∈ signed := by
  refine ⟨checkSignedHeaders_eq_ok, ?_⟩
  rintro ⟨host, owned⟩
  have none : headers.keys.find? (fun name =>
      Text.startsWith protocolHead name && !signed.contains name) = none := by
    rw [List.find?_eq_none]
    intro name stored refused
    rw [Bool.and_eq_true, Bool.not_eq_true', ← Bool.not_eq_true, List.contains_iff_mem] at refused
    exact refused.2 (owned name stored refused.1)
  rw [checkSignedHeaders, List.contains_iff_mem.mpr host, none]
  rfl

theorem get_ne_nil_of_signedPairs {headers : MultiMap} {names : List String}
    {pairs : List (String × String)} (covered : signedPairs headers names = .ok pairs) :
    ∀ name ∈ names, headers.get name ≠ [] := by
  induction names generalizing pairs with
  | nil => exact fun _ none => absurd none List.not_mem_nil
  | cons first rest inductionHypothesis =>
      rw [signedPairs] at covered
      split at covered
      · cases covered
      · next filled =>
          rcases Result.bind_eq_ok_iff.mp covered with ⟨later, restCovered, _⟩
          intro name member
          rcases List.mem_cons.mp member with rfl | inRest
          · exact filled
          · exact inductionHypothesis restCovered name inRest

theorem coveredHeaders_eq_ok_iff {request : StoreRequest} {pairs : List (String × String)} :
    coveredHeaders request = .ok pairs ↔
      Enough request.authorization.signedHeaders request.headers ∧
        pairs = valuesOf request.headers request.authorization.signedHeaders := by
  constructor
  · intro covered
    rcases Result.bind_eq_ok_iff.mp covered with ⟨_, checked, taken⟩
    rcases checkSignedHeaders_eq_ok checked with ⟨host, owned⟩
    exact ⟨⟨host, owned, get_ne_nil_of_signedPairs taken⟩, signedPairs_eq_ok taken⟩
  · rintro ⟨enough, rfl⟩
    have checked := checkSignedHeaders_eq_ok_iff.mpr ⟨enough.host, enough.owned⟩
    exact Result.bind_eq_ok_iff.mpr ⟨(), checked, signedPairs_eq enough.filled⟩

theorem verify_eq_ok_iff {suite : Digest.Suite} {clock : Clock} {record : CredentialRecord}
    {request : StoreRequest} :
    verify suite clock record request = .ok () ↔
      Enough request.authorization.signedHeaders request.headers ∧
        ∃ parameters hash,
          coveredParts suite clock request = .ok (parameters, hash) ∧
          request.authorization.signature =
            expected suite record.emulated.secretKey request parameters
              (valuesOf request.headers request.authorization.signedHeaders) hash := by
  constructor
  · intro verified
    rcases Result.bind_eq_ok_iff.mp verified with ⟨_, _, later⟩
    rcases Result.bind_eq_ok_iff.mp later with ⟨pairs, covered, _⟩
    have enough := (coveredHeaders_eq_ok_iff.mp (Result.mapError_eq_ok_iff.mp covered)).1
    exact ⟨enough, (verify_eq_ok verified).2.2⟩
  · rintro ⟨enough, parameters, hash, parts, same⟩
    rw [verify_eq parts (coveredHeaders_eq_ok_iff.mpr ⟨enough, rfl⟩), if_pos same]

/-! ## The text of a signature -/

theorem query_eq_of_perm {left right : List (String × String)} (perm : left.Perm right) :
    Canonical.query left = Canonical.query right := by
  unfold Canonical.query
  rw [Text.sortPairs_eq_of_perm (perm.map Canonical.encodedPair)]

theorem signedHeaders_eq_of_perm {left right : List String} (perm : left.Perm right) :
    Canonical.signedHeaders left = Canonical.signedHeaders right := by
  unfold Canonical.signedHeaders
  rw [Text.sort_eq_of_perm perm]

/-- A name that is listed several times has its values as often, in whichever letters. -/
theorem valuesUnder_valuesOf {headers : MultiMap} (insensitive : headers.caseSensitive = false)
    (names : List String) (key : String) :
    MultiMap.valuesUnder false (valuesOf headers names) key =
      (List.replicate (names.countP fun name => Text.lower name == key)
        (headers.get key)).flatten := by
  induction names with
  | nil => rfl
  | cons name rest inductionHypothesis =>
      have split : valuesOf headers (name :: rest) =
          (headers.get name).map (fun value => (name, value)) ++ valuesOf headers rest :=
        List.flatMap_cons
      rw [split, MultiMap.valuesUnder_append, inductionHypothesis]
      by_cases same : Text.lower name = key
      · have held : headers.get name = headers.get key := by
          rw [MultiMap.get_eq, MultiMap.get_eq, insensitive, ← same]
          exact congrArg (fun key => (headers.entries.lookup key).getD [])
            (Text.lower_lower name).symm
        have own : MultiMap.valuesUnder false
            ((headers.get name).map fun value => (name, value)) key = headers.get key := by
          rw [MultiMap.valuesUnder, List.filter_eq_self.mpr, List.map_map, held]
          · exact List.map_id _
          · intro pair member
            rcases List.mem_map.mp member with ⟨value, _, rfl⟩
            exact beq_iff_eq.mpr same
        rw [own, List.countP_cons, if_pos (beq_iff_eq.mpr same), List.replicate_succ,
          List.flatten_cons]
      · have none : MultiMap.valuesUnder false
            ((headers.get name).map fun value => (name, value)) key = [] := by
          apply MultiMap.valuesUnder_eq_nil
          intro pair member
          rcases List.mem_map.mp member with ⟨value, _, rfl⟩
          exact same
        rw [none, List.nil_append, List.countP_cons, if_neg (mt beq_iff_eq.mp same), Nat.add_zero]

theorem headers_eq_of_perm {left right : MultiMap} (leftInsensitive : left.caseSensitive = false)
    (rightInsensitive : right.caseSensitive = false) (same : ∀ name, left.get name = right.get name)
    {names others : List String} (perm : names.Perm others) :
    Canonical.headers (valuesOf left names) names =
      Canonical.headers (valuesOf right others) others := by
  unfold Canonical.headers
  rw [Text.sort_eq_of_perm perm]
  congr 1
  apply List.filterMap_congr
  intro name _
  unfold Canonical.headerLine
  rw [MultiMap.lookup_ofPairs, MultiMap.lookup_ofPairs, valuesUnder_valuesOf leftInsensitive,
    valuesUnder_valuesOf rightInsensitive, same, perm.countP_eq]

/-! ## Two arrangements of one request -/

namespace Rearranged

variable {left right : StoreRequest}

theorem symm (rearranged : Rearranged left right) : Rearranged right left := by
  rcases rearranged.headers with ⟨fields, others, made, remade, same⟩
  refine ⟨⟨others, fields, remade, made, fun name => (same name).symm⟩,
    rearranged.parameters.symm, rearranged.signedHeaders.symm, ?_, rearranged.method.symm,
    rearranged.rawPath.symm, rearranged.date.symm, rearranged.body.symm⟩
  rw [rearranged.authorization]

variable (rearranged : Rearranged left right)

include rearranged

theorem insensitive : left.headers.caseSensitive = false := by
  rcases rearranged.headers with ⟨fields, _, made, _, _⟩
  rw [made, MultiMap.ofFields_caseSensitive]

theorem lookup_eq (name : String) :
    left.headers.entries.lookup name = right.headers.entries.lookup name := by
  rcases rearranged.headers with ⟨fields, others, made, remade, same⟩
  rw [made, remade, MultiMap.lookup_ofFields, MultiMap.lookup_ofFields, same]

theorem get_eq (name : String) : left.headers.get name = right.headers.get name := by
  rw [MultiMap.get_eq, MultiMap.get_eq, rearranged.insensitive, rearranged.symm.insensitive,
    rearranged.lookup_eq]

theorem mem_keys_iff {name : String} : name ∈ left.headers.keys ↔ name ∈ right.headers.keys := by
  apply not_iff_not.mp
  unfold MultiMap.keys
  rw [← MultiMap.lookup_eq_none_iff_not_mem, ← MultiMap.lookup_eq_none_iff_not_mem,
    rearranged.lookup_eq]

theorem enough (listed : Enough left.authorization.signedHeaders left.headers) :
    Enough right.authorization.signedHeaders right.headers where
  host := rearranged.signedHeaders.mem_iff.mp listed.host
  owned name stored own :=
    rearranged.signedHeaders.mem_iff.mp (listed.owned name (rearranged.mem_keys_iff.mpr stored) own)
  filled name signed :=
    rearranged.get_eq name ▸ listed.filled name (rearranged.signedHeaders.mem_iff.mpr signed)

/-- The same check of the date lets the same parameters through, in another order. -/
theorem exists_coveredParts {suite : Digest.Suite} {clock : Clock}
    {parameters : List (String × String)} {hash : String}
    (parts : coveredParts suite clock left = .ok (parameters, hash)) :
    ∃ others, coveredParts suite clock right = .ok (others, hash) ∧ parameters.Perm others := by
  have expires : left.authorization.expires = right.authorization.expires := by
    rw [rearranged.authorization]
  unfold coveredParts at parts ⊢
  rw [expires, rearranged.date, rearranged.body, MultiMap.getFirst?, rearranged.get_eq] at parts
  cases lifetime : right.authorization.expires with
  | none =>
      rw [lifetime] at parts
      dsimp only at parts ⊢
      cases checked : clock.checkDrift right.date with
      | error fault =>
          rw [checked] at parts
          cases parts
      | ok =>
          rw [checked] at parts
          cases parts
          exact ⟨_, rfl, rearranged.parameters⟩
  | some seconds =>
      rw [lifetime] at parts
      dsimp only at parts ⊢
      cases checked : clock.checkLifetime right.date seconds with
      | error halt =>
          rw [checked] at parts
          cases parts
      | ok =>
          rw [checked] at parts
          cases parts
          exact ⟨_, rfl, rearranged.parameters.filter _⟩

/-- One signature is expected of both. -/
theorem expected_eq (suite : Digest.Suite) (secret hash : String)
    {parameters others : List (String × String)} (perm : parameters.Perm others) :
    expected suite secret left parameters
        (valuesOf left.headers left.authorization.signedHeaders) hash =
      expected suite secret right others
        (valuesOf right.headers right.authorization.signedHeaders) hash := by
  have headerText := headers_eq_of_perm rearranged.insensitive rearranged.symm.insensitive
    rearranged.get_eq rearranged.signedHeaders
  have scope : left.authorization.date = right.authorization.date ∧
      left.authorization.region = right.authorization.region ∧
      left.authorization.service = right.authorization.service := by
    rw [rearranged.authorization]
    exact ⟨rfl, rfl, rfl⟩
  unfold expected Canonical.request
  dsimp only
  rw [rearranged.date, scope.1, scope.2.1, scope.2.2, rearranged.method, rearranged.rawPath,
    query_eq_of_perm perm, headerText, signedHeaders_eq_of_perm rearranged.signedHeaders]

theorem verify_of_verify {suite : Digest.Suite} {clock : Clock} {record : CredentialRecord}
    (verified : verify suite clock record left = .ok ()) :
    verify suite clock record right = .ok () := by
  rcases verify_eq_ok_iff.mp verified with ⟨enough, parameters, hash, parts, same⟩
  rcases rearranged.exists_coveredParts parts with ⟨others, otherParts, perm⟩
  refine verify_eq_ok_iff.mpr ⟨rearranged.enough enough, others, hash, otherParts, ?_⟩
  have signature : left.authorization.signature = right.authorization.signature := by
    rw [rearranged.authorization]
  rw [← signature, same]
  exact rearranged.expected_eq suite record.emulated.secretKey hash perm

end Rearranged

/-- A request is verified in every arrangement or in none, be it signed in its header or
presigned. -/
theorem verified_in_any_arrangement {left right : StoreRequest}
    (rearranged : Rearranged left right) (suite : Digest.Suite) (clock : Clock)
    (record : CredentialRecord) :
    verify suite clock record left = .ok () ↔ verify suite clock record right = .ok () :=
  ⟨rearranged.verify_of_verify, rearranged.symm.verify_of_verify⟩

/-! ## A listing in two arrangements -/

/-- A listing, dated at midnight of the first of January 2024. -/
def listing (fields : List (String × List String)) (parameters : List (String × String))
    (signed : List String) (signature : String) (expires : Option Nat) : StoreRequest :=
  { requestId := "id"
    authorization := ⟨"client", "20240101", "r", "s3", signed, signature, none, expires⟩
    date := "20240101T000000Z"
    bucket := "b"
    key := ""
    headers := .ofFields false fields
    query := .ofPairs true parameters
    method := "GET"
    rawPath := "/b"
    rawQuery := none
    body := [] }

/-- A listing with the signature that its own parts have. -/
def signedListing (suite : Digest.Suite) (fields : List (String × List String))
    (parameters : List (String × String)) (signed : List String) (expires : Option Nat) :
    StoreRequest :=
  let hash := if expires.isSome then unsignedPayload else payloadHash suite []
  listing fields parameters signed
    (expected suite "shown" (listing fields parameters signed "" expires)
      (MultiMap.ofPairs true parameters).pairs
      (valuesOf (MultiMap.ofFields false fields) signed) hash) expires

/-- What is signed for its own parts is verified if its names suffice and its date is let
through. -/
theorem verify_signedListing (suite : Digest.Suite) {fields : List (String × List String)}
    {parameters : List (String × String)} {signed : List String} {expires : Option Nat}
    {clock : Clock} (enough : Enough signed (MultiMap.ofFields false fields))
    (undeclared : (MultiMap.ofFields false fields).getFirst? payloadHeader = none)
    (recent : clock.checkDrift "20240101T000000Z" = .ok ())
    (alive : ∀ seconds ∈ expires, clock.checkLifetime "20240101T000000Z" seconds = .ok ())
    (unsealed : ∀ pair ∈ (MultiMap.ofPairs true parameters).pairs,
      pair.1 ≠ Authorization.signatureParameter) :
    verify suite clock ⟨⟨"client", "shown", none⟩, none, none, none⟩
      (signedListing suite fields parameters signed expires) = .ok () := by
  refine verify_eq_ok_iff.mpr ⟨enough, (MultiMap.ofPairs true parameters).pairs,
    if expires.isSome then unsignedPayload else payloadHash suite [], ?_, rfl⟩
  cases expires with
  | none =>
      have declared : (signedListing suite fields parameters signed none).headers.getFirst?
          payloadHeader = none := undeclared
      rw [coveredParts_of_header rfl recent, declared]
      rfl
  | some seconds =>
      have kept : (MultiMap.ofPairs true parameters).pairs.filter
          (fun pair => pair.1 != Authorization.signatureParameter) =
            (MultiMap.ofPairs true parameters).pairs :=
        List.filter_eq_self.mpr fun pair member => bne_iff_ne.mpr (unsealed pair member)
      unfold coveredParts
      dsimp only [signedListing, listing]
      rw [alive seconds rfl, kept]
      rfl

/-- A header of two values, a repeated parameter and a name that is listed twice.  What was
signed is verified, and so it is with the headers turned round and in other letters, and with
parameters and signed names in another order. -/
theorem listing_in_two_arrangements :
    let fields := [("Host", ["gateway"]), ("X-Tag", ["b", " a"]), ("x-amz-meta-none", ["1"])]
    let others := [("X-Amz-Meta-None", ["1"]), ("x-tag", ["b", " a"]), ("HOST", ["gateway"])]
    let parameters := [("prefix", "é"), ("list-type", "2"), ("prefix", "/")]
    let shuffled := [("prefix", "/"), ("prefix", "é"), ("list-type", "2")]
    let signed := ["host", "x-tag", "x-amz-meta-none", "host"]
    let relisted := ["x-amz-meta-none", "host", "host", "x-tag"]
    let verified :=
      verify .sha256 ⟨⟨19723, 300, 0⟩, 900⟩ ⟨⟨"client", "shown", none⟩, none, none, none⟩
    let left := signedListing .sha256 fields parameters signed
    let right := fun expires =>
      listing others shuffled relisted (left expires).authorization.signature expires
    (Rearranged (left none) (right none) ∧
        verified (left none) = .ok () ∧ verified (right none) = .ok ()) ∧
      Rearranged (left (some 3600)) (right (some 3600)) ∧
        verified (left (some 3600)) = .ok () ∧ verified (right (some 3600)) = .ok () := by
  intro fields others parameters shuffled signed relisted verified left right
  have sameFields (name : String) :
      MultiMap.gathered false fields name = MultiMap.gathered false others name := by
    refine MultiMap.gathered_eq_of_perm (by decide +kernel) ?_ name
    exact List.isPerm_iff.mp (by decide +kernel)
  have sameParameters : (MultiMap.ofPairs true parameters).pairs.Perm
      (MultiMap.ofPairs true shuffled).pairs :=
    List.isPerm_iff.mp (by decide +kernel)
  have sameNames : signed.Perm relisted := List.isPerm_iff.mp (by decide +kernel)
  have rearranged (expires : Option Nat) : Rearranged (left expires) (right expires) :=
    ⟨⟨fields, others, rfl, rfl, sameFields⟩, sameParameters, sameNames, rfl, rfl, rfl, rfl, rfl⟩
  have enough : Enough signed (MultiMap.ofFields false fields) :=
    ⟨by decide +kernel, by decide +kernel, by decide +kernel⟩
  have passes {expires : Option Nat} (alive : ∀ seconds ∈ expires,
      Clock.checkLifetime ⟨⟨19723, 300, 0⟩, 900⟩ "20240101T000000Z" seconds = .ok ()) :
      verified (left expires) = .ok () :=
    verify_signedListing .sha256 enough (by decide +kernel) (by decide +kernel) alive
      (by decide +kernel)
  have unlimited : verified (left none) = .ok () := passes nofun
  have limited : verified (left (some 3600)) = .ok () := by
    apply passes
    rintro _ ⟨⟩
    decide +kernel
  exact ⟨⟨rearranged none, unlimited,
      (verified_in_any_arrangement (rearranged none) _ _ _).mp unlimited⟩,
    rearranged (some 3600), limited,
    (verified_in_any_arrangement (rearranged (some 3600)) _ _ _).mp limited⟩

end Signature
end SignedGateway
