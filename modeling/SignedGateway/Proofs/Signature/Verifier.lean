import SignedGateway.Proofs.MultiMap.Selection
import SignedGateway.Proofs.Result
import SignedGateway.Signature.Verifier

namespace SignedGateway
namespace Signature

/-!
# What a verified signature covers

A request is verified only if its host and every header of the protocol that it carries
stand in its list of signed names, and its signature is the one for the values of the
listed names.
-/

/-- What the signature covers under some names: all values of each. -/
def valuesOf (headers : MultiMap) (names : List String) : List (String × String) :=
  names.flatMap fun name => (headers.get name).map fun value => (name, value)

theorem signedPairs_eq_ok {headers : MultiMap} {names : List String}
    {pairs : List (String × String)} (covered : signedPairs headers names = .ok pairs) :
    pairs = valuesOf headers names := by
  induction names generalizing pairs with
  | nil =>
      cases covered
      rfl
  | cons name rest inductionHypothesis =>
      rw [signedPairs] at covered
      split at covered
      · cases covered
      · rcases Result.bind_eq_ok_iff.mp covered with ⟨later, restCovered, made⟩
        cases made
        rw [inductionHypothesis restCovered, valuesOf, valuesOf, List.flatMap_cons]

theorem checkSignedHeaders_eq_ok {signed : List String} {headers : MultiMap}
    (checked : checkSignedHeaders signed headers = .ok ()) :
    "host" ∈ signed ∧
      ∀ name ∈ headers.keys, Text.startsWith protocolHead name = true → name ∈ signed := by
  unfold checkSignedHeaders at checked
  split_ifs at checked with unhosted
  split at checked
  · cases checked
  · next none =>
      rw [List.find?_eq_none] at none
      constructor
      · simpa using unhosted
      · intro name member own
        by_contra unsigned
        refine none name member ?_
        simp [own, unsigned]

/-- A request that is verified lists its host and all its protocol headers, and is signed
with the record's secret for the values that it has under the listed names. -/
theorem verify_eq_ok {suite : Digest.Suite} {clock : Clock} {record : CredentialRecord}
    {request : StoreRequest} (verified : verify suite clock record request = .ok ()) :
    "host" ∈ request.authorization.signedHeaders ∧
      (∀ name ∈ request.headers.keys, Text.startsWith protocolHead name = true →
        name ∈ request.authorization.signedHeaders) ∧
      ∃ parameters hash,
        coveredParts suite clock request = .ok (parameters, hash) ∧
        request.authorization.signature =
          expected suite record.emulated.secretKey request parameters
            (valuesOf request.headers request.authorization.signedHeaders) hash := by
  unfold verify at verified
  rcases Result.bind_eq_ok_iff.mp verified with ⟨⟨parameters, hash⟩, parts, verified⟩
  rcases Result.bind_eq_ok_iff.mp verified with ⟨pairs, covered, verified⟩
  rcases Result.bind_eq_ok_iff.mp (Result.mapError_eq_ok_iff.mp covered) with
    ⟨_, checked, covered⟩
  rcases checkSignedHeaders_eq_ok checked with ⟨hosted, owned⟩
  rw [signedPairs_eq_ok covered] at verified
  refine ⟨hosted, owned, parameters, hash, parts, ?_⟩
  split_ifs at verified with same
  exact same

/-- A verified request has no protocol header that it does not list. -/
theorem get_eq_nil_of_verify {suite : Digest.Suite} {clock : Clock} {record : CredentialRecord}
    {request : StoreRequest} (verified : verify suite clock record request = .ok ())
    {name : String} (lower : Text.lower name = name)
    (own : Text.startsWith protocolHead name = true)
    (unsigned : name ∉ request.authorization.signedHeaders) : request.headers.get name = [] := by
  by_contra filled
  have stored : name ∈ request.headers.keys :=
    MultiMap.mem_keys_of_get (MultiMap.normalize_of_lower _ lower) filled
  exact unsigned ((verify_eq_ok verified).2.1 name stored own)

end Signature
end SignedGateway
