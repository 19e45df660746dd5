import SignedGateway.Proofs.Signature.ReadBack

namespace SignedGateway
namespace Signature

/-!
# What is signed is verified

The signer takes the scope from the date and the headers that it is given, all but a few,
with the digest that one of them declares.  The verifier takes the scope and the names from
the authorization and, if no digest is declared, makes one of the body.  A request that was
signed with the credential of a client is nevertheless verified, whatever its headers are.
-/

/-! ## The day -/

theorem utf8Size_of_ascii {c : Char} (ascii : c.toNat < 128) : c.utf8Size = 1 :=
  Char.utf8Size_eq_one_iff.mpr (UInt32.le_iff_toNat_le.mpr (Nat.le_of_lt_succ ascii))

/-- A date that the clock accepts begins with a day, if its characters have one byte each. -/
theorem scopeDate_of_checkDrift {clock : Clock} {date : String}
    (ascii : ∀ c ∈ date.toList, c.toNat < 128) (checked : clock.checkDrift date = .ok ()) :
    scopeDate date = .ok (String.ofList (date.toList.take 8)) := by
  rcases parseStamp?_of_checkDrift checked with ⟨moment, read⟩
  have long : (date.toList.take 8).length = 8 :=
    List.length_take_of_le (Calendar.eight_le_length_of_parseStamp? read)
  have single : ∀ c ∈ date.toList.take 8, c.utf8Size = 1 :=
    fun c member => utf8Size_of_ascii (ascii c (List.mem_of_mem_take member))
  have begun := takeBytes_append single (date.toList.drop 8)
  rw [long, List.take_append_drop] at begun
  rw [scopeDate, begun]

/-! ## The digest -/

theorem payloadHash_nil : payloadHash .sha256 [] = emptyPayloadHash := by
  decide +kernel

/-- The verifier takes the digest that was signed, if every body that is not empty comes with
a declared one. -/
theorem digest_eq {headers : MultiMap} (tidy : headers.Tidy)
    (insensitive : headers.caseSensitive = false) {body : List UInt8}
    (declared : body ≠ [] → headers.contains payloadHeader = true) :
    (headers.getFirst? payloadHeader).getD (payloadHash .sha256 body) =
      (headers.getFirst? payloadHeader).getD emptyPayloadHash := by
  by_cases empty : body = []
  · rw [empty, payloadHash_nil]
  · have normal : MultiMap.normalize headers.caseSensitive payloadHeader = payloadHeader := by
      rw [insensitive]
      decide
    have stored : payloadHeader ∈ headers.keys :=
      (MultiMap.mem_keys_iff normal).mpr (Option.isSome_iff_ne_none.mp (declared empty))
    have filled := tidy.get_ne_nil stored
    rw [MultiMap.getFirst?, List.head?_eq_some_head filled]
    rfl

/-! ## Signing, reading and verifying -/

/-- A request with what was signed, a path that need not be spelled as the signed one, and a
body. -/
structure Carries (request : Signable) (rawPath : String) (body : List UInt8)
    (again : StoreRequest) : Prop where
  method : again.method = request.method
  rawPath : again.rawPath = rawPath
  headers : again.headers = request.headers
  query : again.query = request.query
  date : again.date = request.date
  body : again.body = body

/-- A request is signed with the credential of a client, its header is read as what was
signed, and every request with this authorization is verified, as long as the date is within
the limit of the clock. -/
theorem sign_complete {clock later : Clock} {context : SigningContext} {request : Signable}
    {rawPath : String} {body : List UInt8} (tidy : request.headers.Tidy)
    (insensitive : request.headers.caseSensitive = false)
    (tokens : ∀ name ∈ request.headers.keys, Http.isToken name = true)
    (hosted : request.headers.contains "host" = true)
    (declared : body ≠ [] → request.headers.contains payloadHeader = true)
    (ascii : ∀ c ∈ request.date.toList, c.toNat < 128)
    (checked : clock.checkDrift request.date = .ok ())
    (checkedLater : later.checkDrift request.date = .ok ())
    (nonempty : context.record.emulated.accessKey ≠ "")
    (keyFree : '/' ∉ context.record.emulated.accessKey.toList ∧
      ',' ∉ context.record.emulated.accessKey.toList)
    (regionFree : '/' ∉ request.region.toList ∧ ',' ∉ request.region.toList)
    (sameUri : Canonical.uri request.path = Canonical.uri rawPath) :
    ∃ signed, sign .sha256 clock context .emulated request = .ok signed ∧
      signed.signedHeaders = Text.sort (namesToSign request.headers) ∧
      ∀ token, ∃ authorization : Authorization,
        Authorization.parseHeader signed.authorization token = .ok authorization ∧
        authorization = {
          accessKey := context.record.emulated.accessKey
          date := String.ofList (request.date.toList.take 8)
          region := request.region
          service := context.service.name
          signedHeaders := signed.signedHeaders
          signature := signed.signature
          securityToken := token
          expires := none } ∧
        ∀ again, Carries request rawPath body again → again.authorization = authorization →
          verify .sha256 later context.record again = .ok () := by
  have begun := scopeDate_of_checkDrift ascii checked
  have made : sign .sha256 clock context .emulated request = .ok _ :=
    sign_of_checkDrift rfl checked begun
  refine ⟨_, made, rfl, fun token => ?_⟩
  have signedTokens : ∀ name ∈ namesToSign request.headers, Http.isToken name = true :=
    fun name signed => tokens name (mem_namesToSign.mp signed).1
  rcases parseHeader_of_sign tidy insensitive hosted signedTokens nonempty keyFree regionFree rfl
    made token with ⟨day, sameDay, parsed⟩
  rw [begun] at sameDay
  cases sameDay
  refine ⟨_, parsed, rfl, fun again carried authorized => ?_⟩
  have restated : Restates request .sha256 context.record.emulated
      ⟨String.ofList (request.date.toList.take 8), request.region, context.service.name⟩ again := by
    refine ⟨carried.method, ?_, carried.date, ?_, ?_, token, authorized⟩
    · rw [carried.rawPath, sameUri]
    · rw [carried.headers]
      exact Shows.refl request.headers
    · rw [carried.headers, carried.body]
      exact digest_eq tidy insensitive declared
  rw [restated.verify_iff tidy insensitive hosted checkedLater rfl, carried.query]

/-- A listing with a header of two values, one that is not signed and no digest.  The verifier
runs five minutes later and is shown the path with other escapes. -/
theorem sign_complete_of_listing :
    let request : Signable := {
      method := "GET"
      path := "/b/two words"
      headers := MultiMap.ofPairs false
        [("X-Tag", " a  b"), ("Host", "gateway"), ("User-Agent", "client"), ("x-tag", "c")]
      query := MultiMap.ofPairs true [("prefix", "é"), ("acl", ""), ("prefix", "/")]
      date := "20240101T000000Z"
      region := "r" }
    let context : SigningContext := ⟨.s3, ⟨⟨"client", "shown", none⟩, none, none, none⟩, none⟩
    ∃ signed, sign .sha256 ⟨⟨19723, 0, 0⟩, 900⟩ context .emulated request = .ok signed ∧
      signed.signedHeaders = ["host", "x-tag"] ∧
      ∃ authorization : Authorization,
        Authorization.parseHeader signed.authorization (some "token") = .ok authorization ∧
        authorization =
          ⟨"client", "20240101", "r", "s3", ["host", "x-tag"], signed.signature, some "token", none⟩ ∧
        ∀ again, Carries request "/b/two%20%77ords" [] again → again.authorization = authorization →
          verify .sha256 ⟨⟨19723, 300, 0⟩, 900⟩ context.record again = .ok () := by
  intro request context
  have tokens : (request.headers.keys.all fun name => Http.isToken name) = true := by
    decide +kernel
  have ascii : (request.date.toList.all fun c => decide (c.toNat < 128)) = true := by
    decide +kernel
  have names : namesToSign request.headers = ["x-tag", "host"] := by
    decide +kernel
  have ordered : Text.sort (namesToSign request.headers) = ["host", "x-tag"] :=
    Text.sort_eq_of_ordered (names.symm ▸ List.Perm.swap "host" "x-tag" []) (by decide)
  have day : String.ofList (request.date.toList.take 8) = "20240101" := by
    decide +kernel
  have checked : Clock.checkDrift ⟨⟨19723, 0, 0⟩, 900⟩ request.date = .ok () := by
    decide +kernel
  have checkedLater : Clock.checkDrift ⟨⟨19723, 300, 0⟩, 900⟩ request.date = .ok () := by
    decide +kernel
  have sameUri : Canonical.uri request.path = Canonical.uri "/b/two%20%77ords" := by
    decide +kernel
  have undeclared : ([] : List UInt8) ≠ [] → request.headers.contains payloadHeader = true :=
    fun filled => absurd rfl filled
  have nonempty : context.record.emulated.accessKey ≠ "" := by
    decide
  have complete := sign_complete (MultiMap.tidy_ofPairs false _) rfl (List.all_eq_true.mp tokens)
    (by decide +kernel) undeclared
    (fun c member => of_decide_eq_true (List.all_eq_true.mp ascii c member)) checked checkedLater
    nonempty (by decide) (by decide) sameUri
  rw [ordered, day] at complete
  rcases complete with ⟨signed, made, sorted, read⟩
  rw [sorted] at read
  exact ⟨signed, made, sorted, read (some "token")⟩

end Signature
end SignedGateway
