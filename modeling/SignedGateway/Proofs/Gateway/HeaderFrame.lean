import SignedGateway.Proofs.Gateway.Link
import SignedGateway.Proofs.Incoming.Codings
import SignedGateway.Proofs.MultiMap.Selection
import SignedGateway.Proofs.Signature.Verifier

namespace SignedGateway

/-!
# The header frame of a request for the store

Name by name it is told what a request for the store carries: a header is made by the
gateway, or it is left out, or it has just the values that the client sent.  What is
made depends on the client's headers only through the coding and the digest of the
body, and the date is the client's unless the request was presigned.  Since a client is
verified only if all its protocol headers are signed, no protocol header reaches the
store that nobody has signed.
-/

namespace Http

/-- The fields are the names in lower case that have any value, once each, with all their
values. -/
structure Fields.Holds (fields : Fields) (values : String → List String) : Prop where
  distinct : (fields.map Prod.fst).Nodup
  exact : ∀ name sent, (name, sent) ∈ fields ↔
    Text.lower name = name ∧ values name ≠ [] ∧ sent = (values name).map Utf8.bytesOf

theorem Fields.holds_ofMap {map : MultiMap} (tidy : map.Tidy)
    (insensitive : map.caseSensitive = false) {values : String → List String}
    (same : ∀ name, Text.lower name = name → map.get name = values name) :
    (Fields.ofMap map).Holds values := by
  have lower (name : String) : MultiMap.normalize map.caseSensitive name = Text.lower name := by
    rw [insensitive]
    rfl
  constructor
  · rw [ofMap, List.map_map]
    exact tidy.distinct
  · intro name sent
    rw [ofMap, List.mem_map]
    constructor
    · rintro ⟨⟨name, texts⟩, member, made⟩
      cases made
      rcases tidy.mem_entries_iff.mp member with ⟨normal, filled, held⟩
      rw [lower] at normal
      rw [same name normal] at held
      exact ⟨normal, held.symm ▸ filled, congrArg (List.map Utf8.bytesOf) held.symm⟩
    · rintro ⟨normal, filled, rfl⟩
      refine ⟨(name, values name), tidy.mem_entries_iff.mpr ⟨?_, filled, same name normal⟩, rfl⟩
      rw [lower]
      exact normal

theorem Fields.Holds.mem {fields : Fields} {values : String → List String}
    (holds : fields.Holds values) {name : String} (lower : Text.lower name = name)
    {texts : List String} (same : values name = texts) (filled : texts ≠ []) :
    (name, texts.map Utf8.bytesOf) ∈ fields := by
  rw [← same] at filled ⊢
  exact (holds.exact name _).mpr ⟨lower, filled, rfl⟩

end Http

namespace Outbound

/-! ## What stands under a name -/

/-- Whether the digest of the body is made anew. -/
def makesDigest (client : MultiMap) : Bool :=
  Chunked.isAnnounced client || !client.contains Signature.payloadHeader

/-- The client's headers that are left out.  The length of a decoded body goes with the
chunks that it describes. -/
def leftOut (client : MultiMap) : List String :=
  if Chunked.isAnnounced client then "x-amz-decoded-content-length" :: droppedHeaders
  else droppedHeaders

/-- The line of codings for a body whose chunks are gone: what the client's first line lists,
but for the coding for chunks.  There is no line if nothing else is listed. -/
def codingsLine (client : MultiMap) : List String :=
  let codings := Chunked.withoutChunks (Chunked.listed ((client.get "content-encoding").take 1))
  if codings = [] then [] else [Text.joinWith ", " codings]

/-- The headers of the body: made for it, left out, or the client's. -/
def describedValues (suite : Digest.Suite) (client : MultiMap) (body : List UInt8)
    (name : String) : List String :=
  if name = Signature.payloadHeader ∧ makesDigest client then [Signature.payloadHash suite body]
  else if name = "content-encoding" ∧ Chunked.isAnnounced client then codingsLine client
  else if name ∈ leftOut client then []
  else client.get name

/-- The values that a request for the store has under a name. -/
def headerValues (suite : Digest.Suite) (client : MultiMap) (body : List UInt8)
    (host date : String) (token : Option String) (authorization name : String) : List String :=
  if name = "authorization" then [authorization]
  else if name = "x-amz-security-token" then token.toList
  else if name = "x-amz-date" then [date]
  else if name = "host" then [host]
  else describedValues suite client body name

/-- The headers of the protocol that the gateway makes. -/
def madeHeaders (client : MultiMap) : List String :=
  if makesDigest client then [Signature.payloadHeader, "x-amz-date", "x-amz-security-token"]
  else ["x-amz-date", "x-amz-security-token"]

/-- A protocol header that is not made is the client's, if it is sent at all. -/
theorem headerValues_eq_get {suite : Digest.Suite} {client : MultiMap} {body : List UInt8}
    {host date : String} {token : Option String} {authorization name : String}
    (own : Text.startsWith Signature.protocolHead name = true) (unmade : name ∉ madeHeaders client)
    (filled : headerValues suite client body host date token authorization name ≠ []) :
    headerValues suite client body host date token authorization name = client.get name := by
  have foreign {other : String} (strange : Text.startsWith Signature.protocolHead other = false) :
      name ≠ other := by
    rintro rfl
    rw [strange] at own
    cases own
  have undated : name ≠ "x-amz-date" ∧ name ≠ "x-amz-security-token" := by
    unfold madeHeaders at unmade
    split_ifs at unmade <;> simp only [List.mem_cons, not_or] at unmade
    · exact ⟨unmade.2.1, unmade.2.2.1⟩
    · exact ⟨unmade.1, unmade.2.1⟩
  have undigested : ¬(name = Signature.payloadHeader ∧ makesDigest client = true) := by
    rintro ⟨digest, makes⟩
    rw [madeHeaders, if_pos makes, digest] at unmade
    exact unmade List.mem_cons_self
  have uncoded : ¬(name = "content-encoding" ∧ Chunked.isAnnounced client = true) :=
    fun coding => foreign (by decide) coding.1
  -- Every name that the gateway fills is ruled out; a name that is left out has no value.
  unfold headerValues describedValues at filled ⊢
  rw [if_neg (foreign (by decide)), if_neg undated.2, if_neg undated.1,
    if_neg (foreign (by decide)), if_neg undigested, if_neg uncoded] at filled ⊢
  split_ifs at filled ⊢ with out
  · exact absurd rfl filled
  · rfl

theorem toList_remainingCodings (client : MultiMap) :
    (remainingCodings client).toList = codingsLine client := by
  have first : remainingCodings client =
      ((client.get "content-encoding").head?).bind Chunked.otherCodings := rfl
  rw [first, codingsLine]
  cases client.get "content-encoding" with
  | nil => rfl
  | cons line others =>
      have alone : Chunked.listed ((line :: others).take 1) = Chunked.codingsOf line :=
        List.flatMap_singleton _ line
      rw [alone, List.head?_cons, Option.bind_some, Chunked.otherCodings_eq]
      cases Chunked.withoutChunks (Chunked.codingsOf line) <;> rfl

section Values

variable {name : String} (lower : Text.lower name = name)

include lower

theorem get_keptHeaders {headers : MultiMap} (keyed : headers.Keyed)
    (insensitive : headers.caseSensitive = false) :
    (keptHeaders headers).get name = if name ∈ droppedHeaders then [] else headers.get name := by
  have kept := keyed.get_ofPairs_filter (fun other => !droppedHeaders.contains other) name
  rw [MultiMap.normalize_of_lower _ lower, insensitive] at kept
  rw [keptHeaders, kept]
  by_cases dropped : name ∈ droppedHeaders
  · rw [if_pos dropped, List.contains_iff_mem.mpr dropped]
    rfl
  · rw [if_neg dropped, if_pos]
    rw [Bool.not_eq_true', ← Bool.not_eq_true, List.contains_iff_mem]
    exact dropped

theorem get_wholeBodyHeaders (client : MultiMap) {kept : MultiMap} (tidy : kept.Tidy)
    (hash : String) :
    (wholeBodyHeaders client kept hash).get name =
      if name = Signature.payloadHeader then [hash]
      else if name = "content-encoding" then (remainingCodings client).toList
      else if name = "x-amz-decoded-content-length" then []
      else kept.get name := by
  have encoding : Text.lower "content-encoding" = "content-encoding" := by
    decide
  have size : Text.lower "x-amz-decoded-content-length" = "x-amz-decoded-content-length" := by
    decide
  have digest : Text.lower Signature.payloadHeader = Signature.payloadHeader := by
    decide
  have bare : ((kept.remove "content-encoding").remove "x-amz-decoded-content-length").get name =
      if name = "x-amz-decoded-content-length" then []
      else if name = "content-encoding" then [] else kept.get name := by
    rw [(tidy.remove "content-encoding").get_remove_of_lower size lower,
      tidy.get_remove_of_lower encoding lower]
  rw [wholeBodyHeaders, MultiMap.get_put_of_lower _ digest lower]
  cases remainingCodings client with
  | none =>
      dsimp only
      rw [bare]
      split_ifs <;> rfl
  | some codings =>
      dsimp only
      rw [MultiMap.get_put_of_lower _ encoding lower, bare]
      split_ifs <;> rfl

/-- The headers of the body, name by name. -/
theorem get_described {suite : Digest.Suite} {request : StoreRequest} {body : List UInt8}
    {described : MultiMap} (keyed : request.headers.Keyed)
    (insensitive : request.headers.caseSensitive = false)
    (made : payload suite request = .ok (body, described)) :
    described.get name = describedValues suite request.headers body name := by
  have keptTidy := tidy_keptHeaders request.headers
  have kept := get_keptHeaders lower keyed insensitive
  have digest : Text.lower Signature.payloadHeader = Signature.payloadHeader := by
    decide
  unfold payload at made
  dsimp only at made
  unfold describedValues makesDigest leftOut
  split_ifs at made with chunked declares
  · split at made
    · cases made
    · cases made
      rw [get_wholeBodyHeaders lower request.headers keptTidy, toList_remainingCodings, kept,
        chunked]
      simp only [Bool.true_or, and_true, if_true, List.mem_cons]
      by_cases size : name = "x-amz-decoded-content-length"
      · rw [if_pos size, if_pos (Or.inl size)]
      · rw [if_neg size]
        simp only [size, false_or]
  · cases made
    rw [kept, Bool.not_eq_true _ |>.mp chunked, declares]
    simp only [Bool.not_true, Bool.or_false, Bool.false_eq_true, and_false, if_false]
  · cases made
    rw [MultiMap.get_put_of_lower _ digest lower, kept, Bool.not_eq_true _ |>.mp chunked,
      Bool.not_eq_true _ |>.mp declares]
    simp only [Bool.not_false, Bool.or_true, Bool.false_eq_true, and_true, and_false, if_false]

theorem get_addressed {headers : MultiMap} (untold : headers.get "x-amz-security-token" = [])
    (host date : String) (token : Option String) :
    (addressed headers host date token).get name =
      if name = "x-amz-security-token" then token.toList
      else if name = "x-amz-date" then [date]
      else if name = "host" then [host]
      else headers.get name := by
  have dated : Text.lower "x-amz-date" = "x-amz-date" := by
    decide
  have hosted : Text.lower "host" = "host" := by
    decide
  have told : Text.lower "x-amz-security-token" = "x-amz-security-token" := by
    decide
  unfold addressed
  cases token with
  | none =>
      dsimp only
      rw [MultiMap.get_put_of_lower _ dated lower, MultiMap.get_put_of_lower _ hosted lower]
      -- Nothing is put under the token's name, so it matters that nothing stood there.
      by_cases same : name = "x-amz-security-token"
      · subst same
        rw [if_pos rfl, untold]
        rfl
      · rw [if_neg same]
  | some text =>
      dsimp only
      rw [MultiMap.get_put_of_lower _ told lower, MultiMap.get_put_of_lower _ dated lower,
        MultiMap.get_put_of_lower _ hosted lower]
      rfl

end Values

/-- No token of the client is left in what describes the body. -/
theorem described_without_token {suite : Digest.Suite} {request : StoreRequest}
    {body : List UInt8} {described : MultiMap} (keyed : request.headers.Keyed)
    (insensitive : request.headers.caseSensitive = false)
    (made : payload suite request = .ok (body, described)) :
    described.get "x-amz-security-token" = [] := by
  have other : "x-amz-security-token" ≠ Signature.payloadHeader ∧
      "x-amz-security-token" ≠ "content-encoding" ∧
      "x-amz-security-token" ∈ droppedHeaders := by
    decide
  have dropped : "x-amz-security-token" ∈ leftOut request.headers := by
    unfold leftOut
    split_ifs
    · exact List.mem_cons_of_mem _ other.2.2
    · exact other.2.2
  rw [get_described (by decide) keyed insensitive made, describedValues,
    if_neg fun same => other.1 same.1, if_neg fun same => other.2.1 same.1, if_pos dropped]

end Outbound

namespace Pipeline

variable {Outside : Type} {pipeline : Pipeline Outside} {request : StoreRequest}
  {outbound : OutboundRequest}

/-- The headers of what is made of a request in the end.  A presigned request may be old, so
the new one is dated at the time at which it is signed. -/
theorem Passage.holds_headers (passage : Passage pipeline request)
    (keyed : request.headers.Keyed) (insensitive : request.headers.caseSensitive = false)
    (made : passage.outcome = .ok outbound) :
    ∃ authority authorization,
      outbound.uri.authority = some ⟨authority⟩ ∧
        Http.Fields.Holds outbound.headers
          (Outbound.headerValues pipeline.suite request.headers outbound.body authority
            (if request.authorization.isPresigned then passage.signedAt.stamp else request.date)
            passage.connection.credential.session authorization) := by
  rcases passage.exists_resolved_eq with ⟨bucket, key, query, resolved⟩
  unfold Passage.outcome at made
  rw [resolved] at made
  rcases Outbound.exists_signable_of_assemble made with
    ⟨authority, body, described, signed, describes, _, written, _, sameUri, sameBody, hosted⟩
  rw [sameUri, sameBody]
  rcases Outbound.tidy_signable describes passage.clock passage.connection.credential passage.uri
    authority with ⟨tidy, signableInsensitive⟩
  have untold := Outbound.described_without_token keyed insensitive describes
  refine ⟨authority, signed.authorization, hosted, ?_⟩
  rw [written]
  apply Http.Fields.holds_ofMap (tidy.put _ _) signableInsensitive
  intro name lower
  have signing : Text.lower "authorization" = "authorization" := by
    decide
  rw [MultiMap.get_put_of_lower _ signing lower, Outbound.signable,
    Outbound.get_addressed lower untold, Outbound.get_described lower keyed insensitive describes,
    Outbound.headerValues]
  rfl

/-- What the store gets carries, name by name, just the headers that are made for it and
those of the client that are not left out, and it is signed with the credential of the
connection.  It has the client's date, unless the client's request was presigned.  Every
protocol header that is not made was listed by the client as signed, and it has the
values that went into the signature by which the client was verified. -/
theorem header_frame {world after : World Outside} (keyed : request.headers.Keyed)
    (insensitive : request.headers.caseSensitive = false)
    (accepted : (pipeline.process request).perform world = (.ok outbound, after)) :
    ∃ passage : Passage pipeline request,
      ((pipeline.watched.process request).perform (world.withCalls [])).2.calls = passage.calls ∧
        (∃ authority authorization,
          outbound.uri.authority = some ⟨authority⟩ ∧
            Http.Fields.Holds outbound.headers
              (Outbound.headerValues pipeline.suite request.headers outbound.body authority
                (if request.authorization.isPresigned then passage.signedAt.stamp
                  else request.date)
                passage.connection.credential.session authorization)) ∧
        outbound.SignedBy pipeline.suite passage.connection.credential ∧
        (∃ parameters hash,
          Signature.coveredParts pipeline.suite ⟨passage.answered, pipeline.maxDrift⟩ request =
              .ok (parameters, hash) ∧
            request.authorization.signature =
              Signature.expected pipeline.suite passage.record.emulated.secretKey request parameters
                (Signature.valuesOf request.headers request.authorization.signedHeaders) hash) ∧
        ∀ name sent, (name, sent) ∈ outbound.headers →
          Text.startsWith Signature.protocolHead name = true →
          name ∉ Outbound.madeHeaders request.headers →
          name ∈ request.authorization.signedHeaders ∧
            sent = (request.headers.get name).map Utf8.bytesOf := by
  rcases passage_of_process accepted with ⟨passage, calls, made⟩
  rcases Signature.verify_eq_ok passage.verified with ⟨_, owned, vouched⟩
  have frame := passage.holds_headers keyed insensitive made
  refine ⟨passage, calls, frame, Outbound.signedBy_of_assemble made, vouched, ?_⟩
  rcases frame with ⟨authority, authorization, _, holds⟩
  intro name sent member own unmade
  rcases (holds.exact name sent).mp member with ⟨lower, filled, rfl⟩
  have same := Outbound.headerValues_eq_get own unmade filled
  rw [same] at filled ⊢
  have stored := MultiMap.mem_keys_of_get (MultiMap.normalize_of_lower _ lower) filled
  exact ⟨owned name stored own, rfl⟩

/-- What a client declares of its body reaches the store as it was signed, under the host
of the store and without any token.  A link is dated anew, and a digest is made for it. -/
theorem header_frame_of_client :
    (∃ request outbound after,
      Incoming.read (Client.message .sha256 "k") none "id" = .ok request ∧
      ((Client.pipeline .sha256).process request).perform Client.world = (.ok outbound, after) ∧
      ("host", [Utf8.bytesOf "s3.r.amazonaws.com"]) ∈ outbound.headers ∧
      ("x-amz-date", [Utf8.bytesOf Client.date]) ∈ outbound.headers ∧
      (∀ sent, ("x-amz-security-token", sent) ∉ outbound.headers) ∧
      ("x-amz-content-sha256", [Utf8.bytesOf "UNSIGNED-PAYLOAD"]) ∈ outbound.headers ∧
      "x-amz-content-sha256" ∈ request.authorization.signedHeaders) ∧
    ∃ request outbound after,
      Incoming.read (Client.linkMessage (Client.linkSignature .sha256)) none "id" = .ok request ∧
      request.date = "20231231T235900Z" ∧
      ((Client.pipeline .sha256).process request).perform Client.world = (.ok outbound, after) ∧
      ("x-amz-date", [Utf8.bytesOf "20240101T000000Z"]) ∈ outbound.headers ∧
      ("x-amz-content-sha256", [Utf8.bytesOf (Signature.payloadHash .sha256 outbound.body)]) ∈
        outbound.headers := by
  constructor
  · rcases Client.exists_asked .sha256 "k" with ⟨request, read, asked⟩
    rcases asked.exists_outbound (by decide +kernel) with ⟨_, outbound, after, made, accepted⟩
    rcases asked.back with ⟨day, back⟩
    rcases back.headers with ⟨header, headers⟩
    have sendable := Client.sendable ("/b/" ++ "k") "acl"
    have tidy := sendable.tidy_sentHeaders header
    have insensitive := sendable.insensitive_sentHeaders header
    rw [← headers] at tidy insensitive
    rcases header_frame tidy.keyed insensitive accepted with
      ⟨passage, _, ⟨authority, authorization, hosted, holds⟩, _, _, signed⟩
    have untold : passage.connection.credential.session = none := by
      rw [(asked.unmapped_eq passage).1]
      rfl
    have named : authority = "s3.r.amazonaws.com" := by
      rw [Outbound.uri_of_assemble made] at hosted
      exact (congrArg Uri.Authority.text (Option.some.inj hosted)).symm
    have unlimited : request.authorization.isPresigned = false := by
      rw [back.authorization]
      rfl
    have dated : request.date = Client.date := back.date
    have kept : Outbound.makesDigest request.headers = false := by
      rw [headers]
      rfl
    have whole : Chunked.isAnnounced request.headers = false := by
      rw [headers]
      rfl
    have declared : request.headers.get "x-amz-content-sha256" = ["UNSIGNED-PAYLOAD"] := by
      rw [headers]
      rfl
    rw [unlimited, dated, untold, named] at holds
    have sent : ("x-amz-content-sha256", [Utf8.bytesOf "UNSIGNED-PAYLOAD"]) ∈ outbound.headers := by
      refine holds.mem (by decide) ?_ (List.cons_ne_nil "UNSIGNED-PAYLOAD" [])
      unfold Outbound.headerValues Outbound.describedValues Outbound.leftOut
      rw [kept, whole]
      exact declared
    refine ⟨request, outbound, after, read, accepted, ?_, ?_, ?_, sent, ?_⟩
    · exact holds.mem (by decide) rfl (List.cons_ne_nil _ _)
    · exact holds.mem (by decide) rfl (List.cons_ne_nil _ _)
    · exact fun texts member => ((holds.exact _ _).mp member).2.1 rfl
    · refine (signed _ _ sent (by decide) ?_).1
      rw [Outbound.madeHeaders, kept]
      decide
  · rcases Client.exists_outbound_of_link .sha256 with ⟨outbound, after, accepted⟩
    have read := Client.read_linkMessage (Client.linkSignature .sha256)
    generalize Client.linkSignature .sha256 = signature at accepted read ⊢
    have tidy : (Client.linkRequest signature).headers.Tidy :=
      MultiMap.tidy_ofPairs false [("host", "gateway")]
    rcases header_frame tidy.keyed rfl accepted with
      ⟨passage, calls, ⟨authority, authorization, _, holds⟩, _⟩
    have presigned : (Client.linkRequest signature).authorization.isPresigned = true := rfl
    have stamp : Client.world.now.stamp = "20240101T000000Z" := by
      decide +kernel
    rw [presigned, if_pos rfl,
      (passage.times_of_prompt calls (Client.prompt_pipeline .sha256)).2, stamp] at holds
    exact ⟨Client.linkRequest signature, outbound, after, read, rfl, accepted,
      holds.mem (by decide) rfl (List.cons_ne_nil _ _),
      holds.mem (by decide) rfl (List.cons_ne_nil _ _)⟩

end Pipeline
end SignedGateway
