import SignedGateway.Proofs.Gateway.HeaderFrame
import SignedGateway.Proofs.Gateway.UnsignedHeaders
import SignedGateway.Proofs.Incoming.Codings

namespace SignedGateway

/-!
# The content codings of a body that came in chunks

The coding for chunks is a matter between the client and the gateway, so the store is told the
others only.  A client may spread its list over several lines.  Chunks are announced in any of
them, but the codings that reach the store are those of the first: what the other lines list is
lost with the lines, and the store keeps an object whose coding nobody knows.
-/

namespace Http

/-- What the fields have under a name. -/
theorem Fields.Holds.get_eq {fields : Fields} {values : String → List String}
    (holds : fields.Holds values) {name : String} (lower : Text.lower name = name) :
    fields.get name = (values name).map Utf8.bytesOf := by
  rw [get, lower]
  by_cases empty : values name = []
  · have absent : fields.lookup name = none := by
      rw [List.lookup_eq_none_iff]
      intro field member
      rw [bne_iff_ne]
      rintro rfl
      exact ((holds.exact field.1 field.2).mp member).2.1 empty
    rw [absent, empty]
    rfl
  · have member : (name, (values name).map Utf8.bytesOf) ∈ fields :=
      (holds.exact name _).mpr ⟨lower, empty, rfl⟩
    rw [MultiMap.lookup_of_mem holds.distinct member]
    rfl

/-- A name is absent exactly if it has no value. -/
theorem Fields.Holds.absent_iff {fields : Fields} {values : String → List String}
    (holds : fields.Holds values) {name : String} (lower : Text.lower name = name) :
    (∀ sent, (name, sent) ∉ fields) ↔ values name = [] := by
  constructor
  · intro absent
    by_contra filled
    exact absent _ ((holds.exact name _).mpr ⟨lower, filled, rfl⟩)
  · intro empty sent member
    exact ((holds.exact name sent).mp member).2.1 empty

end Http

/-- The lines of a request that list content codings. -/
def StoreRequest.codingLines (request : StoreRequest) : List String :=
  request.headers.get "content-encoding"

def OutboundRequest.codingLines (outbound : OutboundRequest) : List String :=
  (outbound.headers.get "content-encoding").map Utf8.decodeLossy

namespace Outbound

/-- The line that is left lists the codings of the first but for the one for chunks. -/
theorem listed_codingsLine (headers : MultiMap) :
    Chunked.listed (codingsLine headers) =
      Chunked.withoutChunks (Chunked.listed ((headers.get "content-encoding").take 1)) := by
  unfold codingsLine
  dsimp only
  split_ifs with none
  · exact none.symm
  · rw [Chunked.listed, List.flatMap_singleton]
    apply Chunked.codingsOf_joinWith _ none
    intro name member
    rcases List.mem_flatMap.mp (List.mem_of_mem_filter member) with ⟨line, _, inLine⟩
    exact Chunked.isCoding_of_mem inLine

theorem codingsLine_eq_nil_iff (headers : MultiMap) :
    codingsLine headers = [] ↔
      Chunked.withoutChunks (Chunked.listed ((headers.get "content-encoding").take 1)) = [] := by
  unfold codingsLine
  dsimp only
  split_ifs with none
  · exact ⟨fun _ => none, fun _ => rfl⟩
  · exact ⟨False.elim, fun empty => absurd empty none⟩

/-- The codings that a request for the store has if the client's body came in chunks. -/
theorem headerValues_codings (suite : Digest.Suite) {client : MultiMap} (body : List UInt8)
    (host date : String) (token : Option String) (authorization : String)
    (announced : Chunked.isAnnounced client = true) :
    headerValues suite client body host date token authorization "content-encoding" =
      codingsLine client := by
  unfold headerValues describedValues
  rw [if_neg (by decide), if_neg (by decide), if_neg (by decide), if_neg (by decide),
    if_neg (fun digest => absurd digest.1 (by decide)), if_pos ⟨rfl, announced⟩]

end Outbound

namespace Pipeline

variable {Outside : Type} {pipeline : Pipeline Outside} {request : StoreRequest}
  {outbound : OutboundRequest}

/-- The line of codings that the store gets is the one that is left of the client's first. -/
theorem codingLines_of_process {world after : World Outside} (keyed : request.headers.Keyed)
    (insensitive : request.headers.caseSensitive = false)
    (announced : Chunked.isAnnounced request.headers = true)
    (accepted : (pipeline.process request).perform world = (.ok outbound, after)) :
    outbound.codingLines = Outbound.codingsLine request.headers ∧
      ((∀ sent, ("content-encoding", sent) ∉ outbound.headers) ↔
        Outbound.codingsLine request.headers = []) := by
  rcases passage_of_process accepted with ⟨passage, _, made⟩
  rcases passage.holds_headers keyed insensitive made with ⟨authority, authorization, _, holds⟩
  have lower : Text.lower "content-encoding" = "content-encoding" := by
    decide
  have values := Outbound.headerValues_codings pipeline.suite outbound.body authority
    (if request.authorization.isPresigned then passage.signedAt.stamp else request.date)
    passage.connection.credential.session authorization announced
  constructor
  · have unread : Utf8.decodeLossy ∘ Utf8.bytesOf = id := funext Utf8.decodeLossy_bytesOf
    rw [OutboundRequest.codingLines, holds.get_eq lower, values, List.map_map, unread, List.map_id]
  · rw [holds.absent_iff lower, values]

/-- A body that came in chunks reaches the store with the codings that the client's first line
lists, but for the one for chunks, in their order, and without any line if there are none.  These
are all the codings that the client has listed exactly if its other lines list none but the one
for chunks. -/
theorem codings_of_first_line {world after : World Outside} (keyed : request.headers.Keyed)
    (insensitive : request.headers.caseSensitive = false)
    (announced : Chunked.isAnnounced request.headers = true)
    (accepted : (pipeline.process request).perform world = (.ok outbound, after)) :
    Chunked.listed outbound.codingLines =
        Chunked.withoutChunks (Chunked.listed (request.codingLines.take 1)) ∧
      ((∀ sent, ("content-encoding", sent) ∉ outbound.headers) ↔
        Chunked.withoutChunks (Chunked.listed (request.codingLines.take 1)) = []) ∧
      (Chunked.listed outbound.codingLines =
          Chunked.withoutChunks (Chunked.listed request.codingLines) ↔
        Chunked.withoutChunks (Chunked.listed (request.codingLines.drop 1)) = []) := by
  rcases codingLines_of_process keyed insensitive announced accepted with ⟨lines, absent⟩
  have sent : Chunked.listed outbound.codingLines =
      Chunked.withoutChunks (Chunked.listed (request.codingLines.take 1)) := by
    rw [lines, Outbound.listed_codingsLine, StoreRequest.codingLines]
  have split : Chunked.withoutChunks (Chunked.listed request.codingLines) =
      Chunked.withoutChunks (Chunked.listed (request.codingLines.take 1)) ++
        Chunked.withoutChunks (Chunked.listed (request.codingLines.drop 1)) := by
    rw [← Chunked.withoutChunks_append, ← Chunked.listed_append, List.take_append_drop]
  refine ⟨sent, ?_, ?_⟩
  · rw [absent, Outbound.codingsLine_eq_nil_iff, StoreRequest.codingLines]
  · rw [sent, split]
    constructor
    · intro same
      exact List.append_right_eq_self.mp same.symm
    · intro none
      rw [none, List.append_nil]

end Pipeline

/-! ## Codings in two lines -/

namespace Client

/-- The headers of an upload whose codings stand in two lines. -/
def twoLines (suite : Digest.Suite) (first second : String) : MultiMap :=
  ((uploadHeaders suite).put "content-encoding" first).add "content-encoding" second

section TwoLines

variable (suite : Digest.Suite) (first second : String)

theorem exists_twoLines_eq :
    ∃ text, twoLines suite first second =
      ⟨false, [("host", ["gateway"]), ("x-amz-content-sha256", ["UNSIGNED-PAYLOAD"]),
        ("x-amz-date", [date]), ("authorization", [text]),
        ("content-encoding", [first, second])]⟩ :=
  ⟨_, rfl⟩

theorem tidy_twoLines : (twoLines suite first second).Tidy :=
  ((tidy_uploadHeaders suite).put "content-encoding" first).add "content-encoding" second

theorem shows_twoLines : Signature.Shows (twoLines suite first second) upload.headers := by
  rcases exists_twoLines_eq suite first second with ⟨text, entries⟩
  rw [entries]
  have names : Signature.namesToSign upload.headers = signedNames := rfl
  constructor
  · rw [names, signedNames]
    intro name signed
    rw [List.mem_cons, List.mem_cons, List.mem_singleton] at signed
    rcases signed with rfl | rfl | rfl <;> rfl
  · change ∀ name ∈ ["host", "x-amz-content-sha256", "x-amz-date", "authorization",
      "content-encoding"], _
    decide

/-- The upload is read with its two lines. -/
theorem exists_uploaded_twoLines :
    ∃ request,
      Incoming.read (uploadMessage (twoLines suite first second)) none "id" = .ok request ∧
      request.headers = twoLines suite first second ∧ Uploaded suite request := by
  rcases exists_uploaded suite with ⟨plain, read, headers, uploaded⟩
  have hosted : (twoLines suite first second).contains "host" = true := by
    rcases exists_twoLines_eq suite first second with ⟨text, entries⟩
    rw [entries]
    rfl
  have same : ∀ name ∈ Incoming.authorizingHeaders,
      (twoLines suite first second).getFirst? name = (uploadHeaders suite).getFirst? name := by
    rcases exists_uploadHeaders_eq suite with ⟨text, entries⟩
    rw [twoLines, entries]
    intro name authorizing
    rw [Incoming.authorizingHeaders, List.mem_cons, List.mem_cons, List.mem_singleton] at authorizing
    rcases authorizing with rfl | rfl | rfl <;> rfl
  exact ⟨_, Incoming.read_congr (tidy_uploadHeaders suite) rfl (contains_host_uploadHeaders suite)
    (tidy_twoLines suite first second) rfl hosted same read, rfl,
    uploaded.withHeaders (shows_twoLines suite first second)⟩

variable {suite first second} {request : StoreRequest} (body : request.body = chunks)
  (headers : request.headers = twoLines suite first second)

include headers

theorem codingLines_of_twoLines : request.codingLines = [first, second] := by
  rcases exists_twoLines_eq suite first second with ⟨text, entries⟩
  rw [StoreRequest.codingLines, headers, entries]
  rfl

include body

/-- What is left of the codings is left of the first line. -/
theorem payload_of_twoLines (announced : Chunked.isAnnounced request.headers = true) :
    Outbound.payload suite request =
      .ok ([97], ⟨false, ("x-amz-content-sha256", [Signature.payloadHash suite [97]]) ::
        ((Chunked.otherCodings first).map fun text => ("content-encoding", [text])).toList⟩) := by
  rcases exists_twoLines_eq suite first second with ⟨text, entries⟩
  rw [entries] at headers
  have kept : Outbound.keptHeaders request.headers = ⟨false,
      [("x-amz-content-sha256", ["UNSIGNED-PAYLOAD"]), ("content-encoding", [first, second])]⟩ := by
    rw [headers]
    change (((MultiMap.empty false).add "x-amz-content-sha256" "UNSIGNED-PAYLOAD").add
      "content-encoding" first).add "content-encoding" second = _
    rfl
  have left : Outbound.remainingCodings request.headers = Chunked.otherCodings first := by
    rw [headers]
    rfl
  exact payload_of_lines body announced kept left

end TwoLines

/-- The headers of a body with two codings and a digest can be signed and sent. -/
theorem writable_codings {hash : String} (valid : Http.isFieldValue (Utf8.bytesOf hash) = true) :
    Writable (Outbound.addressed
      ⟨false, [("x-amz-content-sha256", [hash]), ("content-encoding", ["gzip, br"])]⟩
      "s3.r.amazonaws.com" date none) := by
  have headers : Outbound.addressed
      ⟨false, [("x-amz-content-sha256", [hash]), ("content-encoding", ["gzip, br"])]⟩
      "s3.r.amazonaws.com" date none =
        ⟨false, [("x-amz-content-sha256", [hash]), ("content-encoding", ["gzip, br"]),
          ("host", ["s3.r.amazonaws.com"]), ("x-amz-date", [date])]⟩ := rfl
  have names : (Signature.namesToSign
      ⟨false, [("x-amz-content-sha256", [hash]), ("content-encoding", ["gzip, br"]),
        ("host", ["s3.r.amazonaws.com"]), ("x-amz-date", [date])]⟩).Perm
      ["content-encoding", "host", "x-amz-content-sha256", "x-amz-date"] := by
    change ["x-amz-content-sha256", "content-encoding", "host", "x-amz-date"].Perm _
    decide
  have pairs : (⟨false, [("x-amz-content-sha256", [hash]), ("content-encoding", ["gzip, br"]),
      ("host", ["s3.r.amazonaws.com"]), ("x-amz-date", [date])]⟩ : MultiMap).pairs =
        ("x-amz-content-sha256", hash) :: [("content-encoding", "gzip, br"),
          ("host", "s3.r.amazonaws.com"), ("x-amz-date", date)] := rfl
  rw [headers]
  refine ⟨?_, ?_⟩
  · rw [signedHeaders_eq_of_perm names (by decide)]
    decide +kernel
  · rw [pairs, Outbound.fieldsFrom, valid]
    exact ⟨_, rfl⟩

end Client

namespace Pipeline

/-- Of the codings that the client's upload lists in two lines the store is told those that are
not for chunks, in their order. -/
theorem codings_of_client :
    ∃ request outbound after,
      Incoming.read (Client.uploadMessage
        (Client.twoLines .sha256 "aws-chunked, gzip,, br" "AWS-Chunked")) none "id" =
          .ok request ∧
      ((Client.pipeline .sha256).process request).perform Client.world = (.ok outbound, after) ∧
      Chunked.listed request.codingLines = ["aws-chunked", "gzip", "br", "AWS-Chunked"] ∧
      Chunked.listed outbound.codingLines = ["gzip", "br"] := by
  rcases Client.exists_uploaded_twoLines .sha256 "aws-chunked, gzip,, br" "AWS-Chunked" with
    ⟨request, read, headers, uploaded⟩
  have announced : Chunked.isAnnounced request.headers = true := by
    rcases Client.exists_twoLines_eq .sha256 "aws-chunked, gzip,, br" "AWS-Chunked" with
      ⟨text, entries⟩
    rw [headers, entries]
    rfl
  have left : Chunked.otherCodings "aws-chunked, gzip,, br" = some "gzip, br" := by
    decide +kernel
  have payload := Client.payload_of_twoLines uploaded.body headers announced
  rw [left] at payload
  rcases uploaded.exists_outbound
    (Client.writable_codings (Signature.isFieldValue_hexOfBytes _)) payload with
      ⟨outbound, after, accepted, _⟩
  have tidy := Client.tidy_twoLines .sha256 "aws-chunked, gzip,, br" "AWS-Chunked"
  have lines := Client.codingLines_of_twoLines headers
  rw [← headers] at tidy
  have insensitive : request.headers.caseSensitive = false := by
    rw [headers]
    rfl
  have codings := codings_of_first_line tidy.keyed insensitive announced accepted
  rw [lines] at codings
  refine ⟨request, outbound, after, read, accepted, ?_, ?_⟩
  · rw [lines]
    decide +kernel
  · rw [codings.2.2.mpr (by decide +kernel)]
    decide +kernel

/-- A coding that a client lists in a second line does not reach the store. -/
theorem coding_of_second_line_lost :
    ∃ request outbound after,
      Incoming.read (Client.uploadMessage (Client.twoLines .sha256 "aws-chunked" "gzip")) none
        "id" = .ok request ∧
      Chunked.isAnnounced request.headers = true ∧
      ((Client.pipeline .sha256).process request).perform Client.world = (.ok outbound, after) ∧
      request.codingLines = ["aws-chunked", "gzip"] ∧
      Chunked.withoutChunks (Chunked.listed request.codingLines) = ["gzip"] ∧
      Chunked.listed outbound.codingLines = [] ∧
      Chunked.listed outbound.codingLines ≠
        Chunked.withoutChunks (Chunked.listed request.codingLines) := by
  rcases Client.exists_uploaded_twoLines .sha256 "aws-chunked" "gzip" with
    ⟨request, read, headers, uploaded⟩
  have announced : Chunked.isAnnounced request.headers = true := by
    rcases Client.exists_twoLines_eq .sha256 "aws-chunked" "gzip" with ⟨text, entries⟩
    rw [headers, entries]
    rfl
  have left : Chunked.otherCodings "aws-chunked" = none := by
    decide +kernel
  have payload := Client.payload_of_twoLines uploaded.body headers announced
  rw [left] at payload
  rcases uploaded.exists_outbound
    (Client.writable_digest (Signature.isFieldValue_hexOfBytes _)) payload with
      ⟨outbound, after, accepted, _⟩
  have tidy := Client.tidy_twoLines .sha256 "aws-chunked" "gzip"
  have lines := Client.codingLines_of_twoLines headers
  rw [← headers] at tidy
  have insensitive : request.headers.caseSensitive = false := by
    rw [headers]
    rfl
  have kept : Chunked.withoutChunks (Chunked.listed ["aws-chunked", "gzip"]) = ["gzip"] := by
    decide +kernel
  have first : Chunked.withoutChunks (Chunked.listed ["aws-chunked"]) = [] := by
    decide +kernel
  have sent := (codingLines_of_process tidy.keyed insensitive announced accepted).1
  have unlisted : Chunked.listed outbound.codingLines = [] := by
    rw [sent, Outbound.listed_codingsLine]
    change Chunked.withoutChunks (Chunked.listed (request.codingLines.take 1)) = []
    rw [lines]
    exact first
  refine ⟨request, outbound, after, read, announced, accepted, lines, ?_, unlisted, ?_⟩
  · rw [lines, kept]
  · rw [unlisted, lines, kept]
    decide

end Pipeline

end SignedGateway
