import SignedGateway.Proofs.Gateway.Asking
import SignedGateway.Proofs.Gateway.Audit
import SignedGateway.Proofs.Http.Lines

namespace SignedGateway

/-!
# Answers that are passed on

What a store answers in full reaches the client with its status and its body, and with all of its
headers but those of the connection.  Two headers are the gateway's own, whatever the store has
put there.
-/

namespace GatewayService

variable {Outside : Type}

/-- Headers that the gateway gives to every answer. -/
def commonHeaders : List String :=
  ["x-amz-request-id", "server"]

/-- Headers in which the store is heard. -/
def isStoreHeader (name : String) : Bool :=
  !hopByHopHeaders.contains name && !commonHeaders.contains name

/-- An answer passes on a reply: it has the same status and body and, in the same order, the same
lines, except for the headers of the connection, which it has not, and the headers of the gateway,
which it has once each. -/
structure PassesOn (requestId : String) (reply answer : Http.Response) : Prop where
  status : answer.status = reply.status
  body : answer.body = reply.body
  lines : (Http.Fields.pairs answer.headers).filter (fun line => !commonHeaders.contains line.1) =
    (Http.Fields.pairs reply.headers).filter fun line => isStoreHeader line.1
  values : ∀ name, isStoreHeader (Text.lower name) = true →
    Http.Fields.get answer.headers name = Http.Fields.get reply.headers name
  names : ∀ name ∈ answer.headers.map Prod.fst,
    name ∈ commonHeaders ∨ isStoreHeader name = true ∧ name ∈ reply.headers.map Prod.fst
  identified :
    (Http.Fields.pairs answer.headers).filter (fun line => line.1 == "x-amz-request-id") =
      [("x-amz-request-id", Utf8.bytesOf requestId)]
  served : (Http.Fields.pairs answer.headers).filter (fun line => line.1 == "server") =
    [("server", Utf8.bytesOf "s3proxy")]

theorem lower_commonHeaders : ∀ name ∈ commonHeaders, Text.lower name = name := by
  decide +kernel

theorem filter_relayed (reply : Http.Response) :
    (relayed reply).headers.filter (fun field => !commonHeaders.contains field.1) =
      reply.headers.filter fun field => isStoreHeader field.1 := by
  rw [relayed, List.filter_filter]
  apply List.filter_congr
  intro field _
  exact Bool.and_comm _ _

/-- The lines of the gateway stand once each, and the other lines are those of the store. -/
theorem passesOn_withCommonHeaders (requestId : String) {reply : Http.Response}
    (tidy : Http.Fields.Tidy reply.headers) :
    PassesOn requestId reply (withCommonHeaders requestId (relayed reply)) := by
  rcases List.forall_mem_cons.mp lower_commonHeaders with ⟨lowerId, others⟩
  have lowerServer := List.forall_mem_singleton.mp others
  have tidyRelayed : Http.Fields.Tidy (relayed reply).headers := tidy.filter _
  have tidyIdentified := tidyRelayed.insert "x-amz-request-id" (Utf8.bytesOf requestId)
  have kept : (withCommonHeaders requestId (relayed reply)).headers.filter
      (fun field => !commonHeaders.contains field.1) =
        reply.headers.filter fun field => isStoreHeader field.1 := by
    rw [← filter_relayed]
    exact (Http.Fields.filter_insert_of_dropped (!commonHeaders.contains ·) lowerServer
      (by decide) _ _).trans
        (Http.Fields.filter_insert_of_dropped (!commonHeaders.contains ·) lowerId (by decide) _ _)
  have identified : (withCommonHeaders requestId (relayed reply)).headers.filter
      (fun field => field.1 == "x-amz-request-id") =
        [("x-amz-request-id", [Utf8.bytesOf requestId])] :=
    (Http.Fields.filter_insert_of_dropped (· == "x-amz-request-id") lowerServer (by decide)
      _ _).trans (Http.Fields.filter_insert_self tidyRelayed lowerId _)
  have served : (withCommonHeaders requestId (relayed reply)).headers.filter
      (fun field => field.1 == "server") = [("server", [Utf8.bytesOf "s3proxy"])] :=
    Http.Fields.filter_insert_self tidyIdentified lowerServer _
  refine ⟨rfl, rfl, ?_, fun name stores => ?_, fun name member => ?_, ?_, ?_⟩
  · rw [← Http.Fields.pairs_filter (!commonHeaders.contains ·), kept,
      Http.Fields.pairs_filter isStoreHeader]
  · have own : (!commonHeaders.contains (Text.lower name)) = true :=
      (Bool.and_eq_true_iff.mp stores).2
    rw [← Http.Fields.get_filter (!commonHeaders.contains ·) own, kept,
      Http.Fields.get_filter isStoreHeader stores]
  · rcases List.mem_map.mp member with ⟨field, present, rfl⟩
    by_cases common : field.1 ∈ commonHeaders
    · exact Or.inl common
    · have own : (!commonHeaders.contains field.1) = true := by
        rw [Bool.not_eq_true', ← Bool.not_eq_true, List.contains_iff_mem]
        exact common
      have stored : field ∈ reply.headers.filter fun field => isStoreHeader field.1 :=
        kept ▸ List.mem_filter.mpr ⟨present, own⟩
      rcases List.mem_filter.mp stored with ⟨sent, stores⟩
      exact Or.inr ⟨stores, List.mem_map_of_mem sent⟩
  · rw [← Http.Fields.pairs_filter (· == "x-amz-request-id"), identified]
    rfl
  · rw [← Http.Fields.pairs_filter (· == "server"), served]
    rfl

/-- No line of an answer belongs to the connection with the store. -/
theorem PassesOn.unconnected {requestId : String} {reply answer : Http.Response}
    (passes : PassesOn requestId reply answer) :
    ∀ name ∈ hopByHopHeaders, name ∉ answer.headers.map Prod.fst := by
  intro name hop member
  rcases passes.names name member with common | ⟨stores, _⟩
  · have apart : ∀ name ∈ hopByHopHeaders, name ∉ commonHeaders := by
      decide
    exact apart name hop common
  · rw [isStoreHeader, Bool.and_eq_true, Bool.not_eq_true', ← Bool.not_eq_true,
      List.contains_iff_mem] at stores
    exact stores.1 hop

/-- A client whose request has been forwarded gets what the store has answered in full: its status,
its body, and of its headers those in which the store is heard, with all of their values in order.
It is told nothing of the connection with the store, and who has answered, under which identifier,
once. -/
theorem reply_passed_on {service : GatewayService Outside} {arrival : Arrival}
    {world between after : World Outside} {request : StoreRequest} {outbound : OutboundRequest}
    {reply : Http.Response}
    (reads : service.readsAs (Supply.identifier world.supply) arrival = some request)
    (other : request.authorization.service ≠ SigningService.sts.name)
    (made : (service.pipeline.process request).perform (entered request world) =
      (.ok outbound, between))
    (answered : (service.transport.send outbound.method outbound.uri.render
      (Http.Fields.pairs outbound.headers) outbound.body).run between =
        (.answered reply true, after))
    (tidy : Http.Fields.Tidy reply.headers) :
    ∃ handled, ((service.handle arrival).run world).1 = some handled ∧
      PassesOn (Supply.identifier world.supply) reply handled.response ∧
      ∀ name ∈ hopByHopHeaders, name ∉ handled.response.headers.map Prod.fst := by
  have dispatched : (service.dispatch request).perform (entered request world) =
      ((Except.ok (relayed reply) : Except GatewayError Http.Response).mapError .failed, after) :=
    dispatch_of_answered other made answered
  have passes := passesOn_withCommonHeaders (Supply.identifier world.supply) tidy
  exact ⟨_, run_handle reads dispatched, passes, passes.unconnected⟩

end GatewayService

/-! ## Requests that can be sent -/

theorem MultiMap.mem_pairs_put {map : MultiMap} {key value : String} {pair : String × String}
    (member : pair ∈ (map.put key value).pairs) :
    pair ∈ map.pairs ∨ pair = (normalize map.caseSensitive key, value) := by
  rcases List.mem_flatMap.mp member with ⟨entry, stored, listed⟩
  rcases List.mem_map.mp listed with ⟨text, among, rfl⟩
  rcases mem_upsert stored with old | rfl | ⟨_, _, rfl⟩
  · exact Or.inl (List.mem_flatMap.mpr ⟨entry, old, List.mem_map_of_mem among⟩)
  · rw [List.mem_singleton.mp among]
    exact Or.inr rfl
  · rw [List.mem_singleton.mp among]
    exact Or.inr rfl

namespace Outbound

/-- Headers are written only if all of them may stand in a message. -/
theorem valid_of_fieldsFrom {pairs : List (String × String)} {fields made : Http.Fields}
    (writes : fieldsFrom fields pairs = .ok made) :
    ∀ pair ∈ pairs, Http.isFieldName pair.1 = true ∧
      Http.isFieldValue (Utf8.bytesOf pair.2) = true := by
  induction pairs generalizing fields with
  | nil => exact fun _ member => absurd member List.not_mem_nil
  | cons pair rest inductionHypothesis =>
      rcases pair with ⟨name, value⟩
      rw [fieldsFrom] at writes
      split_ifs at writes with badName badValue
      rw [Bool.not_eq_true', Bool.not_eq_false] at badName badValue
      exact List.forall_mem_cons.mpr ⟨⟨badName, badValue⟩, inductionHypothesis writes⟩

/-- The headers of what is made for the store can be sent. -/
theorem exists_fields_of_assemble {suite : Digest.Suite} {clock : Clock} {request : StoreRequest}
    {record : CredentialRecord} {credential : Credential} {role : Option SessionRole} {uri : Uri}
    {outbound : OutboundRequest}
    (made : assemble suite clock request record credential role uri = .ok outbound) :
    ∃ fields, Http.fieldsOfPairs (Http.Fields.pairs outbound.headers) = some fields := by
  rcases assemble_eq_ok made with ⟨authority, body, described, signed, describes, _, writes, _⟩
  rcases tidy_signable describes clock credential uri authority with ⟨tidy, insensitive⟩
  have written := (signedFields_eq tidy insensitive writes).1
  rcases Result.bind_eq_ok_iff.mp writes with ⟨fields, plain, finished⟩
  have headers := valid_of_fieldsFrom plain
  split_ifs at finished with valid
  have lower : MultiMap.normalize false "authorization" = "authorization" := by
    decide +kernel
  have named : Http.isFieldName "authorization" = true := by
    decide
  have sendable : (Http.Fields.pairs outbound.headers).all
      (fun line => Http.isFieldName line.1 && Http.isFieldValue line.2) = true := by
    rw [List.all_eq_true, written, Http.Fields.pairs_ofMap]
    intro line member
    rcases List.mem_map.mp member with ⟨pair, among, rfl⟩
    rw [Bool.and_eq_true]
    rcases MultiMap.mem_pairs_put among with header | rfl
    · exact headers pair header
    · rw [insensitive, lower]
      exact ⟨named, valid⟩
  exact ⟨_, if_pos sendable⟩

end Outbound

/-! ## A reply with its headers doubled -/

namespace Client

/-- Lines of a store that is heard twice under the names of the gateway. -/
def storeLines : List (String × List UInt8) :=
  [("Server", Utf8.bytesOf "store"), ("Set-Cookie", Utf8.bytesOf "a=1"),
   ("Connection", Utf8.bytesOf "close"), ("X-Amz-Request-Id", Utf8.bytesOf "theirs"),
   ("set-cookie", Utf8.bytesOf "b=2"), ("server", Utf8.bytesOf "cache"),
   ("x-amz-request-id", Utf8.bytesOf "again")]

def storeReply : Http.Response :=
  ⟨206, (Http.fieldsOfPairs storeLines).getD [], Utf8.bytesOf "part"⟩

theorem tidy_storeReply : Http.Fields.Tidy storeReply.headers := by
  have valid : (Http.fieldsOfPairs storeLines).isSome = true := by
    decide +kernel
  rcases Option.isSome_iff_exists.mp valid with ⟨fields, made⟩
  have held : storeReply.headers = fields := congrArg (Option.getD · []) made
  rw [held]
  exact Http.Fields.tidy_of_fieldsOfPairs made

/-- The client's gateway before a store that always gives this reply. -/
def storeService : GatewayService Unit :=
  ⟨pipeline .sha256, fun _ => pure (.answered storeReply true), none, 0⟩

/-- The client's message for the key `k`, on its arrival. -/
def storeArrival : Arrival :=
  ⟨"GET", (message .sha256 "k").uri, (message .sha256 "k").headers, .whole []⟩

/-- Of two servers and two identifiers that the store names, the client hears nothing; it gets both
cookies, and nothing about the connection. -/
theorem reply_passed_on_of_doubled_headers :
    ∃ handled, ((storeService.handle storeArrival).run Client.world).1 = some handled ∧
      handled.response.status = 206 ∧ handled.response.body = Utf8.bytesOf "part" ∧
      Http.Fields.get handled.response.headers "Set-Cookie" =
        [Utf8.bytesOf "a=1", Utf8.bytesOf "b=2"] ∧
      (Http.Fields.pairs handled.response.headers).filter (fun line => line.1 == "server") =
        [("server", Utf8.bytesOf "s3proxy")] ∧
      (Http.Fields.pairs handled.response.headers).filter
          (fun line => line.1 == "x-amz-request-id") =
        [("x-amz-request-id", Utf8.bytesOf (Supply.identifier Client.world.supply))] ∧
      "connection" ∉ handled.response.headers.map Prod.fst := by
  rcases exists_asked_under .sha256 "k" (Supply.identifier Client.world.supply) with
    ⟨request, read, asked⟩
  have reads : storeService.readsAs (Supply.identifier Client.world.supply) storeArrival =
      some request := by
    have other : GatewayService.isHealthCheck storeArrival = false := by
      decide +kernel
    unfold GatewayService.readsAs
    rw [other]
    change (Incoming.read (message .sha256 "k") none _).toOption = _
    rw [read]
    rfl
  have kind : request.authorization.service ≠ SigningService.sts.name := by
    have apart : SigningService.s3.name ≠ SigningService.sts.name := by
      decide
    rcases asked.back with ⟨day, back⟩
    rw [back.authorization]
    exact apart
  rcases asked.exists_outbound (by decide +kernel) with ⟨placed, outbound, _, made, _⟩
  have time : (GatewayService.entered request Client.world).now = clock.now := rfl
  rcases asked.exists_processed_unmapped placed made time with ⟨between, processed⟩
  rcases Outbound.exists_fields_of_assemble made with ⟨fields, sendable⟩
  have reached : (Wire.parse? outbound.uri.render).isSome = true := by
    rw [Outbound.uri_of_assemble made]
    decide +kernel
  rcases Option.isSome_iff_exists.mp reached with ⟨address, parsed⟩
  have answered : (storeService.transport.send outbound.method outbound.uri.render
      (Http.Fields.pairs outbound.headers) outbound.body).run between =
        (.answered storeReply true, between) := by
    unfold Http.Transport.send
    rw [parsed, sendable]
    rfl
  rcases GatewayService.reply_passed_on reads kind processed answered tidy_storeReply with
    ⟨handled, handles, passes, unconnected⟩
  refine ⟨handled, handles, passes.status, passes.body, ?_, passes.served, passes.identified,
    unconnected "connection" (by decide)⟩
  rw [passes.values "Set-Cookie" (by decide +kernel)]
  decide +kernel

end Client
end SignedGateway
