import SignedGateway.Proofs.Gateway.Asking
import SignedGateway.Proofs.Gateway.FailClosed
import SignedGateway.Proofs.Gateway.Routing
import SignedGateway.Proofs.Uri.Wire

namespace SignedGateway

/-!
# The address that is signed and the address that is reached

The signature of a request for the store is made over the path of its URI, and over the
parameters that its query was written for.  What is sent is the text of the URI, and a
client of the web takes it for an address with its dots resolved.  The path that is reached
is the one that was signed exactly if no segment of the bucket and the key is of dots: those
are not escaped, so a key such as `a/../k` is signed as it is, and `k` is what is reached.
-/

/-- No segment of the bucket and the key is `.` or `..`. -/
def Addressing.Undotted (addressing : Addressing) (bucket key : String) : Prop :=
  ∀ segment ∈ addressing.segmentsFor bucket key, segment ≠ "." ∧ segment ≠ ".."

instance (addressing : Addressing) (bucket key : String) :
    Decidable (addressing.Undotted bucket key) :=
  inferInstanceAs (Decidable (∀ segment ∈ addressing.segmentsFor bucket key, _))

namespace Wire

/-- The path that is reached when a path is written with a slash and a tail. -/
def resolvedPath (tail : String) : String :=
  "/" ++ Text.joinWith "/" (resolve (Text.splitOn '/' tail))

end Wire

namespace Addressing

section Reached

variable {addressing : Addressing}

theorem keptInPath_of_mem_pathFor {bucket key : String} :
    ∀ c ∈ (addressing.pathFor bucket key).toList, Wire.keptInPath c = true :=
  fun _ member => holds_of_mem_pathFor Wire.keptInPath (by decide +kernel) (by decide) member

/-- The path of an object is reached exactly if it has no dots to resolve. -/
theorem resolvedPath_eq_iff {bucket key tail : String}
    (path : addressing.pathFor bucket key = "/" ++ tail) :
    Wire.resolvedPath tail = "/" ++ tail ↔ addressing.Undotted bucket key := by
  rw [pathFor_eq, String.append_right_inj] at path
  have nonempty : (addressing.segmentsFor bucket key).map Uri.Percent.encode ≠ [] :=
    mt List.map_eq_nil_iff.mp segmentsFor_ne_nil
  have free : ∀ part ∈ (addressing.segmentsFor bucket key).map Uri.Percent.encode,
      '/' ∉ part.toList := by
    intro part member
    rcases List.mem_map.mp member with ⟨segment, _, rfl⟩
    exact Uri.Percent.not_mem_encode (by decide) segment
  rw [Wire.resolvedPath, String.append_right_inj, ← path,
    Text.splitOn_joinWith Text.toList_slash nonempty free, Wire.joinWith_resolve_iff nonempty free,
    List.forall_mem_map]
  exact forall₂_congr fun segment _ => Wire.names_encode_iff

theorem web_scheme : addressing.scheme = "http" ∨ addressing.scheme = "https" := by
  rw [scheme]
  split_ifs
  · exact Or.inr rfl
  · exact Or.inl rfl

/-- A client of the web reaches the path of an endpoint with its dots resolved, and asks with
its query. -/
theorem reached {target : StoreTarget} {uri : Uri} {address : Wire.Address}
    (plainQuery : ∀ text ∈ target.query, ∀ c ∈ text.toList, Uri.isQueryChar c = true)
    (keptQuery : ∀ text ∈ target.query, ∀ c ∈ text.toList, Wire.keptInQuery c = true)
    (found : addressing.endpoint target = .ok uri)
    (parsed : Wire.parse? uri.render = some address) :
    ∃ tail, uri.path = "/" ++ tail ∧ address.path = Wire.resolvedPath tail ∧
      address.query = uri.query := by
  rcases (endpoint_eq_ok_iff plainQuery).mp found with ⟨_, authority, read, rfl⟩
  rcases Uri.Authority.keptInAuthority_of_parse read with ⟨nonempty, host⟩
  have keptPath := @keptInPath_of_mem_pathFor addressing target.bucket target.key
  rw [pathFor_eq] at parsed keptPath ⊢
  generalize Text.joinWith "/"
    ((addressing.segmentsFor target.bucket target.key).map Uri.Percent.encode) = tail at *
  have place : ∀ c ∈ tail.toList, Wire.keptInPath c = true := by
    intro c member
    apply keptPath c
    rw [String.toList_append]
    exact List.mem_append_right _ member
  have asked : ∀ text ∈ target.query.filter (· != ""), ∀ c ∈ text.toList,
      Wire.keptInQuery c = true :=
    fun text given => keptQuery text (Option.filter_eq_some_iff.mp given).1
  rcases Wire.eq_of_parse?_absolute web_scheme nonempty host place asked parsed with
    ⟨segments, kept⟩
  refine ⟨tail, rfl, ?_, kept⟩
  rw [Wire.Address.path, segments]
  rfl

end Reached

end Addressing

namespace Outbound

theorem keptInQuery_of_mem_targetOf (request : StoreRequest) :
    ∀ text ∈ (targetOf request).query, ∀ c ∈ text.toList, Wire.keptInQuery c = true := by
  intro text given c member
  rw [targetOf] at given
  dsimp only at given
  by_cases bare : (parameters request.query).pairs = []
  · rw [render?_of_no_pairs bare] at given
    cases given
  · rw [render?_of_pairs bare, Option.mem_some_iff] at given
    rw [← given] at member
    exact Uri.Query.holds_of_mem_renderPairs Wire.keptInQuery (by decide +kernel) (by decide)
      (by decide) member

/-- What is reached is what was signed exactly if neither the bucket nor the key has a segment
of dots, and the parameters that were signed are found in the query. -/
theorem reached_as_signed_iff {addressing : Addressing} {request : StoreRequest} {uri : Uri}
    {address : Wire.Address} (placed : addressing.endpoint (targetOf request) = .ok uri)
    (parsed : Wire.parse? uri.render = some address) :
    address.path = uri.path ∧
        Uri.Query.parse (address.query.getD "") = parameters request.query ↔
      addressing.Undotted request.bucket request.key ∧
        ("", "") ∉ (parameters request.query).pairs := by
  rcases Addressing.reached (isQueryChar_of_mem_targetOf request)
    (keptInQuery_of_mem_targetOf request) placed parsed with ⟨tail, path, reached, asked⟩
  have whole := Addressing.path_of_endpoint placed
  rw [asked, parse_query_eq_iff placed, reached, path,
    Addressing.resolvedPath_eq_iff (whole.symm.trans path)]
  rfl

end Outbound

namespace GatewayService

variable {Outside : Type}

/-- A request that was prepared for the store is signed over the path of its URI and the
parameters that were asked for.  Whatever service forwards it, and whatever world it is
forwarded in, nothing is sent but to the address that the text of the URI is taken for.  There
the path and the parameters are the ones that were signed exactly if neither the bucket nor the
key has a segment of dots and no parameter is without a name and a value. -/
theorem sent_as_signed {suite : Digest.Suite} {maxDrift : Nat} {general : EndpointRule Outside}
    {connection : Connection Outside} {record : CredentialRecord} {request : StoreRequest}
    {world after : World Outside} {outbound : OutboundRequest} {addressing : Addressing}
    (addressed : connection.endpoint.getD general = addressing.rule)
    (prepared : (Outbound.prepare suite maxDrift general connection record request).perform world =
      (.ok outbound, after)) :
    outbound.SignedOver suite connection.credential outbound.uri.path
        (Outbound.parameters request.query) ∧
      (∀ (service : GatewayService Outside) start,
        ((service.watched.forward outbound).perform start).2.calls = start.calls ∨
          ∃ sent exchange, Wire.parse? outbound.uri.render = some sent.address ∧
            ((service.watched.forward outbound).perform start).2.calls =
              start.calls ++ [.send sent exchange]) ∧
      ∀ address, Wire.parse? outbound.uri.render = some address →
        (address.path = outbound.uri.path ∧
            Uri.Query.parse (address.query.getD "") = Outbound.parameters request.query ↔
          addressing.Undotted request.bucket request.key ∧
            ("", "") ∉ (Outbound.parameters request.query).pairs) := by
  unfold Outbound.prepare at prepared
  rw [addressed] at prepared
  rcases Attempt.perform_bind_eq_ok prepared with ⟨uri, between, found, dated⟩
  rcases Attempt.perform_bind_eq_ok dated with ⟨now, later, _, assembled⟩
  rw [Attempt.perform_ofExcept, Prod.mk.injEq] at assembled
  have made := Result.mapError_eq_ok_iff.mp assembled.1
  have sameUri := Outbound.uri_of_assemble made
  have signed := Outbound.signedOver_of_assemble made
  have placed := Addressing.endpoint_of_rule found
  rw [← sameUri] at signed placed
  refine ⟨signed, fun service start => ?_, fun address parsed =>
    Outbound.reached_as_signed_iff placed parsed⟩
  rcases service.calls_forward outbound start with quiet | ⟨sent, exchange, carries, calls⟩
  · exact Or.inl quiet
  · exact Or.inr ⟨sent, exchange, carries.2.1, calls⟩

/-- What a client asks for by the key `k` reaches the store as it was signed. -/
theorem sent_as_signed_of_client :
    ∃ request outbound after address,
      Incoming.read (Client.message .sha256 "k") none "id" = .ok request ∧
      (Outbound.prepare .sha256 Client.clock.maxDrift Addressing.standard.rule
        (⟨Client.storeCredential, none, none⟩ : Connection Unit) Client.record request).perform
          Client.world = (.ok outbound, after) ∧
      Wire.parse? outbound.uri.render = some address ∧
      address.path = outbound.uri.path ∧
      Uri.Query.parse (address.query.getD "") = Outbound.parameters request.query := by
  rcases Client.exists_asked .sha256 "k" with ⟨request, read, asked⟩
  rcases asked.exists_outbound (by decide +kernel) with ⟨placed, outbound, _, made, _⟩
  have prepared : (Outbound.prepare .sha256 Client.clock.maxDrift Addressing.standard.rule
      (⟨Client.storeCredential, none, none⟩ : Connection Unit) Client.record request).perform
        Client.world = (.ok outbound, Client.world) :=
    Pipeline.perform_prepare rfl placed made
  have reached : Wire.parse? outbound.uri.render =
      some ⟨"https", "s3.r.amazonaws.com", none, ["b", "k"], some "acl"⟩ := by
    rw [Outbound.uri_of_assemble made]
    decide +kernel
  have filled : ("", "") ∉ (Outbound.parameters request.query).pairs := by
    rw [asked.query]
    decide +kernel
  have undotted : Addressing.standard.Undotted request.bucket request.key := by
    rw [asked.bucket_eq, asked.key_eq]
    decide +kernel
  have addressed : (⟨Client.storeCredential, none, none⟩ : Connection Unit).endpoint.getD
      Addressing.standard.rule = Addressing.standard.rule := by
    dsimp only [Option.getD_none]
  rcases sent_as_signed addressed prepared with ⟨_, _, same⟩
  have wire := (same _ reached).mpr ⟨undotted, filled⟩
  refine ⟨request, outbound, Client.world, _, ?_, ?_, reached, wire⟩
  · exact read
  · exact prepared

/-- A key with dots is signed as it is, and another object is reached. -/
theorem sent_not_as_signed_of_dots :
    ∃ request outbound after address,
      Incoming.read (Client.message .sha256 "a/../k") none "id" = .ok request ∧
      ((Client.pipeline .sha256).process request).perform Client.world = (.ok outbound, after) ∧
      outbound.SignedOver .sha256 Client.storeCredential "/b/a/../k"
        (Outbound.parameters request.query) ∧
      Wire.parse? outbound.uri.render = some address ∧ address.path = "/b/k" := by
  rcases Client.exists_asked .sha256 "a/../k" with ⟨request, read, asked⟩
  rcases asked.exists_outbound (by decide +kernel) with ⟨_, outbound, after, made, accepted⟩
  have signed := Outbound.signedOver_of_assemble made
  have path : (Client.place "a/../k").path = "/b/a/../k" := by
    decide +kernel
  rw [path] at signed
  refine ⟨request, outbound, after,
    ⟨"https", "s3.r.amazonaws.com", none, ["b", "k"], some "acl"⟩, ?_, ?_, ?_, ?_, ?_⟩
  · exact read
  · exact accepted
  · exact signed
  · rw [Outbound.uri_of_assemble made]
    decide +kernel
  · decide +kernel

end GatewayService

end SignedGateway
