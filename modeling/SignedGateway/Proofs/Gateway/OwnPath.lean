import SignedGateway.Proofs.Gateway.Asking
import SignedGateway.Proofs.Gateway.FailureStatus
import SignedGateway.Proofs.Signature.SignedPath
import SignedGateway.Proofs.Text.Blank

namespace SignedGateway

/-!
# The gateway's own path

A gateway that answers below a path of its own takes that path off where a segment ends,
and nowhere else.  What follows is treated as if the gateway answered at the root, and the
own path alone is treated like the root.  Everything else lies outside, also a path that
goes on without a slash, as `/proxyx` does after `/proxy`.

The setting may have any number of slashes at its ends.  What is derived from it has one
in front and none behind, so that taking it off leaves the slash that the rest begins
with.
-/

/-! ## Which paths lie below -/

namespace Route

/-- A path that can be taken off other paths: it is not empty and ends with a segment. -/
structure IsOwnPath (ownPath : String) : Prop where
  nonempty : ownPath ≠ ""
  ends : ownPath.toList.getLast? ≠ some '/'

/-- The object that a path names for a gateway with this own path. -/
def objectAt (ownPath : Option String) (path : String) : Option (String × String) :=
  (below ownPath path).map bucketAndKey

theorem objectAt_none (path : String) : objectAt none path = some (bucketAndKey path) := rfl

namespace IsOwnPath

variable {ownPath path routed : String} (own : IsOwnPath ownPath)

include own

/-- There is nothing to trim, so the own path itself is taken off. -/
theorem below_append_eq (rest : String) :
    below (some ownPath) (ownPath ++ rest) =
      if rest = "" then some "/" else if Text.startsWith "/" rest then some rest else none := by
  have after : Text.afterHead ownPath (ownPath ++ rest) = some rest :=
    Text.afterHead_eq_some_iff.mpr rfl
  unfold below
  dsimp only
  rw [Option.getD_some, Text.trimMarkEnd_eq_self own.ends, if_neg own.nonempty, after]

theorem below_self : below (some ownPath) ownPath = some "/" := by
  have taken := own.below_append_eq ""
  rwa [String.append_empty, if_pos rfl] at taken

theorem below_append (slash : Text.startsWith "/" routed = true) :
    below (some ownPath) (ownPath ++ routed) = some routed := by
  have nonempty : routed ≠ "" := by
    rintro rfl
    cases slash
  rw [own.below_append_eq, if_neg nonempty, if_pos slash]

/-- The paths below are the own path and those that go on after it with a slash. -/
theorem below_eq_some_iff :
    below (some ownPath) path = some routed ↔
      path = ownPath ∧ routed = "/" ∨
        Text.startsWith "/" routed = true ∧ path = ownPath ++ routed := by
  constructor
  · intro accepted
    have head : Text.trimMarkEnd '/' ((some ownPath).getD "") = ownPath :=
      Text.trimMarkEnd_eq_self own.ends
    rcases below_eq_some accepted with ⟨noHead, _⟩ | ⟨_, root | ⟨rest, whole, routedRest⟩⟩
    · exact absurd (head.symm.trans noHead) own.nonempty
    · rw [head] at root
      exact Or.inl root
    · -- The slash between the own path and the rest is routed with the rest.
      rw [head, String.append_assoc, ← routedRest] at whole
      exact Or.inr ⟨Text.startsWith_iff.mpr ⟨rest, routedRest⟩, whole⟩
  · rintro (⟨rfl, rfl⟩ | ⟨slash, rfl⟩)
    · exact own.below_self
    · exact own.below_append slash

theorem below_eq_none (other : path ≠ ownPath)
    (leaves : Text.startsWith (ownPath ++ "/") path = false) : below (some ownPath) path = none := by
  rw [Option.eq_none_iff_forall_ne_some]
  intro routed accepted
  rcases own.below_eq_some_iff.mp accepted with ⟨same, _⟩ | ⟨slash, rfl⟩
  · exact other same
  · rcases Text.startsWith_iff.mp slash with ⟨rest, rfl⟩
    have goesOn : Text.startsWith (ownPath ++ "/") (ownPath ++ ("/" ++ rest)) = true :=
      Text.startsWith_iff.mpr ⟨rest, String.append_assoc.symm⟩
    rw [goesOn] at leaves
    cases leaves

end IsOwnPath
end Route

/-! ## What is derived from the setting -/

namespace GatewaySettings

theorem ownPathOf_of_named {value : String} (named : ∃ c ∈ value.toList, c ≠ '/') :
    ownPathOf value = some ("/" ++ Text.trimMark '/' value) := by
  have left : Text.trimMark '/' value ≠ "" := by
    intro empty
    rcases named with ⟨c, member, other⟩
    exact other (Text.trimMark_eq_empty_iff.mp empty c member)
  unfold ownPathOf
  dsimp only
  rw [if_neg left]

theorem isOwnPath_of_ownPathOf {value ownPath : String} (derived : ownPathOf value = some ownPath) :
    Route.IsOwnPath ownPath := by
  unfold ownPathOf at derived
  dsimp only at derived
  split_ifs at derived with empty
  cases derived
  have filled : (Text.trimMark '/' value).toList ≠ [] := mt String.toList_eq_nil_iff.mp empty
  refine ⟨by simp, ?_⟩
  -- The slash in front is not the last character, because something follows it.
  rw [String.toList_append, List.getLast?_append_of_ne_nil _ filled]
  exact Text.getLast?_trimMark '/' value

end GatewaySettings

/-! ## Reading messages below -/

/-- The same message for another path. -/
def Http.Request.withPath (message : Http.Request) (path : String) : Http.Request :=
  { message with uri := { message.uri with target := some ⟨path, message.uri.query⟩ } }

namespace Incoming

variable (message : Http.Request) {ownPath : Option String}

/-- What lies below is read as if the gateway answered at the root.  Only the path that was
signed is kept as it came. -/
theorem read_of_below_eq_some {routed : String}
    (accepted : Route.below ownPath message.uri.path = some routed) (requestId : String) :
    read message ownPath requestId =
      (read (message.withPath routed) none requestId).map fun request =>
        { request with rawPath := message.uri.path } := by
  have sameHeaders : headersOf (message.withPath routed) = headersOf message := rfl
  have sameQuery : queryOf (message.withPath routed) = queryOf message := rfl
  have whole : Route.below none (message.withPath routed).uri.path = some routed := rfl
  -- Who signed the request does not depend on the path, so both readings fail or succeed alike.
  unfold read
  dsimp only
  rw [accepted, whole, sameHeaders, sameQuery]
  dsimp only
  cases authorize (headersOf message) (Uri.Query.parse ((queryOf message).getD "")) <;> rfl

/-- Of what is read only the object depends on the path. -/
theorem read_withPath_of_ok {requestId : String} {request : StoreRequest}
    (done : read message none requestId = .ok request) (path : String) :
    read (message.withPath path) none requestId =
      .ok { request with
        bucket := (Route.bucketAndKey path).1
        key := (Route.bucketAndKey path).2
        rawPath := path } := by
  rcases read_eq_ok_iff.mp done with ⟨_, authorization, date, _, authorized, rfl⟩
  exact read_eq_ok_iff.mpr ⟨path, authorization, date, rfl, authorized, rfl⟩

theorem read_of_below_eq_none (outside : Route.below ownPath message.uri.path = none)
    (requestId : String) :
    read message ownPath requestId = .error (outsideError message.uri.path) := by
  unfold read
  dsimp only
  rw [outside]

end Incoming

/-! ## Serving messages outside -/

namespace GatewayService

variable {Outside : Type} {service : GatewayService Outside} {arrival : Arrival}
  (outside : Route.below service.ownPath arrival.uri.path = none)

include outside

theorem read_of_outside (body : List UInt8) (requestId : String) :
    Incoming.read ⟨arrival.method, arrival.uri, arrival.headers, body⟩ service.ownPath requestId =
      .error (Incoming.outsideError arrival.uri.path) :=
  Incoming.read_of_below_eq_none ⟨arrival.method, arrival.uri, arrival.headers, body⟩ outside
    requestId

theorem readsAs_of_outside (requestId : String) : service.readsAs requestId arrival = none := by
  unfold readsAs
  split_ifs with health
  · rfl
  · cases acceptBody service.maxBody arrival.body with
    | error error => rfl
    | ok body =>
        dsimp only
        rw [read_of_outside outside]
        rfl

theorem status_of_outside {body : List UInt8} (other : isHealthCheck arrival = false)
    (accepted : acceptBody service.maxBody arrival.body = .ok body) (world : World Outside) :
    ∃ handled, ((service.handle arrival).run world).1 = some handled ∧
      handled.response.status = 404 := by
  have fails : service.Fails arrival world (Incoming.outsideError arrival.uri.path) :=
    .message other accepted (read_of_outside outside body (Supply.identifier world.supply))
  exact fails.status

end GatewayService

/-! ## The whole of a gateway below its own path -/

namespace Route

variable {ownPath path routed : String}

/-- A path is treated like another one where there is no own path: both name the same object,
and a message makes the same request, but for the path that it came with. -/
structure TreatedLike (ownPath path routed : String) : Prop where
  sameObject : objectAt (some ownPath) path = objectAt none routed
  sameRequest : ∀ message requestId, message.uri.path = path →
    Incoming.read message (some ownPath) requestId =
      (Incoming.read (message.withPath routed) none requestId).map fun request =>
        { request with rawPath := path }

/-- A path is refused: it names no object, and a message for it makes no request.  A gateway
asks nobody about such a message, and its client is told that nothing was found, unless the
message asks for the gateway's health or its body is refused before. -/
structure Refused (ownPath path : String) : Prop where
  noObject : objectAt (some ownPath) path = none
  notFound : ∀ message requestId, message.uri.path = path →
    Incoming.read message (some ownPath) requestId =
      .error (.notFound .noSuchBucket (path ++ " is outside the proxied path"))
  unasked : ∀ {Outside : Type} (service : GatewayService Outside) (arrival : Arrival) world,
    service.ownPath = some ownPath → arrival.uri.path = path →
      ((service.watched.handle arrival).run world).2.calls = world.calls
  answered : ∀ {Outside : Type} (service : GatewayService Outside) (arrival : Arrival) body world,
    service.ownPath = some ownPath → arrival.uri.path = path →
      GatewayService.isHealthCheck arrival = false →
      GatewayService.acceptBody service.maxBody arrival.body = .ok body →
      ∃ handled, ((service.handle arrival).run world).1 = some handled ∧
        handled.response.status = 404

theorem treatedLike_of_below (accepted : below (some ownPath) path = some routed) :
    TreatedLike ownPath path routed where
  sameObject := by
    rw [objectAt_none, objectAt, accepted, Option.map_some]
  sameRequest := by
    rintro message requestId rfl
    exact Incoming.read_of_below_eq_some message accepted requestId

theorem refused_of_below (outside : below (some ownPath) path = none) : Refused ownPath path where
  noObject := by
    rw [objectAt, outside, Option.map_none]
  notFound := by
    rintro message requestId rfl
    exact Incoming.read_of_below_eq_none message outside requestId
  unasked := by
    rintro Outside service arrival world placed rfl
    rw [← placed] at outside
    exact GatewayService.calls_handle_of_not_reads (GatewayService.readsAs_of_outside outside _)
  answered := by
    rintro Outside service arrival body world placed rfl other accepted
    rw [← placed] at outside
    exact GatewayService.status_of_outside outside other accepted world

end Route

namespace GatewaySettings

/-- A setting that is not made of slashes only gives the gateway an own path.  A path that goes
on after it with a slash is treated like what follows, the own path alone like the root, and
every other path is refused. -/
theorem answers_below_own_path {environment : Environment} {value : String}
    (set : environment.get? "PATH_PREFIX" = some value) (named : ∃ c ∈ value.toList, c ≠ '/') :
    ∃ ownPath, (fromEnvironment environment).ownPath = some ownPath ∧
      (∀ path, Text.startsWith "/" path = true →
        Route.TreatedLike ownPath (ownPath ++ path) path) ∧
      Route.TreatedLike ownPath ownPath "/" ∧
      ∀ path, path ≠ ownPath → Text.startsWith (ownPath ++ "/") path = false →
        Route.Refused ownPath path := by
  have derived := ownPathOf_of_named named
  have own := isOwnPath_of_ownPathOf derived
  refine ⟨"/" ++ Text.trimMark '/' value, ?_, ?_, ?_, ?_⟩
  · rw [← derived]
    unfold fromEnvironment
    dsimp only
    rw [set, Option.bind_some]
  · intro path slash
    exact Route.treatedLike_of_below (own.below_append slash)
  · exact Route.treatedLike_of_below own.below_self
  · intro path other leaves
    exact Route.refused_of_below (own.below_eq_none other leaves)

/-- An environment whose setting has slashes at both ends and two in its middle. -/
def slashed : Environment where
  find? name := if name = "S3PROXY_PATH_PREFIX" then some "//proxy//s3/" else none

/-- Two slashes after the own path leave the bucket empty, the own path alone names no bucket,
what a client asks for below is read, and where a word goes on no segment ends. -/
theorem answers_below_doubled_slashes :
    slashed.get? "PATH_PREFIX" = some "//proxy//s3/" ∧ (∃ c ∈ "//proxy//s3/".toList, c ≠ '/') ∧
      (fromEnvironment slashed).ownPath = some "/proxy//s3" ∧
      Route.objectAt (some "/proxy//s3") "/proxy//s3//b/k" = some ("", "b/k") ∧
      Route.objectAt (some "/proxy//s3") "/proxy//s3" = some ("", "") ∧
      (∃ request,
        Incoming.read (Client.asking .sha256 "/proxy//s3/b/k%2F1" "acl") (some "/proxy//s3") "id" =
          .ok request ∧
        request.bucket = "b" ∧ request.key = "k/1" ∧ request.rawPath = "/proxy//s3/b/k%2F1") ∧
      Route.Refused "/proxy//s3" "/proxy//s3x/b" := by
  have set : slashed.get? "PATH_PREFIX" = some "//proxy//s3/" := by
    decide +kernel
  have named : ∃ c ∈ "//proxy//s3/".toList, c ≠ '/' :=
    ⟨'p', by decide +kernel, by decide⟩
  have derived : (fromEnvironment slashed).ownPath = some "/proxy//s3" := by
    decide +kernel
  rcases answers_below_own_path set named with ⟨ownPath, found, deeper, root, outside⟩
  rw [derived, Option.some.injEq] at found
  subst found
  refine ⟨set, named, derived, ?_, ?_, ?_, ?_⟩
  · have below := deeper "//b/k" (by decide +kernel)
    exact below.sameObject.trans (by decide +kernel)
  · rw [root.sameObject]
    decide +kernel
  · have below := deeper "/b/k%2F1" (by decide +kernel)
    rcases Client.exists_heard .sha256 "/proxy//s3/b/k%2F1" (by decide : "acl" ≠ "") with
      ⟨_, read, _⟩
    have routed := below.sameRequest (Client.asking .sha256 "/proxy//s3/b/k%2F1" "acl") "id" rfl
    rw [Incoming.read_withPath_of_ok _ read "/b/k%2F1"] at routed
    have object : Route.bucketAndKey "/b/k%2F1" = ("b", "k/1") := by
      decide +kernel
    exact ⟨_, routed, congrArg Prod.fst object, congrArg Prod.snd object, rfl⟩
  · exact outside "/proxy//s3x/b" (by decide +kernel) (by decide +kernel)

end GatewaySettings
end SignedGateway
