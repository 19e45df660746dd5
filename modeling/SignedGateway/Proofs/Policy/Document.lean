import SignedGateway.Policy.Server
import SignedGateway.Proofs.Incoming.Request
import SignedGateway.Proofs.Json.Fields
import SignedGateway.Proofs.MultiMap.Selection
import SignedGateway.Proofs.Signature.Header
import SignedGateway.Proofs.Text.Utf8
import SignedGateway.Proofs.Uri.Query

namespace SignedGateway

/-!
# What a policy server learns

The document for a policy server is made from a request and from what the request was verified
with.  It names the client by its access key and shows nothing of either credential beyond that,
and no header goes into it.  Parameters do, all of them.  One of these may be the token that
comes with a presigned request, so that two documents that may differ only in secrets are the
same exactly if this parameter is.
-/

/-! ## What is left without secrets -/

/-- The credential without its secret key and its token. -/
def Credential.bare (credential : Credential) : Credential :=
  { credential with secretKey := "", session := none }

/-- The record without the secret keys and the tokens of either credential. -/
def CredentialRecord.bare (record : CredentialRecord) : CredentialRecord :=
  { record with emulated := record.emulated.bare, remote := record.remote.map Credential.bare }

def SigningContext.bare (context : SigningContext) : SigningContext :=
  { context with record := context.record.bare }

namespace Http

/-- The parameter that holds the token of a presigned request. -/
def tokenParameter : String := "X-Amz-Security-Token"

/-- The parameters of a message, in order. -/
def Request.parameters (message : Request) : List (String × String) :=
  Uri.Query.parsePairs (message.uri.query.getD "")

/-- Two messages ask for the same, and name the same parameters but for tokens.  Their headers and
bodies may be whatever they are. -/
structure AlikeButTokens (left right : Request) : Prop where
  method : left.method = right.method
  path : left.uri.path = right.uri.path
  parameters : (left.parameters.filter fun pair => pair.1 != tokenParameter) =
    right.parameters.filter fun pair => pair.1 != tokenParameter

end Http

/-! ## Parameters in a document -/

namespace Json

theorem lookup_map_snd {α β : Type} (change : α → β) (entries : List (String × α)) (name : String) :
    (entries.map fun entry => (entry.1, change entry.2)).lookup name =
      (entries.lookup name).map change := by
  induction entries with
  | nil => rfl
  | cons entry rest inductionHypothesis =>
      rw [List.map_cons, List.lookup_cons, List.lookup_cons, inductionHypothesis]
      cases name == entry.1 <;> rfl

theorem ofStrings_injective : Function.Injective ofStrings := by
  intro left right same
  apply List.map_injective_iff.mpr _ (array.inj same)
  intro first second equal
  exact text.inj equal

end Json

namespace Policy

/-- The parameters as they stand in a document. -/
def queryDocument (query : MultiMap) : Json :=
  Json.ofFields (query.entries.map fun entry => (entry.1, Json.ofStrings entry.2))

theorem field?_queryDocument {query : MultiMap} (tidy : query.Tidy) (name : String) :
    (queryDocument query).field? name = (query.entries.lookup name).map Json.ofStrings := by
  have distinct : ((query.entries.map fun entry => (entry.1, Json.ofStrings entry.2)).map
      Prod.fst).Nodup := by
    rw [List.map_map]
    exact tidy.distinct
  rw [queryDocument, Json.field?_ofFields, Json.lookup_reverse distinct, Json.lookup_map_snd]

/-- The document of parameters shows the values of each of them. -/
theorem queryDocument_eq_iff (left right : List (String × String)) :
    queryDocument (MultiMap.ofPairs true left) = queryDocument (MultiMap.ofPairs true right) ↔
      ∀ name, (MultiMap.ofPairs true left).get name = (MultiMap.ofPairs true right).get name := by
  have tidy (pairs : List (String × String)) : (MultiMap.ofPairs true pairs).Tidy :=
    MultiMap.tidy_ofPairs true pairs
  constructor
  · intro same name
    have shown := congrArg (Json.field? name) same
    rw [field?_queryDocument (tidy left), field?_queryDocument (tidy right)] at shown
    have held := Option.map_injective Json.ofStrings_injective shown
    rw [MultiMap.get_eq, MultiMap.get_eq, MultiMap.ofPairs_caseSensitive,
      MultiMap.ofPairs_caseSensitive]
    exact congrArg (Option.getD · []) held
  · intro same
    have held (name : String) : (MultiMap.ofPairs true left).entries.lookup name =
        (MultiMap.ofPairs true right).entries.lookup name := by
      have values := same name
      rw [MultiMap.get_ofPairs, MultiMap.get_ofPairs] at values
      change MultiMap.valuesUnder true left name = MultiMap.valuesUnder true right name at values
      rw [MultiMap.lookup_ofPairs, MultiMap.lookup_ofPairs, values]
    have field (name : String) := (field?_queryDocument (tidy left) name).trans
      ((congrArg (Option.map Json.ofStrings) (held name)).trans
        (field?_queryDocument (tidy right) name).symm)
    apply Json.ofFields_eq_iff.mpr
    intro name
    rw [← Json.field?_ofFields, ← Json.field?_ofFields]
    exact field name

/-- Where all other parameters are the same, the values of one tell whether all are. -/
theorem get_eq_iff_of_filter_eq {left right : List (String × String)} {own : String}
    (others : (left.filter fun pair => pair.1 != own) = right.filter fun pair => pair.1 != own) :
    (∀ name, (MultiMap.ofPairs true left).get name = (MultiMap.ofPairs true right).get name) ↔
      (MultiMap.ofPairs true left).get own = (MultiMap.ofPairs true right).get own := by
  have kept (pairs : List (String × String)) {name : String} (other : name ≠ own) :
      (MultiMap.ofPairs true pairs).get name =
        MultiMap.valuesUnder true (pairs.filter fun pair => pair.1 != own) name := by
    have spared := @MultiMap.valuesUnder_filter true pairs (fun key => key != own) name
      fun _ _ => rfl
    rw [if_pos (bne_iff_ne.mpr other)] at spared
    rw [MultiMap.get_ofPairs]
    exact spared.symm
  constructor
  · intro all
    exact all own
  · intro same name
    by_cases isOwn : name = own
    · rw [isOwn, same]
    · rw [kept left isOwn, kept right isOwn, others]

/-! ## Documents -/

/-- The parameters stand in the document of their request. -/
theorem query_documentFor (request : StoreRequest) (context : SigningContext)
    (action : Option String) :
    ((documentFor request context action).field? "request").bind (Json.field? "query") =
      some (queryDocument request.query) := by
  rw [documentFor, Json.field?_ofFields]
  change (requestDocument request action).field? "query" = _
  rw [requestDocument, Json.field?_ofFields]
  rfl

/-- Two documents are the same exactly if they show the same parameters, when nothing else in
the requests tells them apart. -/
theorem documentFor_eq_iff {left right : StoreRequest} {leftContext rightContext : SigningContext}
    (sameId : left.requestId = right.requestId) (sameMethod : left.method = right.method)
    (sameBucket : left.bucket = right.bucket) (sameKey : left.key = right.key)
    (samePath : left.rawPath = right.rawPath) (sameContext : leftContext.bare = rightContext.bare)
    (action : Option String) :
    documentFor left leftContext action = documentFor right rightContext action ↔
      queryDocument left.query = queryDocument right.query := by
  have accessKey : leftContext.record.emulated.accessKey = rightContext.record.emulated.accessKey :=
    (congrArg (fun context : SigningContext => context.record.emulated.accessKey) sameContext :)
  have identity : leftContext.record.identity = rightContext.record.identity :=
    (congrArg (fun context : SigningContext => context.record.identity) sameContext :)
  have region : leftContext.region = rightContext.region :=
    (congrArg (fun context : SigningContext => context.region) sameContext :)
  have service : leftContext.service = rightContext.service :=
    (congrArg (fun context : SigningContext => context.service) sameContext :)
  unfold documentFor requestDocument
  apply (Json.ofFields_inj ?_ ?_).trans
  · simp only [List.cons.injEq, Prod.mk.injEq, true_and, accessKey, identity, region, service,
      and_true]
    apply (Json.ofFields_inj ?_ ?_).trans
    · simp only [List.cons.injEq, Prod.mk.injEq, true_and, sameId, sameMethod, sameBucket, sameKey,
        samePath, and_true]
      rfl
    · simp
    · rfl
  · simp
  · rfl

/-- A document shows of the secrets nothing but the token among the parameters: neither the secret
keys and tokens of the credentials, nor what the headers hold.  Two requests that are read from
messages alike but for tokens, and were verified with contexts alike but for secrets, are described
by the same document exactly if that parameter has the same values in both. -/
theorem documents_alike_iff {left right : Http.Request} {ownPath : Option String}
    {requestId : String} {leftRequest rightRequest : StoreRequest}
    {leftContext rightContext : SigningContext} (alike : Http.AlikeButTokens left right)
    (leftRead : Incoming.read left ownPath requestId = .ok leftRequest)
    (rightRead : Incoming.read right ownPath requestId = .ok rightRequest)
    (sameContext : leftContext.bare = rightContext.bare) (server : Server)
    (action : Option String) :
    (server.questionFor leftRequest leftContext action).document =
        (server.questionFor rightRequest rightContext action).document ↔
      leftRequest.query.get Http.tokenParameter = rightRequest.query.get Http.tokenParameter := by
  rcases Incoming.read_eq_ok_iff.mp leftRead with ⟨leftRouted, _, _, leftBelow, _, rfl⟩
  rcases Incoming.read_eq_ok_iff.mp rightRead with ⟨rightRouted, _, _, rightBelow, _, rfl⟩
  have sameRouted : leftRouted = rightRouted := by
    rw [alike.path, rightBelow] at leftBelow
    exact (Option.some.inj leftBelow).symm
  subst sameRouted
  apply (documentFor_eq_iff ?_ ?_ ?_ ?_ ?_ sameContext action).trans
  · exact (queryDocument_eq_iff left.parameters right.parameters).trans
      (get_eq_iff_of_filter_eq alike.parameters)
  · rfl
  · exact alike.method
  · rfl
  · rfl
  · exact alike.path

/-! ## Tokens in the header and among the parameters -/

/-- What a client that signs in a header puts there. -/
def authorizationHeader : String :=
  Authorization.renderHeader "client" (Authorization.scopeText "20240101" "r" "s3") "host" "5"

/-- A request that is signed in its header. -/
def signedMessage (token : String) : Http.Request where
  method := "GET"
  uri := ⟨none, none, some ⟨"/b/k", none⟩⟩
  headers :=
    [("authorization", [Utf8.bytesOf authorizationHeader]),
      ("x-amz-date", [Utf8.bytesOf "20240101T000000Z"]),
      ("x-amz-security-token", [Utf8.bytesOf token])]
  body := []

def signedHeaders (token : String) : MultiMap :=
  ⟨false, [("authorization", [authorizationHeader]), ("x-amz-date", ["20240101T000000Z"]),
    ("x-amz-security-token", [token])]⟩

/-- The parameters of a presigned request but for the token. -/
def openParameters : List (String × String) :=
  [("X-Amz-Algorithm", Authorization.algorithm),
    ("X-Amz-Credential", "client/20240101/r/s3/aws4_request"),
    ("X-Amz-Date", "20240101T000000Z"), ("X-Amz-Expires", "60"), ("X-Amz-SignedHeaders", "host"),
    (Authorization.signatureParameter, "5")]

def presignedParameters (token : String) : List (String × String) :=
  openParameters ++ [(Http.tokenParameter, token)]

/-- A presigned request. -/
def presignedMessage (token : String) : Http.Request where
  method := "GET"
  uri := ⟨none, none, some ⟨"/b/k", some (Uri.Query.renderPairs (presignedParameters token))⟩⟩
  headers := []
  body := []

def contextWith (secret remoteSecret token : String) : SigningContext where
  service := .s3
  record := ⟨⟨"client", secret, some token⟩, some ⟨"store", remoteSecret, none⟩, none, none⟩
  region := some "r"

theorem parameters_presignedMessage (token : String) :
    (presignedMessage token).parameters = presignedParameters token := by
  change Uri.Query.parsePairs (Uri.Query.renderPairs (presignedParameters token)) = _
  rw [Uri.Query.parsePairs_renderPairs]
  apply Uri.Query.visible_eq_self
  simp [presignedParameters, openParameters, Authorization.signatureParameter, Http.tokenParameter]

/-- A message below no path of the gateway's own is read if it says who signed it. -/
theorem exists_read {message : Http.Request} {query : MultiMap}
    (parameters : MultiMap.ofPairs true message.parameters = query)
    (authorized : ∃ signer, Incoming.authorize (Incoming.headersOf message) query = .ok signer) :
    ∃ request, Incoming.read message none "id" = .ok request ∧ request.query = query := by
  rcases authorized with ⟨⟨authorization, date⟩, authorized⟩
  have below : Route.below none message.uri.path = some message.uri.path := rfl
  rw [← parameters] at authorized
  exact ⟨_, Incoming.read_eq_ok_iff.mpr ⟨_, authorization, date, below, authorized, rfl⟩,
    parameters⟩

theorem headersOf_signedMessage (token : String) :
    Incoming.headersOf (signedMessage token) = signedHeaders token := by
  have tidy : (signedHeaders token).Tidy := by
    refine ⟨?_, ?_, by simp [signedHeaders]⟩
    · change ["authorization", "x-amz-date", "x-amz-security-token"].Nodup
      decide
    · change ∀ key ∈ ["authorization", "x-amz-date", "x-amz-security-token"], Text.lower key = key
      decide
  have texts : ((signedMessage token).headers.pairs.map fun pair =>
      (pair.1, Utf8.decodeLossy pair.2)) = (signedHeaders token).pairs := by
    simp [signedMessage, Http.Fields.pairs, signedHeaders, MultiMap.pairs, Utf8.decodeLossy_bytesOf]
  have made : MultiMap.ofPairs false (signedHeaders token).pairs = signedHeaders token :=
    tidy.ofPairs_pairs
  unfold Incoming.headersOf
  rw [texts, made]
  rfl

theorem exists_read_signedMessage (token : String) :
    ∃ request, Incoming.read (signedMessage token) none "id" = .ok request ∧
      request.query = MultiMap.empty true := by
  have names : ("host".toList.all fun c => decide (Text.isBlank c = false)) = true := by
    decide
  have signature : ("5".toList.all fun c => decide (Text.isBlank c = false)) = true := by
    decide
  have parsed := Authorization.parseHeader_renderHeader (some token) (by decide : "client" ≠ "")
    (by decide) (by decide : '/' ∉ "20240101".toList ∧ ',' ∉ "20240101".toList)
    (by decide : '/' ∉ "r".toList ∧ ',' ∉ "r".toList)
    (by decide : '/' ∉ "s3".toList ∧ ',' ∉ "s3".toList) (by decide : ',' ∉ "host".toList)
    (fun c member => of_decide_eq_true (List.all_eq_true.mp names c member))
    (by decide : ',' ∉ "5".toList)
    (fun c member => of_decide_eq_true (List.all_eq_true.mp signature c member))
  apply exists_read
  · rfl
  · rw [headersOf_signedMessage]
    change ∃ signer, (Authorization.parseHeader authorizationHeader (some token) >>=
      fun authorization => pure (authorization, "20240101T000000Z")) = .ok signer
    rw [authorizationHeader, parsed]
    exact ⟨_, rfl⟩

theorem exists_read_presignedMessage (token : String) :
    ∃ request, Incoming.read (presignedMessage token) none "id" = .ok request ∧
      request.query = ⟨true, (presignedParameters token).map fun pair => (pair.1, [pair.2])⟩ := by
  apply exists_read
  · rw [parameters_presignedMessage]
    rfl
  · exact ⟨_, rfl⟩

theorem alike_presignedMessage (left right : String) :
    Http.AlikeButTokens (presignedMessage left) (presignedMessage right) := by
  have path (token : String) : (presignedMessage token).uri.path = "/b/k" := rfl
  have parameters (token : String) : (presignedMessage token).parameters.filter
      (fun pair => pair.1 != Http.tokenParameter) = openParameters := by
    rw [parameters_presignedMessage, presignedParameters, List.filter_append]
    have kept : openParameters.filter (fun pair => pair.1 != Http.tokenParameter) =
        openParameters := by
      decide +kernel
    rw [kept, List.filter_cons_of_neg (by simp)]
    rfl
  exact ⟨rfl, (path left).trans (path right).symm, (parameters left).trans (parameters right).symm⟩

/-- Secret keys and tokens differ, and the tokens come in a header; the policy server is told the
same. -/
theorem documents_alike_of_header_tokens :
    ∃ leftRequest rightRequest,
      Incoming.read (signedMessage "one") none "id" = .ok leftRequest ∧
      Incoming.read (signedMessage "two") none "id" = .ok rightRequest ∧
      (signedMessage "one").headers ≠ (signedMessage "two").headers ∧
      (contextWith "first" "third" "one").bare = (contextWith "second" "fourth" "two").bare ∧
      (Server.questionFor ⟨"http://opa/", []⟩ leftRequest (contextWith "first" "third" "one")
          none).document =
        (Server.questionFor ⟨"http://opa/", []⟩ rightRequest (contextWith "second" "fourth" "two")
          none).document := by
  have alike : Http.AlikeButTokens (signedMessage "one") (signedMessage "two") := ⟨rfl, rfl, rfl⟩
  rcases exists_read_signedMessage "one" with ⟨leftRequest, leftRead, leftQuery⟩
  rcases exists_read_signedMessage "two" with ⟨rightRequest, rightRead, rightQuery⟩
  refine ⟨leftRequest, rightRequest, leftRead, rightRead, by decide +kernel, rfl, ?_⟩
  apply (documents_alike_iff alike leftRead rightRead rfl _ _).mpr
  rw [leftQuery, rightQuery]

/-- The token of a presigned request is told to the policy server: two requests that are alike but
for their tokens are described by different documents, although the context is one and the same. -/
theorem documents_tell_presigned_tokens :
    ∃ leftRequest rightRequest,
      Incoming.read (presignedMessage "one") none "id" = .ok leftRequest ∧
      Incoming.read (presignedMessage "two") none "id" = .ok rightRequest ∧
      Http.AlikeButTokens (presignedMessage "one") (presignedMessage "two") ∧
      (Server.questionFor ⟨"http://opa/", []⟩ leftRequest (contextWith "first" "third" "one")
          none).document ≠
        (Server.questionFor ⟨"http://opa/", []⟩ rightRequest (contextWith "first" "third" "one")
          none).document := by
  rcases exists_read_presignedMessage "one" with ⟨leftRequest, leftRead, leftQuery⟩
  rcases exists_read_presignedMessage "two" with ⟨rightRequest, rightRead, rightQuery⟩
  refine ⟨leftRequest, rightRequest, leftRead, rightRead, alike_presignedMessage "one" "two", ?_⟩
  intro same
  have shown (token : String) : (queryDocument
      ⟨true, (presignedParameters token).map fun pair => (pair.1, [pair.2])⟩).field?
        Http.tokenParameter = some (Json.ofStrings [token]) := by
    rw [queryDocument, Json.field?_ofFields]
    rfl
  have queries := congrArg (fun document : Json =>
    (document.field? "request").bind (Json.field? "query")) same
  have told := ((query_documentFor leftRequest _ none).symm.trans queries).trans
    (query_documentFor rightRequest _ none)
  rw [Option.some.injEq, leftQuery, rightQuery] at told
  have tokens := congrArg (Json.field? Http.tokenParameter) told
  rw [shown, shown] at tokens
  exact absurd (Json.ofStrings_injective (Option.some.inj tokens)) (by decide)

end Policy
end SignedGateway
