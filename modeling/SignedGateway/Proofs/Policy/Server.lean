import SignedGateway.Proofs.Gateway.Candor
import SignedGateway.Proofs.Gateway.Client
import SignedGateway.Proofs.Json.Grammar
import SignedGateway.Proofs.Text.StrictUtf8

namespace SignedGateway

/-!
# What a policy server's answer decides

A server decides only by a proper answer: a whole reply of success whose body is a document that the
reader can hold.  It allows a request by an object whose `result` is `true` and denies it by any
other document.  Whatever else comes of the exchange is a failure, and never a decision.  The log is
told the decision, twice and in agreement, or the failure.
-/

/-! ## Documents that the reader cannot hold -/

namespace Json

/-- A document that denotes nothing is refused. -/
theorem parse_of_unheld {document : Document} {text : String} (written : Written document text)
    (unheld : document.value? Builder.maxDepth = none) :
    parse text = .error .unusableValue := by
  rw [parse, Tree.parse_of_written written]
  refine (pure_bind (document.tree Builder.maxDepth) _).trans ?_
  rw [toJson?_tree, unheld]
  rfl

end Json

namespace Policy
namespace Server

/-! ## Answers -/

/-- The exchange has brought a proper answer, which denotes the value. -/
def Answers (exchange : Http.Exchange) (value : Json) : Prop :=
  ∃ reply text document, exchange = .answered reply true ∧
    (200 ≤ reply.status ∧ reply.status ≤ 299) ∧ reply.body = Utf8.bytesOf text ∧
      Json.Written document text ∧ document.value? Json.Builder.maxDepth = some value

theorem decisionOf_eq_allowed_iff {answer : Json} :
    decisionOf answer = .allowed ↔ answer.field? "result" = some (.bool true) := by
  unfold decisionOf
  split
  · next granted => simp [granted]
  · next other => simpa using other

theorem decisionOf_eq_denied_iff {answer : Json} :
    decisionOf answer = .denied none ↔ answer.field? "result" ≠ some (.bool true) := by
  rw [Ne, ← decisionOf_eq_allowed_iff]
  unfold decisionOf
  split <;> simp

/-- A server decides by proper answers. -/
theorem interpret_eq_ok_iff {exchange : Http.Exchange} {decision : Decision} :
    interpret exchange = .ok decision ↔
      ∃ value, Answers exchange value ∧ decisionOf value = decision := by
  constructor
  · intro decided
    unfold interpret at decided
    split at decided
    · cases decided
    · next reply complete =>
        split_ifs at decided with refused broken
        split at decided
        · cases decided
        · next text decoded =>
            split at decided
            · next value parsed =>
                rcases Json.parse_eq_ok_iff.mp parsed with ⟨document, written, denoted⟩
                have whole : complete = true := by simpa using broken
                have success : 200 ≤ reply.status ∧ reply.status ≤ 299 := by
                  simpa [Http.isSuccess] using refused
                subst whole
                exact ⟨value, ⟨reply, text, document, rfl, success,
                  Utf8.decode_eq_some_iff.mp decoded, written, denoted⟩, Except.ok.inj decided⟩
            · cases decided
  · rintro ⟨value, ⟨reply, text, document, rfl, success, body, written, denoted⟩, rfl⟩
    have granted : Http.isSuccess reply.status = true := by simpa [Http.isSuccess] using success
    have decoded := Utf8.decode_eq_some_iff.mpr body
    have parsed := Json.parse_eq_ok_iff.mpr ⟨document, written, denoted⟩
    simp [interpret, granted, decoded, parsed]

/-- Any other exchange fails, and without a status. -/
theorem exists_of_interpret_error {exchange : Http.Exchange} {error : GatewayError}
    (failed : interpret exchange = .error error) : ∃ message, error = .provider none message := by
  unfold interpret at failed
  split at failed
  · cases failed
    exact ⟨_, rfl⟩
  · split_ifs at failed
    · cases failed
      exact ⟨_, rfl⟩
    · cases failed
      exact ⟨_, rfl⟩
    · split at failed
      · cases failed
        exact ⟨_, rfl⟩
      · split at failed
        · cases failed
        · cases failed
          exact ⟨_, rfl⟩

theorem interpret_eq_error_iff {exchange : Http.Exchange} :
    (∃ message, interpret exchange = .error (.provider none message)) ↔
      ∀ value, ¬ Answers exchange value := by
  constructor
  · rintro ⟨message, failed⟩ value answers
    rw [interpret_eq_ok_iff.mpr ⟨value, answers, rfl⟩] at failed
    cases failed
  · intro improper
    cases interpreted : interpret exchange with
    | ok decision =>
        rcases interpret_eq_ok_iff.mp interpreted with ⟨value, answers, _⟩
        exact absurd answers (improper value)
    | error error =>
        rcases exists_of_interpret_error interpreted with ⟨message, rfl⟩
        exact ⟨message, rfl⟩

/-! ## Verdicts -/

variable {Outside : Type}

/-- The exchange in which a server is asked about a request. -/
def exchange (server : Server) (transport : Http.Transport Outside) (request : StoreRequest)
    (context : SigningContext) : Act Outside Http.Exchange :=
  transport.send "POST" server.uri (documentHeaders server.headers)
    (Utf8.bytesOf
      (envelope (documentFor request context (actionOf request.rawQuery))).render)

/-- What the log is told of a decision, or of the failure to come to one. -/
def notes : Except GatewayError Decision → List LogEntry
  | .ok decision =>
      [.property "opa.decision" (if decision.isAllowed then "allow" else "deny"),
        .property "security.allowed" (if decision.isAllowed then "true" else "false")]
  | .error error => [.error "opa" error.message]

/-- The judge of a server is bound without asking. -/
theorem verdict_policy (server : Server) (transport : Http.Transport Outside)
    (request : StoreRequest) (context : SigningContext) :
    (server.policy transport).verdict request context = (do
      let decision ← server.judge transport request context (actionOf request.rawQuery)
      Attempt.note (.property "security.allowed" (if decision.isAllowed then "true" else "false"))
      return decision) := by
  change ((pure (server.judge transport request context) : Attempt Outside (Judge Outside)) >>=
    fun judge => _) = _
  rw [pure_bind]

/-- One exchange takes place, it is interpreted, and that is what is noted. -/
theorem perform_verdict {server : Server} {transport : Http.Transport Outside}
    {request : StoreRequest} {context : SigningContext} {world between : World Outside}
    {exchanged : Http.Exchange}
    (took : (server.exchange transport request context).run world = (exchanged, between)) :
    ((server.policy transport).verdict request context).perform world =
      ((interpret exchanged).mapError .failed,
        { between with log := between.log.noteAll (notes (interpret exchanged)) }) := by
  let question := server.questionFor request context (actionOf request.rawQuery)
  have asked : (ask transport question).perform world =
      ((interpret exchanged).mapError .failed, between) := by
    have sent : (Attempt.act (server.exchange transport request context)).perform world =
        (.ok exchanged, between) := by
      rw [Attempt.perform_act, took]
    exact (Attempt.perform_bind_of_ok sent _).trans (Attempt.perform_ofExcept _ _)
  cases interpreted : interpret exchanged with
  | ok decision =>
      rw [interpreted] at asked
      have judged : (notingFailure "opa" (ask transport question)).perform world =
          (.ok decision, between) := by
        rw [Attempt.perform_notingFailure, asked]
        rfl
      have decided : (server.judge transport request context
          (actionOf request.rawQuery)).perform world =
            (.ok decision, { between with log := between.log.note (.property "opa.decision"
              (if decision.isAllowed then "allow" else "deny")) }) :=
        Attempt.perform_bind_of_ok judged _
      rw [verdict_policy]
      exact Attempt.perform_bind_of_ok decided _
  | error error =>
      rw [interpreted] at asked
      have failed : (notingFailure "opa" (ask transport question)).perform world =
          (.error (.failed error),
            { between with log := between.log.note (.error "opa" error.message) }) := by
        rw [Attempt.perform_notingFailure, asked]
        rfl
      have ended : (server.judge transport request context
          (actionOf request.rawQuery)).perform world =
            (.error (.failed error),
              { between with log := between.log.note (.error "opa" error.message) }) :=
        Attempt.perform_bind_of_error failed _
      rw [verdict_policy]
      exact Attempt.perform_bind_of_error ended _

end Server

/-- Whatever comes of the one exchange with its server, a policy allows the request exactly by a
proper answer whose `result` is `true` and denies it exactly by any other proper answer; without one
it fails, and no status is given for that.  Decisions and failures are noted as they are. -/
theorem Server.verdict_of_exchange {Outside : Type} (server : Server)
    (transport : Http.Transport Outside) (request : StoreRequest) (context : SigningContext)
    (world : World Outside) :
    ∃ (exchanged : Http.Exchange) (between : World Outside)
      (result : Except GatewayError Decision),
      (server.exchange transport request context).run world = (exchanged, between) ∧
      ((server.policy transport).verdict request context).perform world =
        (result.mapError .failed,
          { between with log := between.log.noteAll (notes result) }) ∧
      (result = .ok .allowed ↔
        ∃ value, Answers exchanged value ∧ value.field? "result" = some (.bool true)) ∧
      (result = .ok (.denied none) ↔
        ∃ value, Answers exchanged value ∧ value.field? "result" ≠ some (.bool true)) ∧
      ((∃ message, result = .error (.provider none message)) ↔
        ∀ value, ¬ Answers exchanged value) := by
  rcases took : (server.exchange transport request context).run world with ⟨exchanged, between⟩
  refine ⟨exchanged, between, interpret exchanged, rfl, perform_verdict took, ?_, ?_,
    interpret_eq_error_iff⟩
  · rw [interpret_eq_ok_iff]
    simp only [decisionOf_eq_allowed_iff]
  · rw [interpret_eq_ok_iff]
    simp only [decisionOf_eq_denied_iff]

/-! ## A number beyond all doubles -/

namespace Server

def resultName : List Json.Item :=
  [.plain 'r' (by decide), .plain 'e' (by decide), .plain 's' (by decide), .plain 'u' (by decide),
    .plain 'l' (by decide), .plain 't' (by decide)]

def otherName : List Json.Item :=
  [.plain 'x' (by decide)]

/-- The numeral `1e400`. -/
def vastNumeral : Json.Numeral where
  negative := false
  whole := ⟨['1'], by decide, List.all_eq_true.mp rfl⟩
  brief := by decide
  fraction := none
  exponent := some ⟨'e', Or.inl rfl, none, ⟨['4', '0', '0'], by decide, List.all_eq_true.mp rfl⟩⟩

/-- An object whose `result` is `true`, and that holds the numeral. -/
def vastDocument : Json.Document :=
  .object [(resultName, .bool true), (otherName, .number vastNumeral)]

def vastText : String :=
  "\x7b\"result\":true,\"x\":1e400\x7d"

theorem written_vastDocument : Json.Written vastDocument vastText :=
  Json.written_of_chars (by decide)

theorem value?_vastDocument : vastDocument.value? Json.Builder.maxDepth = none := by
  have unheld : Json.Number.ofParts vastNumeral.parts = none := by
    decide +kernel
  have last (depth : Nat) : Json.Document.value? (.number vastNumeral) depth = none := by
    rw [Json.Document.value?, unheld]
    rfl
  have fields (depth : Nat) : Json.Document.value?.fieldValues?
      [(resultName, .bool true), (otherName, .number vastNumeral)] depth = none := by
    simp only [Json.Document.value?.fieldValues?, last]
    rfl
  rw [vastDocument, Json.Document.value?, fields]
  rfl

/-- A request for an object. -/
def objectRequest : StoreRequest where
  requestId := "id"
  authorization := ⟨"client", "20240101", "r", "s3", ["host"], "5", none, none⟩
  date := "20240101T000000Z"
  bucket := "sales"
  key := "part"
  headers := MultiMap.empty false
  query := MultiMap.empty true
  method := "PUT"
  rawPath := "/sales/part"
  rawQuery := none
  body := []

def decisionServer : Server := ⟨"http://opa.test/v1/data/s3/allow", []⟩

def vastReply : Http.Response := ⟨200, [], Utf8.bytesOf vastText⟩

/-- Every request is answered with the object. -/
def vastTransport : Http.Transport Unit :=
  fun _ => pure (.answered vastReply true)

theorem exchange_vastTransport :
    (decisionServer.exchange vastTransport objectRequest ⟨.s3, Client.record, some "r"⟩).run
      Client.world = (.answered vastReply true, Client.world) := by
  have parsed : (Wire.parse? decisionServer.uri).isSome = true := by
    decide +kernel
  have headers : (Http.fieldsOfPairs (documentHeaders decisionServer.headers)).isSome = true := by
    decide +kernel
  rcases Option.isSome_iff_exists.mp parsed with ⟨address, parsed⟩
  rcases Option.isSome_iff_exists.mp headers with ⟨fields, headers⟩
  unfold exchange Http.Transport.send
  rw [parsed, headers]
  rfl

theorem interpret_vastReply : interpret (.answered vastReply true) =
    .error (.provider none "invalid policy server response: value out of range") := by
  have decoded : Utf8.decode vastReply.body = some vastText := Utf8.decode_eq_some_iff.mpr rfl
  have refused := Json.parse_of_unheld written_vastDocument value?_vastDocument
  have success : Http.isSuccess vastReply.status = true := rfl
  have message : "invalid policy server response: " ++ Json.ReadError.unusableValue.message =
      "invalid policy server response: value out of range" := rfl
  simp only [interpret, success, decoded, refused, message]
  rfl

/-- The server answers with status 200 and an object whose `result` is `true`, and yet the request
is not allowed: the object also holds a number beyond all doubles. -/
theorem verdict_of_vast_number :
    Json.Written (.object [(resultName, .bool true), (otherName, .number vastNumeral)])
      "\x7b\"result\":true,\"x\":1e400\x7d" ∧
    Json.textOf? resultName = some "result".toList ∧ Json.textOf? otherName = some "x".toList ∧
    (decisionServer.exchange vastTransport objectRequest ⟨.s3, Client.record, some "r"⟩).run
        Client.world =
      (.answered ⟨200, [], Utf8.bytesOf "\x7b\"result\":true,\"x\":1e400\x7d"⟩ true,
        Client.world) ∧
    (((decisionServer.policy vastTransport).verdict objectRequest
        ⟨.s3, Client.record, some "r"⟩).perform Client.world).1 =
      .error (.failed (.provider none "invalid policy server response: value out of range")) := by
  refine ⟨written_vastDocument, by decide, by decide, exchange_vastTransport, ?_⟩
  rw [perform_verdict exchange_vastTransport, interpret_vastReply]
  rfl

end Server

end Policy
end SignedGateway
