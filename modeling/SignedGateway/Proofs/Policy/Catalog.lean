import SignedGateway.Proofs.Gateway.Candor
import SignedGateway.Proofs.Gateway.Client

namespace SignedGateway

/-!
# What a catalog is asked, and what is noted of it

A catalog is obtained for a request, asked for a table, and asked for a decision, each of it once
and only if what came before has not failed.  To speak about this, every question is kept with its
answer in a record; keeping it changes nothing.  The log of the request tells the same story: which
object was asked for, which table it belongs to, what was decided and why, or what has failed.
-/

namespace Policy

/-! ## The record -/

/-- A question to whoever provides catalogs, or to a catalog, with its answer. -/
inductive Consultation where
  | obtain (request : StoreRequest) (context : SigningContext)
      (answer : Except (Halt GatewayError) Unit)
  | tableName (request : StoreRequest) (action : Option String)
      (answer : Except (Halt GatewayError) (Option String))
  | tableOperation (request : StoreRequest) (table : String) (action : Option String)
      (answer : Except (Halt GatewayError) Decision)
  | otherOperation (request : StoreRequest) (action : Option String)
      (answer : Except (Halt GatewayError) Decision)

/-- The outside with the questions that were asked so far. -/
structure Recorded (Outside : Type) where
  outside : Outside
  consultations : List Consultation

end Policy

open Policy (Consultation Recorded)

section Records

variable {Outside α β α' β' : Type}

/-- The world as it is without the record. -/
def World.unrecorded (world : World (Recorded Outside)) : World Outside :=
  ⟨world.now, world.supply, world.sessions, world.cache, world.log, world.outside.outside⟩

/-- The world with a record. -/
def World.withRecord (world : World Outside) (consultations : List Consultation) :
    World (Recorded Outside) :=
  ⟨world.now, world.supply, world.sessions, world.cache, world.log, ⟨world.outside, consultations⟩⟩

/-- The attempt, which is kept in the record with its answer. -/
def Attempt.recorded (entry : Except (Halt GatewayError) α → Consultation)
    (attempt : Attempt Outside α) : Attempt (Recorded Outside) α :=
  Attempt.ofOutcome fun world =>
    let (answer, after) := attempt.outcome.run world.unrecorded
    (answer, after.withRecord (world.outside.consultations ++ [entry answer]))

namespace Policy

/-- The catalog with every question kept. -/
def Catalog.recorded (catalog : Catalog Outside) : Catalog (Recorded Outside) where
  tableName request action :=
    (catalog.tableName request action).recorded (.tableName request action)
  tableOperation request table action :=
    (catalog.tableOperation request table action).recorded (.tableOperation request table action)
  otherOperation request action :=
    (catalog.otherOperation request action).recorded (.otherOperation request action)

/-- Catalogs are obtained as before; that they are, and every question to them, is kept. -/
def Catalog.obtainRecorded
    (obtain : StoreRequest → SigningContext → Attempt Outside (Catalog Outside)) :
    StoreRequest → SigningContext → Attempt (Recorded Outside) (Catalog (Recorded Outside)) :=
  fun request context => Catalog.recorded <$> (obtain request context).recorded fun answer =>
    .obtain request context (answer.map fun _ => ())

end Policy

/-! ## Attempts with a record and without -/

namespace Attempt

/-- What an attempt does in a world: it ends with a result in another world and has made notes on
the way.  With a record it does the same, and has kept what it asked. -/
structure Keeps (wrap : α → β) (recorded : Attempt (Recorded Outside) β)
    (plain : Attempt Outside α) (world after : World Outside)
    (result : Except (Halt GatewayError) α) (consulted : List Consultation)
    (entries : List LogEntry) : Prop where
  performed : plain.perform world = (result, after)
  noted : after.log = world.log.noteAll entries
  kept : ∀ earlier, recorded.perform (world.withRecord earlier) =
    (result.map wrap, after.withRecord (earlier ++ consulted))

variable {wrap : α → β} {wrapNext : α' → β'} {recorded : Attempt (Recorded Outside) β}
  {plain : Attempt Outside α} {recordedNext : β → Attempt (Recorded Outside) β'}
  {plainNext : α → Attempt Outside α'} {world between after : World Outside}
  {consulted more : List Consultation} {entries others : List LogEntry}

theorem Keeps.bind {value : α} {result : Except (Halt GatewayError) α'}
    (first : Keeps wrap recorded plain world between (.ok value) consulted entries)
    (later : Keeps wrapNext (recordedNext (wrap value)) (plainNext value) between after result more
      others) :
    Keeps wrapNext (recorded >>= recordedNext) (plain >>= plainNext) world after result
      (consulted ++ more) (entries ++ others) := by
  refine ⟨?_, ?_, fun earlier => ?_⟩
  · rw [perform_bind_of_ok first.performed, later.performed]
  · rw [later.noted, first.noted, RequestLog.noteAll_append]
  · rw [perform_bind_of_ok (first.kept earlier), later.kept, List.append_assoc]

/-- The rest asks nobody. -/
theorem Keeps.bind_quiet {attempt : Attempt (Recorded Outside) α}
    {attemptNext : α → Attempt (Recorded Outside) α'} {value : α}
    {result : Except (Halt GatewayError) α'}
    (first : Keeps id attempt plain world between (.ok value) consulted entries)
    (later : Keeps id (attemptNext value) (plainNext value) between after result [] others) :
    Keeps id (attempt >>= attemptNext) (plain >>= plainNext) world after result consulted
      (entries ++ others) := by
  have whole : Keeps id (attempt >>= attemptNext) (plain >>= plainNext) world after result
      (consulted ++ []) (entries ++ others) := first.bind later
  rwa [List.append_nil] at whole

theorem Keeps.bind_of_error {halt : Halt GatewayError}
    (first : Keeps wrap recorded plain world after (.error halt) consulted entries) :
    Keeps wrapNext (recorded >>= recordedNext) (plain >>= plainNext) world after (.error halt)
      consulted entries := by
  refine ⟨perform_bind_of_error first.performed _, first.noted, fun earlier => ?_⟩
  rw [perform_bind_of_error (first.kept earlier)]
  rfl

theorem keeps_pure (wrap : α → β) (value : α) (world : World Outside) :
    Keeps wrap (pure (wrap value)) (pure value) world world (.ok value) [] [] :=
  ⟨rfl, rfl, fun earlier => by rw [List.append_nil]; rfl⟩

/-- Something is noted before the rest is done. -/
theorem Keeps.after_note {entry : LogEntry} {result : Except (Halt GatewayError) α}
    (later : Keeps wrap recorded plain { world with log := world.log.note entry } after result
      consulted entries) :
    Keeps wrap (note entry >>= fun _ => recorded) (note entry >>= fun _ => plain) world after result
      consulted (entry :: entries) :=
  ⟨later.performed, later.noted, later.kept⟩

/-- Who knows nothing of the log is asked once, and it is kept what the answer was. -/
theorem keeps_recorded {attempt : Attempt Outside α} {wanted : α → Prop}
    (discreet : attempt.Discreet (fun _ => True) wanted)
    (entry : Except (Halt GatewayError) α → Consultation) (world : World Outside) :
    ∃ (answer : Except GatewayError α) (after : World Outside),
      Settles wanted [] (answer.mapError .failed) ∧
      Keeps id (attempt.recorded entry) attempt world after (answer.mapError .failed)
        [entry (answer.mapError .failed)] [] := by
  rcases discreet world trivial with ⟨sameLog, _, settled⟩
  rcases performed : attempt.perform world with ⟨result, after⟩
  rw [performed] at sameLog settled
  have kept (earlier : List Consultation) :
      (attempt.recorded entry).perform (world.withRecord earlier) =
        (result, after.withRecord (earlier ++ [entry result])) := by
    change ((attempt.perform world).1, (attempt.perform world).2.withRecord
      (earlier ++ [entry (attempt.perform world).1])) = _
    rw [performed]
  match result with
  | .ok value => exact ⟨.ok value, after, settled, performed, sameLog, kept⟩
  | .error (.failed error) => exact ⟨.error error, after, settled, performed, sameLog, kept⟩
  | .error .outOfCalendar => exact settled.elim

theorem Keeps.map {result : Except (Halt GatewayError) α} {attempt : Attempt (Recorded Outside) α}
    (keeps : Keeps id attempt plain world after result consulted entries) (wrap : α → β) :
    Keeps wrap (wrap <$> attempt) plain world after result consulted entries := by
  refine ⟨keeps.performed, keeps.noted, fun earlier => ?_⟩
  rw [map_eq_pure_bind, perform_bind, keeps.kept]
  cases result <;> rfl

theorem Keeps.notingFailure {value : α} (name : String)
    (keeps : Keeps wrap recorded plain world after (.ok value) consulted entries) :
    Keeps wrap (Policy.notingFailure name recorded) (Policy.notingFailure name plain) world after
      (.ok value) consulted entries := by
  refine ⟨?_, keeps.noted, fun earlier => ?_⟩
  · rw [perform_notingFailure, keeps.performed]
  · rw [perform_notingFailure, keeps.kept]
    rfl

theorem Keeps.notingFailure_of_error {error : GatewayError} (name : String)
    (keeps : Keeps wrap recorded plain world after (.error (.failed error)) consulted entries) :
    Keeps wrap (Policy.notingFailure name recorded) (Policy.notingFailure name plain) world
      { after with log := after.log.note (.error name error.message) } (.error (.failed error))
      consulted (entries ++ [.error name error.message]) := by
  refine ⟨?_, ?_, fun earlier => ?_⟩
  · rw [perform_notingFailure, keeps.performed]
  · rw [RequestLog.noteAll_append, ← keeps.noted]
    rfl
  · rw [perform_notingFailure, keeps.kept]
    rfl

end Attempt

end Records

namespace Policy

/-! ## The course of a consultation -/

/-- What a catalog answers about a request: it fails to say whether there is a table, or decides
about the operation on a table, or about one that touches none. -/
inductive Enquiry where
  | unnamed (error : GatewayError)
  | table (name : String) (answer : Except GatewayError Decision)
  | other (answer : Except GatewayError Decision)

namespace Enquiry

def result : Enquiry → Except GatewayError Decision
  | .unnamed error => .error error
  | .table _ answer => answer
  | .other answer => answer

def table? : Enquiry → Option String
  | .table name _ => some name
  | _ => none

/-- The questions to the catalog, in order. -/
def consultations (request : StoreRequest) (action : Option String) : Enquiry → List Consultation
  | .unnamed error => [.tableName request action (.error (.failed error))]
  | .table name answer =>
      [.tableName request action (.ok (some name)),
        .tableOperation request name action (answer.mapError .failed)]
  | .other answer =>
      [.tableName request action (.ok none),
        .otherOperation request action (answer.mapError .failed)]

/-- What is noted while the catalog is asked. -/
def entries (enquiry : Enquiry) : List LogEntry :=
  (enquiry.table?.map (LogEntry.property "security.table")).toList

end Enquiry

/-- A catalog cannot be obtained, or is asked. -/
inductive Course where
  | refused (error : GatewayError)
  | consulted (enquiry : Enquiry)

namespace Course

def result : Course → Except GatewayError Decision
  | .refused error => .error error
  | .consulted enquiry => enquiry.result

def isObtained : Course → Bool
  | .refused _ => false
  | .consulted _ => true

def table? : Course → Option String
  | .refused _ => none
  | .consulted enquiry => enquiry.table?

/-- All questions, in order. -/
def consultations (request : StoreRequest) (context : SigningContext) (action : Option String) :
    Course → List Consultation
  | .refused error => [.obtain request context (.error (.failed error))]
  | .consulted enquiry => .obtain request context (.ok ()) :: enquiry.consultations request action

end Course

/-! ## What is noted -/

namespace Decision

def reason? : Decision → Option String
  | .allowed => none
  | .denied reason => reason

def entries (decision : Decision) : List LogEntry :=
  .property "security.decision" (if decision.isAllowed then "allow" else "deny") ::
    (decision.reason?.map (LogEntry.property "security.reason")).toList

end Decision

/-- What is noted of the object and the action. -/
def requestEntries (request : StoreRequest) (action : Option String) : List LogEntry :=
  [.property "security.bucket" request.bucket, .property "security.key" request.key,
    .property "security.action" (action.getD "")]

/-- What is noted at the end. -/
def resultEntries : Except GatewayError Decision → List LogEntry
  | .ok decision =>
      decision.entries ++
        [.property "security.allowed" (if decision.isAllowed then "true" else "false")]
  | .error error => [.error "security" error.message]

def Course.entries (request : StoreRequest) (action : Option String) : Course → List LogEntry
  | .refused error => resultEntries (.error error)
  | .consulted enquiry =>
      requestEntries request action ++ (enquiry.entries ++ resultEntries enquiry.result)

/-! ## A run with a record -/

namespace Catalog

variable {Outside : Type} {catalog : Catalog Outside}

/-- What is still done when a catalog has decided. -/
def conclude (decision : Decision) : Attempt Outside Decision := do
  Attempt.note (.property "security.allowed" (if decision.isAllowed then "true" else "false"))
  return decision

theorem exists_enquiry (discreet : catalog.Discreet fun _ => True) (request : StoreRequest)
    (action : Option String) (world : World Outside) :
    ∃ (enquiry : Enquiry) (after : World Outside),
      Attempt.Keeps id (catalog.recorded.ask request action) (catalog.ask request action) world
        after (enquiry.result.mapError .failed) (enquiry.consultations request action)
        enquiry.entries := by
  rcases Attempt.keeps_recorded (discreet.tableName request action) (.tableName request action)
    world with ⟨answer, between, _, named⟩
  match answer with
  | .error error => exact ⟨.unnamed error, between, named.bind_of_error⟩
  | .ok (some table) =>
      rcases Attempt.keeps_recorded (discreet.tableOperation request table action)
        (.tableOperation request table action)
        { between with log := between.log.note (.property "security.table" table) } with
        ⟨decided, after, _, operated⟩
      refine ⟨.table table decided, after, ?_⟩
      exact named.bind operated.after_note
  | .ok none =>
      rcases Attempt.keeps_recorded (discreet.otherOperation request action)
        (.otherOperation request action) between with ⟨decided, after, _, operated⟩
      exact ⟨.other decided, after, named.bind operated⟩

/-- A decision is noted with its reason, and then whether it allows the request. -/
theorem exists_settled (decision : Decision) (world : World Outside) :
    ∃ after, Attempt.Keeps id (noteDecision decision >>= fun _ => conclude decision)
      (noteDecision decision >>= fun _ => conclude decision) world after (.ok decision) []
      (resultEntries (.ok decision)) := by
  match decision with
  | .allowed => exact ⟨_, (Attempt.keeps_pure id _ _).after_note.after_note⟩
  | .denied none => exact ⟨_, (Attempt.keeps_pure id _ _).after_note.after_note⟩
  | .denied (some reason) =>
      exact ⟨_, (Attempt.keeps_pure id _ _).after_note.after_note.after_note⟩

theorem judge_conclude (catalog : Catalog Outside) (request : StoreRequest)
    (action : Option String) :
    catalog.judge request action >>= conclude =
      (do
        Attempt.note (.property "security.bucket" request.bucket)
        Attempt.note (.property "security.key" request.key)
        Attempt.note (.property "security.action" (action.getD ""))
        notingFailure "security" (catalog.ask request action) >>= fun decision =>
          noteDecision decision >>= fun _ => conclude decision) := by
  unfold judge
  simp only [bind_assoc, pure_bind]

/-- A catalog that was obtained is asked, and its decision is noted, or that it has failed. -/
theorem exists_judged (discreet : catalog.Discreet fun _ => True) (request : StoreRequest)
    (action : Option String) (world : World Outside) :
    ∃ (enquiry : Enquiry) (after : World Outside),
      Attempt.Keeps id (catalog.recorded.judge request action >>= conclude)
        (catalog.judge request action >>= conclude) world after
        (enquiry.result.mapError .failed) (enquiry.consultations request action)
        (requestEntries request action ++ (enquiry.entries ++ resultEntries enquiry.result)) := by
  let noted := { world with log := world.log.noteAll (requestEntries request action) }
  rcases exists_enquiry discreet request action noted with ⟨enquiry, between, asked⟩
  have answered : ∃ after, Attempt.Keeps id
      (notingFailure "security" (catalog.recorded.ask request action) >>= fun decision =>
        noteDecision decision >>= fun _ => conclude decision)
      (notingFailure "security" (catalog.ask request action) >>= fun decision =>
        noteDecision decision >>= fun _ => conclude decision) noted after
      (enquiry.result.mapError .failed) (enquiry.consultations request action)
      (enquiry.entries ++ resultEntries enquiry.result) := by
    cases result : enquiry.result with
    | error error =>
        rw [result] at asked
        exact ⟨_, (asked.notingFailure_of_error "security").bind_of_error⟩
    | ok decision =>
        rw [result] at asked
        rcases exists_settled decision between with ⟨after, settled⟩
        exact ⟨after, (asked.notingFailure "security").bind_quiet settled⟩
  rcases answered with ⟨after, answered⟩
  rw [judge_conclude, judge_conclude]
  exact ⟨enquiry, after, answered.after_note.after_note.after_note⟩

theorem verdict_policy (obtain : StoreRequest → SigningContext → Attempt Outside (Catalog Outside))
    (request : StoreRequest) (context : SigningContext) :
    (policy obtain).verdict request context =
      notingFailure "security" (obtain request context) >>= fun catalog =>
        catalog.judge request (actionOf request.rawQuery) >>= conclude := by
  change ((notingFailure "security" (obtain request context) >>= fun catalog =>
    pure (catalog.judge request)) >>= fun judge => _) = _
  rw [bind_assoc]
  simp only [pure_bind]
  rfl

/-- What is asked and noted about a request, and what comes of it. -/
theorem exists_course {obtain : StoreRequest → SigningContext → Attempt Outside (Catalog Outside)}
    {request : StoreRequest} {context : SigningContext}
    (discreet : (obtain request context).Discreet (fun _ => True) fun catalog =>
      catalog.Discreet fun _ => True) (world : World Outside) :
    ∃ (course : Course) (after : World Outside),
      Attempt.Keeps id ((policy (obtainRecorded obtain)).verdict request context)
        ((policy obtain).verdict request context) world after (course.result.mapError .failed)
        (course.consultations request context (actionOf request.rawQuery))
        (course.entries request (actionOf request.rawQuery)) := by
  rcases Attempt.keeps_recorded discreet (fun answer =>
    .obtain request context (answer.map fun _ => ())) world with
      ⟨answer, between, settled, obtained⟩
  rw [verdict_policy, verdict_policy]
  match answer with
  | .error error =>
      have failed := (obtained.map Catalog.recorded).notingFailure_of_error "security"
      exact ⟨.refused error, _, failed.bind_of_error⟩
  | .ok catalog =>
      rcases exists_judged settled.1 request (actionOf request.rawQuery) between with
        ⟨enquiry, after, judged⟩
      refine ⟨.consulted enquiry, after, ?_⟩
      exact ((obtained.map Catalog.recorded).notingFailure "security").bind judged

end Catalog

/-! ## What the log tells -/

/-- The log of a request tells how its catalog was consulted, and nothing else: what was asked for,
the table that was named, the decision with its reason, or else the one error. -/
structure TellsOf (log : RequestLog) (course : Course) (request : StoreRequest)
    (action : Option String) : Prop where
  bucket : log.properties.lookup "security.bucket" =
    if course.isObtained then some request.bucket else none
  key : log.properties.lookup "security.key" = if course.isObtained then some request.key else none
  action : log.properties.lookup "security.action" =
    if course.isObtained then some (action.getD "") else none
  table : log.properties.lookup "security.table" = course.table?
  decision : log.properties.lookup "security.decision" =
    course.result.toOption.map fun decision => if decision.isAllowed then "allow" else "deny"
  allowed : log.properties.lookup "security.allowed" =
    course.result.toOption.map fun decision => if decision.isAllowed then "true" else "false"
  reason : log.properties.lookup "security.reason" = course.result.toOption.bind Decision.reason?
  others : ∀ name ∈ log.properties.map Prod.fst,
    name ∈ ["security.bucket", "security.key", "security.action", "security.table",
      "security.decision", "security.allowed", "security.reason"]
  errors : log.errors =
    match course.result with
    | .ok _ => []
    | .error error => [("security", error.message)]

theorem tellsOf_noteAll (course : Course) (request : StoreRequest) (action : Option String)
    (requestId : String) :
    TellsOf ((RequestLog.start requestId).noteAll (course.entries request action)) course request
      action := by
  -- In each case the notes are a list of at most seven, and all their names differ.
  rcases course with error | error | ⟨table, error | (_ | _ | reason)⟩ | (error | (_ | _ | reason))
  all_goals
    constructor <;>
      simp [Course.entries, requestEntries, Enquiry.entries, resultEntries, Decision.entries,
        Course.isObtained, Course.table?, Enquiry.table?, Course.result, Enquiry.result,
        Decision.isAllowed, Decision.reason?, RequestLog.start, RequestLog.noteAll,
        RequestLog.note, RequestLog.assign, Except.toOption, List.lookup_cons]

/-- Whatever a catalog answers, and whether it can be obtained at all, it is obtained once and
asked once for a table, and then once for a decision of the one kind or the other, unless that has
failed.  What it answers at last is the verdict.  Keeping the questions changes nothing, and the log
of a fresh request tells exactly what has happened. -/
theorem Catalog.verdict_recounted {Outside : Type}
    (obtain : StoreRequest → SigningContext → Attempt Outside (Catalog Outside))
    (request : StoreRequest) (context : SigningContext)
    (discreet : (obtain request context).Discreet (fun _ => True) fun catalog =>
      catalog.Discreet fun _ => True)
    {world : World Outside} {requestId : String} (fresh : world.log = RequestLog.start requestId) :
    ∃ (course : Course) (after : World Outside),
      ((Catalog.policy obtain).verdict request context).perform world =
        (course.result.mapError .failed, after) ∧
      ((Catalog.policy (Catalog.obtainRecorded obtain)).verdict request context).perform
          (world.withRecord []) =
        (course.result.mapError .failed, after.withRecord
          (course.consultations request context (actionOf request.rawQuery))) ∧
      TellsOf after.log course request (actionOf request.rawQuery) := by
  rcases Catalog.exists_course discreet world with ⟨course, after, keeps⟩
  have recorded := keeps.kept []
  have noted := keeps.noted
  rw [Except.map_id] at recorded
  rw [fresh] at noted
  refine ⟨course, after, keeps.performed, recorded, ?_⟩
  rw [noted]
  exact tellsOf_noteAll course request _ requestId

/-! ## A catalog of one table -/

namespace Catalog

/-- One bucket holds a table, which nobody may change.  About all others nothing can be said. -/
def ofSales : Catalog Unit where
  tableName request _ := pure (if request.bucket = "sales" then some "orders" else none)
  tableOperation _ table _ := pure (.denied (some (table ++ " is read-only")))
  otherOperation _ _ := Attempt.fail (.provider none "out of reach")

theorem discreet_ofSales : ofSales.Discreet fun _ => True :=
  ⟨fun _ _ => Attempt.discreet_pure trivial, fun _ _ _ => Attempt.discreet_pure trivial,
    fun _ _ => Attempt.discreet_fail _ _⟩

/-- A request to write a file of the table. -/
def salesRequest : StoreRequest where
  requestId := "id"
  authorization := ⟨"client", "20240101", "r", "s3", ["host"], "5", none, none⟩
  date := "20240101T000000Z"
  bucket := "sales"
  key := "part"
  headers := MultiMap.empty false
  query := MultiMap.empty true
  method := "PUT"
  rawPath := "/sales/part"
  rawQuery := none
  body := []

/-- The table is named, its operation is denied, and the log holds the table and the reason. -/
theorem verdict_recounted_of_sales :
    ∃ (course : Course) (after : World Unit),
      ((policy (obtainRecorded fun _ _ => pure ofSales)).verdict salesRequest
          ⟨.s3, Client.record, some "r"⟩).perform (Client.world.withRecord []) =
        (.ok (.denied (some "orders is read-only")), after.withRecord
          (course.consultations salesRequest ⟨.s3, Client.record, some "r"⟩ none)) ∧
      course.table? = some "orders" ∧ TellsOf after.log course salesRequest none ∧
      after.log.properties.lookup "security.reason" = some "orders is read-only" := by
  have discreet : (pure ofSales : Attempt Unit (Catalog Unit)).Discreet (fun _ => True)
      fun catalog => catalog.Discreet fun _ => True :=
    Attempt.discreet_pure discreet_ofSales
  have fresh : Client.world.log = RequestLog.start "id" := rfl
  rcases verdict_recounted (fun _ _ => pure ofSales) salesRequest ⟨.s3, Client.record, some "r"⟩
    discreet fresh with ⟨course, after, plain, recorded, told⟩
  have ran : ((policy fun _ _ => pure ofSales).verdict salesRequest
      ⟨.s3, Client.record, some "r"⟩).perform Client.world =
        (.ok (.denied (some "orders is read-only")), { Client.world with log := ⟨"id",
          [("security.bucket", "sales"), ("security.key", "part"), ("security.action", ""),
            ("security.table", "orders"), ("security.decision", "deny"),
            ("security.reason", "orders is read-only"), ("security.allowed", "false")], []⟩ }) :=
    rfl
  rw [ran, Prod.mk.injEq] at plain
  rcases plain with ⟨decided, rfl⟩
  rw [← decided] at recorded
  exact ⟨course, _, recorded, told.table.symm, told, rfl⟩

end Catalog

end Policy
end SignedGateway
