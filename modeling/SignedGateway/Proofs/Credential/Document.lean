import SignedGateway.Credential.Service
import SignedGateway.Proofs.Json.Records
import SignedGateway.Proofs.Json.Writing

namespace SignedGateway

/-!
# Records as they are written

What is written of a record shows the document that the record was read from: every known field
that says something, and of an identity every attribute, while unknown fields elsewhere are gone.
It is read as the same record again, whatever the order of its fields, as long as its numbers last.
Integers of sixty-four bits do.  A longer integer is kept as a double that may miss it, and the
decimal that is written of this double may be read as its neighbour.
-/

open Json (Tree Shows Fits ofFields)

/-! ## Fields that may be left out -/

section Tables

/-- The fields of a table that are there. -/
def presentFields (table : List (String × Option Json)) : List (String × Json) :=
  table.flatMap fun entry => optionalField entry.1 entry.2

variable {table : List (String × Option Json)}

theorem names_presentFields :
    ((presentFields table).map Prod.fst).Sublist (table.map Prod.fst) := by
  induction table with
  | nil => exact .slnil
  | cons entry rest inductionHypothesis =>
      rcases entry with ⟨name, value⟩
      rw [presentFields, List.flatMap_cons, List.map_append, List.map_cons, ← presentFields]
      cases value with
      | none => exact inductionHypothesis.cons name
      | some held => exact inductionHypothesis.cons_cons name

theorem lookup_presentFields (distinct : (table.map Prod.fst).Nodup) (name : String) :
    (presentFields table).lookup name = (table.lookup name).join := by
  induction table with
  | nil => rfl
  | cons entry rest inductionHypothesis =>
      rcases entry with ⟨key, value⟩
      rcases List.nodup_cons.mp distinct with ⟨fresh, restDistinct⟩
      have later := inductionHypothesis restDistinct
      rw [presentFields, List.flatMap_cons, ← presentFields, List.lookup_append, later,
        List.lookup_cons]
      by_cases same : name = key
      · subst same
        have absent : rest.lookup name = none := MultiMap.lookup_eq_none_iff_not_mem.mpr fresh
        rw [absent]
        cases value <;> simp [optionalField]
      · rw [beq_false_of_ne same]
        cases value with
        | none => rfl
        | some held =>
            rw [optionalField, List.lookup_cons, beq_false_of_ne same]
            rfl

/-- Under each name stands what the table has for it. -/
theorem field?_presentFields (distinct : (table.map Prod.fst).Nodup) (name : String) :
    (ofFields (presentFields table)).field? name = (table.lookup name).join := by
  rw [Json.field?_ofFields, Json.lookup_reverse (distinct.sublist names_presentFields),
    lookup_presentFields distinct]

theorem fits_presentFields {kind : Json.Number → Prop} {depth : Nat}
    (each : ∀ entry ∈ table, ∀ value ∈ entry.2, value.Fits kind depth) :
    (ofFields (presentFields table)).Fits kind (depth + 1) := by
  apply Json.fits_ofFields
  intro field member
  rcases List.mem_flatMap.mp member with ⟨⟨name, value⟩, found, inside⟩
  cases value with
  | none => cases inside
  | some held =>
      rw [List.mem_singleton.mp inside]
      exact each (name, some held) found held rfl

/-- A table that agrees part by part with what a record says makes a document that shows it. -/
theorem shows_presentFields {parts : List (String × (Tree → Json → Prop))} {tree : Tree}
    (distinct : (parts.map Prod.fst).Nodup)
    (each : List.Forall₂ (fun part entry => entry.1 = part.1 ∧
      Option.Rel part.2 (tree.said? (parts.map Prod.fst) part.1) entry.2) parts table) :
    Shows parts tree (ofFields (presentFields table)) := by
  have names : table.map Prod.fst = parts.map Prod.fst := by
    rw [← List.forall₂_eq_eq_eq, List.forall₂_map_left_iff, List.forall₂_map_right_iff]
    exact each.flip.imp fun _ _ both => both.1
  have distinctToo : (table.map Prod.fst).Nodup := names ▸ distinct
  constructor
  · intro part member
    rcases Json.exists_of_mem_right each.flip member with ⟨entry, found, same, related⟩
    have stored : table.lookup part.1 = some entry.2 :=
      MultiMap.lookup_of_mem distinctToo (same ▸ found)
    rw [field?_presentFields distinctToo, stored]
    exact related
  · intro name unknown
    rw [field?_presentFields distinctToo,
      MultiMap.lookup_eq_none_iff_not_mem.mpr (names.symm ▸ unknown)]
    rfl

theorem rel_map {α β γ : Type} {before : α → β → Prop} {after : α → γ → Prop} {change : β → γ}
    {left : Option α} {right : Option β} (related : Option.Rel before left right)
    (changed : ∀ item other, before item other → after item (change other)) :
    Option.Rel after left (right.map change) := by
  cases related with
  | none => exact .none
  | some holds => exact .some (changed _ _ holds)

theorem exists_of_rel {α β : Type} {relation : α → β → Prop} {left : Option α} {right : Option β}
    (related : Option.Rel relation left right) {other : β} (member : other ∈ right) :
    ∃ item, left = some item ∧ relation item other := by
  cases related with
  | none => cases member
  | some holds =>
      cases member
      exact ⟨_, rfl, holds⟩

end Tables

section Texts

variable {names : List String} {tree : Tree} {record : Json.Record} {name : String}

theorem rel_required_text (opened : Json.Record.ofTree names tree = .ok record) {value : String}
    (read : record.required name Json.Reader.text = .ok value) :
    Option.Rel Tree.Denotes (tree.said? names name) (some (.text value)) :=
  rel_map (Json.Record.said_of_required opened Json.Reader.refusesNull_text read)
    fun _ _ => Json.Reader.denotes_of_text

theorem rel_optional_text (opened : Json.Record.ofTree names tree = .ok record)
    {value : Option String} (read : record.optional name Json.Reader.text = .ok value) :
    Option.Rel Tree.Denotes (tree.said? names name) (value.map .text) :=
  rel_map (Json.Record.said_of_optional opened read) fun _ _ => Json.Reader.denotes_of_text

end Texts

/-! ## Credentials -/

namespace Credential

/-- A document shows the three texts of a credential. -/
def Shows : Tree → Json → Prop :=
  Json.Shows [("accessKey", Tree.Denotes), ("secretKey", Tree.Denotes), ("session", Tree.Denotes)]

def table (credential : Credential) : List (String × Option Json) :=
  [("accessKey", some (.text credential.accessKey)),
    ("secretKey", some (.text credential.secretKey)),
    ("session", credential.session.map .text)]

theorem toJson_eq (credential : Credential) :
    credential.toJson = ofFields (presentFields credential.table) := by
  simp [toJson, presentFields, table, optionalField]

theorem distinct_table (credential : Credential) : (credential.table.map Prod.fst).Nodup := by
  simp [table]

theorem refusesNull_ofTree : Json.Reader.RefusesNull ofTree := by
  intro credential made
  cases made

theorem shows_of_ofTree {tree : Tree} {credential : Credential}
    (read : ofTree tree = .ok credential) : Shows tree credential.toJson := by
  rcases Result.bind_eq_ok_iff.mp read with ⟨record, opened, more⟩
  rcases Result.bind_eq_ok_iff.mp more with ⟨accessKey, readAccessKey, more⟩
  rcases Result.bind_eq_ok_iff.mp more with ⟨secretKey, readSecretKey, more⟩
  rcases Result.bind_eq_ok_iff.mp more with ⟨session, readSession, made⟩
  cases made
  rw [toJson_eq]
  apply shows_presentFields (by simp)
  exact .cons ⟨rfl, rel_required_text opened readAccessKey⟩
    (.cons ⟨rfl, rel_required_text opened readSecretKey⟩
      (.cons ⟨rfl, rel_optional_text opened readSession⟩ .nil))

theorem takesBack (credential : Credential) :
    Json.Reader.TakesBack ofTree toJson credential := by
  intro tree distinct denotes
  rw [toJson_eq] at denotes
  rcases Json.exists_object_of_denotes denotes with ⟨fields, rfl⟩
  have held := field?_presentFields credential.distinct_table
  have opened := Json.Record.ofTree_object distinct ["accessKey", "secretKey", "session"]
  have accessKey := Json.required_of_field? distinct denotes (held "accessKey")
    (Json.Reader.takesBack_text credential.accessKey)
  have secretKey := Json.required_of_field? distinct denotes (held "secretKey")
    (Json.Reader.takesBack_text credential.secretKey)
  have session := Json.optional_of_field? distinct denotes (held "session")
    Json.Reader.refusesNull_text fun known _ => Json.Reader.takesBack_text known
  refine Result.bind_eq_ok_iff.mpr ⟨_, opened, ?_⟩
  refine Result.bind_eq_ok_iff.mpr ⟨_, accessKey, ?_⟩
  refine Result.bind_eq_ok_iff.mpr ⟨_, secretKey, ?_⟩
  exact Result.bind_eq_ok_iff.mpr ⟨_, session, rfl⟩

theorem fits_toJson (kind : Json.Number → Prop) (depth : Nat) (credential : Credential) :
    credential.toJson.Fits kind (depth + 1) := by
  rw [toJson_eq]
  apply fits_presentFields
  simp [table, Fits.text]

end Credential

/-! ## Roles -/

namespace SessionRole

/-- A document shows the four texts of a role. -/
def Shows : Tree → Json → Prop :=
  Json.Shows [("region", Tree.Denotes), ("roleArn", Tree.Denotes), ("externalId", Tree.Denotes),
    ("stsEndpoint", Tree.Denotes)]

def table (role : SessionRole) : List (String × Option Json) :=
  [("region", some (.text role.region)), ("roleArn", some (.text role.roleArn)),
    ("externalId", role.externalId.map .text), ("stsEndpoint", role.stsEndpoint.map .text)]

theorem toJson_eq (role : SessionRole) : role.toJson = ofFields (presentFields role.table) := by
  simp [toJson, presentFields, table, optionalField]

theorem distinct_table (role : SessionRole) : (role.table.map Prod.fst).Nodup := by
  simp [table]

theorem refusesNull_ofTree : Json.Reader.RefusesNull ofTree := by
  intro role made
  cases made

theorem shows_of_ofTree {tree : Tree} {role : SessionRole} (read : ofTree tree = .ok role) :
    Shows tree role.toJson := by
  rcases Result.bind_eq_ok_iff.mp read with ⟨record, opened, more⟩
  rcases Result.bind_eq_ok_iff.mp more with ⟨region, readRegion, more⟩
  rcases Result.bind_eq_ok_iff.mp more with ⟨roleArn, readRoleArn, more⟩
  rcases Result.bind_eq_ok_iff.mp more with ⟨externalId, readExternalId, more⟩
  rcases Result.bind_eq_ok_iff.mp more with ⟨stsEndpoint, readStsEndpoint, made⟩
  cases made
  rw [toJson_eq]
  apply shows_presentFields (by simp)
  exact .cons ⟨rfl, rel_required_text opened readRegion⟩
    (.cons ⟨rfl, rel_required_text opened readRoleArn⟩
      (.cons ⟨rfl, rel_optional_text opened readExternalId⟩
        (.cons ⟨rfl, rel_optional_text opened readStsEndpoint⟩ .nil)))

theorem takesBack (role : SessionRole) : Json.Reader.TakesBack ofTree toJson role := by
  intro tree distinct denotes
  rw [toJson_eq] at denotes
  rcases Json.exists_object_of_denotes denotes with ⟨fields, rfl⟩
  have held := field?_presentFields role.distinct_table
  have opened := Json.Record.ofTree_object distinct
    ["region", "roleArn", "externalId", "stsEndpoint"]
  have region := Json.required_of_field? distinct denotes (held "region")
    (Json.Reader.takesBack_text role.region)
  have roleArn := Json.required_of_field? distinct denotes (held "roleArn")
    (Json.Reader.takesBack_text role.roleArn)
  have externalId := Json.optional_of_field? distinct denotes (held "externalId")
    Json.Reader.refusesNull_text fun known _ => Json.Reader.takesBack_text known
  have stsEndpoint := Json.optional_of_field? distinct denotes (held "stsEndpoint")
    Json.Reader.refusesNull_text fun known _ => Json.Reader.takesBack_text known
  refine Result.bind_eq_ok_iff.mpr ⟨_, opened, ?_⟩
  refine Result.bind_eq_ok_iff.mpr ⟨_, region, ?_⟩
  refine Result.bind_eq_ok_iff.mpr ⟨_, roleArn, ?_⟩
  refine Result.bind_eq_ok_iff.mpr ⟨_, externalId, ?_⟩
  exact Result.bind_eq_ok_iff.mpr ⟨_, stsEndpoint, rfl⟩

theorem fits_toJson (kind : Json.Number → Prop) (depth : Nat) (role : SessionRole) :
    role.toJson.Fits kind (depth + 1) := by
  rw [toJson_eq]
  apply fits_presentFields
  simp [table, Fits.text]

end SessionRole

/-! ## Identities -/

namespace Identity

/-- A document shows the user and, under every other name, the last attribute of this name. -/
structure Shows (tree : Tree) (document : Json) : Prop where
  user : Option.Rel Tree.Denotes (tree.said? ["user"] "user") (document.field? "user")
  attributes : ∃ fields, tree = .object fields ∧ ∀ name ≠ "user",
    Option.Rel Tree.Denotes (fields.reverse.lookup name) (document.field? name)

/-- The attributes are in order, and the user is none of them. -/
structure Tidy (identity : Identity) : Prop where
  inOrder : Json.InOrder identity.attributes
  noUser : identity.attributes.lookup "user" = none

/-- The attributes are what the fields beside the user denote, stored one after the other. -/
theorem attributesOf_eq (fields : List (String × Tree)) (held : List (String × Json)) :
    attributesOf fields held =
      (Tree.toJson?.fieldsToJson? (fields.filter fun field => field.1 != "user")).elim
        (.error .unusableValue) fun shown => .ok (Json.storeFields held shown) := by
  induction fields generalizing held with
  | nil => rfl
  | cons field rest inductionHypothesis =>
      rcases field with ⟨name, value⟩
      rw [attributesOf]
      by_cases user : name = "user"
      · have dropped : ¬(name != "user") = true := by simp [user]
        rw [if_pos user, inductionHypothesis, List.filter_cons, if_neg dropped]
      · have kept : (name != "user") = true := bne_iff_ne.mpr user
        rw [if_neg user, List.filter_cons, if_pos kept, Tree.toJson?.fieldsToJson?]
        cases value.toJson? with
        | none => rfl
        | some read =>
            dsimp only
            rw [inductionHypothesis]
            cases Tree.toJson?.fieldsToJson? (rest.filter fun field => field.1 != "user") <;> rfl

theorem refusesNull_ofTree : Json.Reader.RefusesNull ofTree := by
  intro identity made
  cases made

/-- What an identity was read from. -/
theorem exists_of_ofTree {tree : Tree} {identity : Identity} (read : ofTree tree = .ok identity) :
    ∃ fields shown, tree = .object fields ∧
      Option.Rel Json.Reader.text.Makes (tree.said? ["user"] "user") identity.user ∧
      List.Forall₂ Json.Denoted (fields.filter fun field => field.1 != "user") shown ∧
      identity.attributes = Json.storeFields [] shown := by
  cases tree with
  | object fields =>
      rcases Result.bind_eq_ok_iff.mp read with ⟨_, unique, more⟩
      rcases Result.bind_eq_ok_iff.mp more with ⟨user, readUser, more⟩
      rcases Result.bind_eq_ok_iff.mp more with ⟨attributes, readAttributes, made⟩
      cases made
      have opened : Json.Record.ofTree ["user"] (.object fields) = .ok ⟨false, fields⟩ :=
        Result.bind_eq_ok_iff.mpr ⟨_, unique, rfl⟩
      rw [attributesOf_eq] at readAttributes
      cases denoted : Tree.toJson?.fieldsToJson? (fields.filter fun field => field.1 != "user") with
      | none =>
          rw [denoted] at readAttributes
          cases readAttributes
      | some shown =>
          rw [denoted] at readAttributes
          cases readAttributes
          exact ⟨fields, shown, rfl, Json.Record.said_of_optional opened readUser,
            Json.fieldsToJson?_eq_some_iff.mp denoted, rfl⟩
  | _ => cases read

theorem tidy_of_ofTree {tree : Tree} {identity : Identity} (read : ofTree tree = .ok identity) :
    identity.Tidy := by
  rcases exists_of_ofTree read with ⟨fields, shown, _, _, each, stored⟩
  constructor
  · rw [stored]
    exact Json.InOrder.storeFields List.Pairwise.nil shown
  · rw [stored, Json.lookup_storeFields, List.append_nil, MultiMap.lookup_eq_none_iff_not_mem]
    intro member
    rcases List.mem_map.mp member with ⟨field, found, user⟩
    rcases Json.exists_of_mem_right each (List.mem_reverse.mp found) with ⟨tree, kept, same, _⟩
    have other := (List.mem_filter.mp kept).2
    rw [← same, user] at other
    cases other

/-- The user stands under its name, and every attribute under its own. -/
theorem Tidy.field?_toJson {identity : Identity} (tidy : identity.Tidy) (name : String) :
    identity.toJson.field? name =
      if name = "user" then identity.user.map .text else identity.attributes.lookup name := by
  have distinct : ((optionalField "user" (identity.user.map .text) ++ identity.attributes).map
      Prod.fst).Nodup := by
    have fresh := MultiMap.lookup_eq_none_iff_not_mem.mp tidy.noUser
    cases identity.user with
    | none => exact tidy.inOrder.distinct
    | some user => exact List.nodup_cons.mpr ⟨fresh, tidy.inOrder.distinct⟩
  rw [toJson, Json.field?_ofFields, Json.lookup_reverse distinct, List.lookup_append]
  by_cases same : name = "user"
  · rw [if_pos same, same, tidy.noUser]
    cases identity.user <;> rfl
  · rw [if_neg same]
    cases identity.user with
    | none => rfl
    | some user =>
        rw [Option.map_some, optionalField, List.lookup_cons, beq_false_of_ne same]
        rfl

theorem shows_of_ofTree {tree : Tree} {identity : Identity} (read : ofTree tree = .ok identity) :
    Shows tree identity.toJson := by
  have shownAt := (tidy_of_ofTree read).field?_toJson
  rcases exists_of_ofTree read with ⟨fields, shown, same, user, each, stored⟩
  constructor
  · rw [shownAt, if_pos rfl]
    exact rel_map user fun _ _ => Json.Reader.denotes_of_text
  · refine ⟨fields, same, fun name other => ?_⟩
    have kept : (name != "user") = true := bne_iff_ne.mpr other
    have related := Json.rel_lookup (List.rel_reverse each) name
    rw [shownAt, if_neg other, stored, Json.lookup_storeFields, List.append_nil]
    rwa [← List.filter_reverse, MultiMap.lookup_filter_of_kept (· != "user") kept] at related

theorem Tidy.takesBack {identity : Identity} (tidy : identity.Tidy) :
    Json.Reader.TakesBack ofTree toJson identity := by
  intro tree distinct denotes
  rcases Json.exists_object_of_denotes denotes with ⟨fields, rfl⟩
  have held := tidy.field?_toJson
  rcases Result.bind_eq_ok_iff.mp (Json.Record.ofTree_object distinct ["user"]) with
    ⟨_, unique, _⟩
  have user := Json.optional_of_field? distinct denotes (held "user")
    Json.Reader.refusesNull_text fun known _ => Json.Reader.takesBack_text known
  have attributes : attributesOf fields [] = .ok identity.attributes := by
    rcases Json.denotes_object_iff.mp denotes with ⟨shown, each, whole⟩
    have kept : List.Forall₂ Json.Denoted (fields.filter fun field => field.1 != "user")
        (shown.filter fun field => field.1 != "user") :=
      List.rel_filter (fun _ _ denoted => by simp [denoted.1]) each
    rw [attributesOf_eq, Json.fieldsToJson?_eq_some_iff.mpr kept, Option.elim_some]
    congr 1
    -- Both lists are in order, so it is enough that the same stands under each name.
    apply (Json.InOrder.storeFields List.Pairwise.nil _).eq_of_lookup tidy.inOrder
    intro name
    rw [Json.lookup_storeFields, List.append_nil, ← List.filter_reverse]
    by_cases same : name = "user"
    · rw [same, tidy.noUser, MultiMap.lookup_eq_none_iff_not_mem]
      intro member
      rcases List.mem_map.mp member with ⟨field, found, named⟩
      have other := (List.mem_filter.mp found).2
      rw [named] at other
      cases other
    · have other : (name != "user") = true := bne_iff_ne.mpr same
      have stands := held name
      rw [if_neg same, ← whole, Json.field?_ofFields] at stands
      rw [MultiMap.lookup_filter_of_kept (· != "user") other, stands]
  refine Result.bind_eq_ok_iff.mpr ⟨_, unique, ?_⟩
  refine Result.bind_eq_ok_iff.mpr ⟨_, user, ?_⟩
  exact Result.bind_eq_ok_iff.mpr ⟨_, attributes, rfl⟩

theorem fits_toJson {kind : Json.Number → Prop} {depth : Nat} {tree : Tree} {identity : Identity}
    (fits : tree.Fits kind (depth + 1)) (read : ofTree tree = .ok identity) :
    identity.toJson.Fits kind (depth + 1) := by
  rcases exists_of_ofTree read with ⟨fields, shown, rfl, _, each, stored⟩
  cases fits with
  | object eachFits =>
      apply Json.fits_ofFields
      intro field member
      rcases List.mem_append.mp member with user | other
      · cases known : identity.user with
        | none =>
            rw [known] at user
            cases user
        | some name =>
            rw [known] at user
            rw [List.mem_singleton.mp user]
            exact .text depth name
      · rw [stored] at other
        have stands := (Json.mem_storeFields other).resolve_left List.not_mem_nil
        rcases Json.exists_of_mem_right each stands with ⟨written, found, denoted⟩
        exact (eachFits written (List.mem_filter.mp found).1).value denoted.2

end Identity

/-! ## Records -/

namespace CredentialRecord

/-- A document shows the four parts of a record. -/
def Shows : Tree → Json → Prop :=
  Json.Shows [("emulated", Credential.Shows), ("remote", Credential.Shows),
    ("remoteSessionRole", SessionRole.Shows), ("identity", Identity.Shows)]

def table (record : CredentialRecord) : List (String × Option Json) :=
  [("emulated", some record.emulated.toJson), ("remote", record.remote.map Credential.toJson),
    ("remoteSessionRole", record.role.map SessionRole.toJson),
    ("identity", record.identity.map Identity.toJson)]

theorem toJson_eq (record : CredentialRecord) :
    record.toJson = ofFields (presentFields record.table) := by
  simp [toJson, presentFields, table, optionalField]

theorem distinct_table (record : CredentialRecord) : (record.table.map Prod.fst).Nodup := by
  simp [table]

/-- The names of the parts, in the order in which an array holds them. -/
def names : List String :=
  ["emulated", "remote", "remoteSessionRole", "identity"]

/-- What a record was read from, part by part. -/
structure ReadFrom (tree : Tree) (record : CredentialRecord) : Prop where
  emulated : Option.Rel (Json.Reader.Makes Credential.ofTree) (tree.said? names "emulated")
    (some record.emulated)
  remote : Option.Rel (Json.Reader.Makes Credential.ofTree) (tree.said? names "remote")
    record.remote
  role : Option.Rel (Json.Reader.Makes SessionRole.ofTree) (tree.said? names "remoteSessionRole")
    record.role
  identity : Option.Rel (Json.Reader.Makes Identity.ofTree) (tree.said? names "identity")
    record.identity

theorem readFrom_of_ofTree {tree : Tree} {record : CredentialRecord}
    (read : ofTree tree = .ok record) : ReadFrom tree record := by
  rcases Result.bind_eq_ok_iff.mp read with ⟨fields, opened, more⟩
  rcases Result.bind_eq_ok_iff.mp more with ⟨emulated, readEmulated, more⟩
  rcases Result.bind_eq_ok_iff.mp more with ⟨remote, readRemote, more⟩
  rcases Result.bind_eq_ok_iff.mp more with ⟨role, readRole, more⟩
  rcases Result.bind_eq_ok_iff.mp more with ⟨identity, readIdentity, made⟩
  cases made
  exact ⟨Json.Record.said_of_required opened Credential.refusesNull_ofTree readEmulated,
    Json.Record.said_of_optional opened readRemote, Json.Record.said_of_optional opened readRole,
    Json.Record.said_of_optional opened readIdentity⟩

/-- What is written of a record shows the document that it was read from. -/
theorem shows_of_ofTree {tree : Tree} {record : CredentialRecord}
    (read : ofTree tree = .ok record) : Shows tree record.toJson := by
  have origin := readFrom_of_ofTree read
  rw [toJson_eq]
  apply shows_presentFields (by simp)
  exact .cons ⟨rfl, rel_map origin.emulated fun _ _ => Credential.shows_of_ofTree⟩
    (.cons ⟨rfl, rel_map origin.remote fun _ _ => Credential.shows_of_ofTree⟩
      (.cons ⟨rfl, rel_map origin.role fun _ _ => SessionRole.shows_of_ofTree⟩
        (.cons ⟨rfl, rel_map origin.identity fun _ _ => Identity.shows_of_ofTree⟩ .nil)))

/-- A record that was read is read again from whatever denotes what is written of it. -/
theorem takesBack_of_ofTree {tree : Tree} {record : CredentialRecord}
    (read : ofTree tree = .ok record) : Json.Reader.TakesBack ofTree toJson record := by
  have origin := readFrom_of_ofTree read
  intro again distinct denotes
  rw [toJson_eq] at denotes
  rcases Json.exists_object_of_denotes denotes with ⟨fields, rfl⟩
  have held := field?_presentFields record.distinct_table
  have opened := Json.Record.ofTree_object distinct names
  have emulated := Json.required_of_field? distinct denotes (held "emulated")
    record.emulated.takesBack
  have remote := Json.optional_of_field? distinct denotes (held "remote")
    Credential.refusesNull_ofTree fun known _ => known.takesBack
  have role := Json.optional_of_field? distinct denotes (held "remoteSessionRole")
    SessionRole.refusesNull_ofTree fun known _ => known.takesBack
  have tidy : ∀ known ∈ record.identity, known.Tidy := by
    intro known member
    rcases exists_of_rel origin.identity member with ⟨said, _, made⟩
    exact Identity.tidy_of_ofTree made
  have identity := Json.optional_of_field? distinct denotes (held "identity")
    Identity.refusesNull_ofTree fun known member => (tidy known member).takesBack
  refine Result.bind_eq_ok_iff.mpr ⟨_, opened, ?_⟩
  refine Result.bind_eq_ok_iff.mpr ⟨_, emulated, ?_⟩
  refine Result.bind_eq_ok_iff.mpr ⟨_, remote, ?_⟩
  refine Result.bind_eq_ok_iff.mpr ⟨_, role, ?_⟩
  exact Result.bind_eq_ok_iff.mpr ⟨_, identity, rfl⟩

/-- Nothing in it stands deeper than it stood, and its numbers are numbers that stood there. -/
theorem fits_toJson {kind : Json.Number → Prop} {depth : Nat} {tree : Tree}
    {record : CredentialRecord} (fits : tree.Fits kind (depth + 2))
    (read : ofTree tree = .ok record) : record.toJson.Fits kind (depth + 2) := by
  have origin := readFrom_of_ofTree read
  have identity : ∀ known ∈ record.identity, known.toJson.Fits kind (depth + 1) := by
    intro known member
    rcases exists_of_rel origin.identity member with ⟨said, found, made⟩
    exact Identity.fits_toJson (fits.said? found) made
  rw [toJson_eq]
  apply fits_presentFields
  intro entry member value present
  simp only [table, List.mem_cons, List.not_mem_nil, or_false] at member
  rcases member with rfl | rfl | rfl | rfl
  · cases present
    exact Credential.fits_toJson kind depth record.emulated
  · rcases Option.map_eq_some_iff.mp present with ⟨known, _, rfl⟩
    exact Credential.fits_toJson kind depth known
  · rcases Option.map_eq_some_iff.mp present with ⟨known, _, rfl⟩
    exact SessionRole.fits_toJson kind depth known
  · rcases Option.map_eq_some_iff.mp present with ⟨known, held, rfl⟩
    exact identity known held

/-- A record whose numbers last is read again from what is written of it. -/
theorem parse_render_toJson {tree : Tree} {record : CredentialRecord}
    (fits : tree.Fits Json.Number.Lasts Json.Builder.maxDepth) (read : ofTree tree = .ok record) :
    (Tree.parse record.toJson.render >>= ofTree) = .ok record := by
  have written := fits_toJson fits read
  have again := takesBack_of_ofTree read _ written.distinct_ofJson written.denotes_ofJson
  exact Result.bind_eq_ok_iff.mpr ⟨_, Json.parse_render written, again⟩

/-- A service that answers with what is written of such a record is understood. -/
theorem readRecord_render_toJson {tree : Tree} {record : CredentialRecord}
    (fits : tree.Fits Json.Number.Lasts Json.Builder.maxDepth) (read : ofTree tree = .ok record) :
    CredentialService.readRecord (Utf8.bytesOf record.toJson.render) = .ok record := by
  rw [CredentialService.readRecord, Tree.parseBytes_bytesOf]
  exact parse_render_toJson fits read

-- A byte that is no text does no harm in a field that nobody reads.
example :
    CredentialService.readRecord
        (Utf8.bytesOf "\x7b\"emulated\":[\"A\",\"s\"],\"note\":\"" ++
          [0xFF, 0x22, 0x7D]) =
      .ok ⟨⟨"A", "s", none⟩, none, none, none⟩ :=
  rfl

/-- A record that was read from a document whose numbers are integers of sixty-four bits is written
as a document that shows it, and is read again from that one and from every other that denotes the
same, such as one with its fields in another order.  Each of the integers is the one that stands in
the text. -/
theorem reads_back_of_integers {document : Json.Document} {text : String}
    {record : CredentialRecord} (written : Json.Written document text)
    (integers : ∀ numeral ∈ document.numerals, numeral.IsWord)
    (read : (Tree.parse text >>= ofTree) = .ok record) :
    (∃ tree, Tree.parse text = .ok tree ∧ Shows tree record.toJson) ∧
      (Tree.parse record.toJson.render >>= ofTree) = .ok record ∧
      Json.Reader.TakesBack ofTree toJson record ∧
      ∀ numeral ∈ document.numerals, Json.Number.ofParts numeral.parts = some numeral.word := by
  have parsed := Tree.parse_of_written written
  rw [parsed] at read
  change ofTree (document.tree Json.Builder.maxDepth) = .ok record at read
  have fits : (document.tree Json.Builder.maxDepth).Fits Json.Number.Lasts
      Json.Builder.maxDepth := by
    apply Json.fits_tree
    intro numeral member number denoted
    rw [(integers numeral member).ofParts_eq] at denoted
    cases denoted
    exact (integers numeral member).lasts
  exact ⟨⟨_, parsed, shows_of_ofTree read⟩, parse_render_toJson fits read,
    takesBack_of_ofTree read, fun numeral member => (integers numeral member).ofParts_eq⟩

/-! ## A document with much in it -/

section Documents

open Json (Document Item Numeral Number)

/-- A text that is written as it stands. -/
def plainItems (text : String)
    (free : text.toList.all (fun c => decide (c ≠ '"' ∧ c ≠ '\\' ∧ 0x20 ≤ c.toNat)) = true) :
    List Item :=
  text.toList.pmap .plain fun c member => of_decide_eq_true (List.all_eq_true.mp free c member)

def leastInteger : Numeral where
  negative := true
  whole := ⟨"9223372036854775808".toList, by decide, List.all_eq_true.mp rfl⟩
  brief := .inr (by decide)
  fraction := none
  exponent := none

def greatestInteger : Numeral where
  negative := false
  whole := ⟨"18446744073709551615".toList, by decide, List.all_eq_true.mp rfl⟩
  brief := .inr (by decide)
  fraction := none
  exponent := none

/-- A credential in an array, an unknown field, and an attribute that comes twice. -/
def mixedDocument : Document :=
  .object
    [(plainItems "emulated" rfl, .array
        [.text (plainItems "A" rfl), .text (plainItems "s" rfl), .null]),
      (plainItems "note" rfl, .array []),
      (plainItems "identity" rfl, .object
        [(plainItems "n" rfl, .bool true),
          (plainItems "user" rfl, .text (plainItems "u" rfl)),
          (plainItems "n" rfl, .array [.number leastInteger, .null]),
          (plainItems "a" rfl, .object
            [(plainItems "b" rfl, .number greatestInteger)])])]

def mixedText : String :=
  "\x7b\"emulated\":[\"A\",\"s\",null],\"note\":[]," ++
    "\"identity\":\x7b\"n\":true,\"user\":\"u\",\"n\":[-9223372036854775808,null]," ++
    "\"a\":\x7b\"b\":18446744073709551615\x7d\x7d\x7d"

def mixedRecord : CredentialRecord :=
  ⟨⟨"A", "s", none⟩, none, none, some ⟨some "u",
    [("a", .object [("b", .number (.integer 18446744073709551615))]),
      ("n", .array [.number (.integer (-9223372036854775808)), .null])]⟩⟩

theorem written_mixedDocument : Json.Written mixedDocument mixedText :=
  Json.written_of_chars (by decide +kernel)

theorem isWord_of_mem_mixedDocument :
    ∀ numeral ∈ mixedDocument.numerals, numeral.IsWord := by
  have least : leastInteger.IsWord := ⟨rfl, rfl, by decide +kernel, by decide +kernel⟩
  have greatest : greatestInteger.IsWord := ⟨rfl, rfl, by decide +kernel, by decide +kernel⟩
  simp [mixedDocument, Document.numerals, Document.numerals.itemNumerals,
    Document.numerals.fieldNumerals, least, greatest]

theorem read_mixedText : (Tree.parse mixedText >>= ofTree) = .ok mixedRecord := by
  rw [Tree.parse_of_written written_mixedDocument]
  rfl

/-- The unknown field is gone, and the later attribute of two with one name is left. -/
theorem reads_back_of_mixedText :
    (Tree.parse mixedText >>= ofTree) = .ok mixedRecord ∧
      mixedRecord.toJson.render =
        "\x7b\"emulated\":\x7b\"accessKey\":\"A\",\"secretKey\":\"s\"\x7d," ++
          "\"identity\":\x7b\"a\":\x7b\"b\":18446744073709551615\x7d," ++
          "\"n\":[-9223372036854775808,null],\"user\":\"u\"\x7d\x7d" ∧
      (∃ tree, Tree.parse mixedText = .ok tree ∧ Shows tree mixedRecord.toJson) ∧
      (Tree.parse mixedRecord.toJson.render >>= ofTree) = .ok mixedRecord := by
  have whole := reads_back_of_integers written_mixedDocument isWord_of_mem_mixedDocument
    read_mixedText
  exact ⟨read_mixedText, by decide +kernel, whole.1, whole.2.1⟩

/-! ## An integer that is too long -/

def longInteger : Numeral where
  negative := false
  whole := ⟨"123456789012345678901".toList, by decide, List.all_eq_true.mp rfl⟩
  brief := .inr (by decide)
  fraction := none
  exponent := none

theorem small_isMark : 'e' = 'e' ∨ 'e' = 'E' :=
  .inl rfl

/-- What is written of the double that the reader takes for the long integer. -/
def shortened : Numeral where
  negative := false
  whole := ⟨"1".toList, by decide, List.all_eq_true.mp rfl⟩
  brief := .inr (by decide)
  fraction := some ⟨"2345678901234567".toList, by decide, List.all_eq_true.mp rfl⟩
  exponent := some ⟨'e', small_isMark, none, ⟨"20".toList, by decide, List.all_eq_true.mp rfl⟩⟩

def documentWith (numeral : Numeral) : Document :=
  .object
    [(plainItems "emulated" rfl, .object
        [(plainItems "accessKey" rfl, .text (plainItems "A" rfl)),
          (plainItems "secretKey" rfl, .text (plainItems "s" rfl))]),
      (plainItems "identity" rfl, .object
        [(plainItems "n" rfl, .number numeral)])]

def recordWith (number : Number) : CredentialRecord :=
  ⟨⟨"A", "s", none⟩, none, none, some ⟨none, [("n", .number number)]⟩⟩

def longText : String :=
  "\x7b\"emulated\":\x7b\"accessKey\":\"A\",\"secretKey\":\"s\"\x7d," ++
    "\"identity\":\x7b\"n\":123456789012345678901\x7d\x7d"

theorem read_documentWith {numeral : Numeral} {number : Number}
    (denoted : Number.ofParts numeral.parts = some number) {text : String}
    (written : Json.Written (documentWith numeral) text) :
    (Tree.parse text >>= ofTree) = .ok (recordWith number) := by
  have tree : (documentWith numeral).tree Json.Builder.maxDepth =
      .object [("emulated", .object [("accessKey", .text "A"), ("secretKey", .text "s")]),
        ("identity", .object [("n", .number number)])] := by
    have named : numeral.tree = .number number := by
      rw [Numeral.tree, denoted]
      rfl
    rw [← named]
    rfl
  rw [Tree.parse_of_written written, tree]
  rfl

/-- The long integer is taken for a double, and what is written of this double for its neighbour,
so the record that is read again is another one. -/
theorem long_integer_drifts :
    Json.Written (documentWith longInteger) longText ∧
      (∀ numeral ∈ (documentWith longInteger).numerals,
        numeral.fraction = none ∧ numeral.exponent = none) ∧
      ∃ record again : CredentialRecord,
        (Tree.parse longText >>= ofTree) = .ok record ∧
          (Tree.parse record.toJson.render >>= ofTree) = .ok again ∧
          again ≠ record := by
  have first : Number.ofParts longInteger.parts = some (.double false ⟨7535204407491801, 14⟩) := by
    decide +kernel
  have second : Number.ofParts shortened.parts = some (.double false ⟨7535204407491802, 14⟩) := by
    decide +kernel
  have written : Json.Written (documentWith longInteger) longText :=
    Json.written_of_chars (by decide +kernel)
  have writtenAgain : Json.Written (documentWith shortened)
      (recordWith (.double false ⟨7535204407491801, 14⟩)).toJson.render :=
    Json.written_of_chars (by decide +kernel)
  refine ⟨written, ?_, _, _, read_documentWith first written,
    read_documentWith second writtenAgain, ?_⟩
  · simp [documentWith, Document.numerals, Document.numerals.fieldNumerals, longInteger]
  · simp [recordWith]

end Documents

end CredentialRecord
end SignedGateway
