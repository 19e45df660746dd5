import SignedGateway.Proofs.Uri.Query
import SignedGateway.Store.Addressing

namespace SignedGateway
namespace Uri

/-!
# The URI of an object

The path of an object is coded, so it is scanned to its end and nothing in it is
taken for a query or a fragment.  Path and query are found again as they were
written, or they are too long together and there is no URI.
-/

/-! ## Scanning -/

theorem ne_marks_of_isPathChar {c : Char} (plain : isPathChar c = true) : c ≠ '?' ∧ c ≠ '#' := by
  constructor
  · rintro rfl
    revert plain
    decide
  · rintro rfl
    revert plain
    decide

theorem ne_hash_of_isQueryChar {c : Char} (plain : isQueryChar c = true) : c ≠ '#' := by
  rintro rfl
  revert plain
  decide

theorem scanQuery_eq {query : List Char} (plain : ∀ c ∈ query, isQueryChar c = true) :
    scanQuery query = .ok query := by
  induction query with
  | nil => rfl
  | cons c rest inductionHypothesis =>
      have first := plain c List.mem_cons_self
      have later := inductionHypothesis fun other member =>
        plain other (List.mem_cons_of_mem c member)
      rw [scanQuery, if_neg (ne_hash_of_isQueryChar first), if_pos first, later]
      rfl

theorem scanPath_eq {path : List Char} (plain : ∀ c ∈ path, isPathChar c = true) :
    scanPath path = .ok (path, none) := by
  induction path with
  | nil => rfl
  | cons c rest inductionHypothesis =>
      have first := plain c List.mem_cons_self
      have later := inductionHypothesis fun other member =>
        plain other (List.mem_cons_of_mem c member)
      rcases ne_marks_of_isPathChar first with ⟨noMark, noHash⟩
      rw [scanPath, if_neg noMark, if_neg noHash, if_pos first, later]
      rfl

/-- A path is scanned up to the question mark, whatever query stands behind it. -/
theorem scanPath_questionMark {path : List Char} (plain : ∀ c ∈ path, isPathChar c = true)
    (query : List Char) :
    scanPath (path ++ '?' :: query) =
      (scanQuery query).map fun scanned => (path, some scanned) := by
  induction path with
  | nil =>
      rw [List.nil_append, scanPath, if_pos rfl]
      cases scanQuery query <;> rfl
  | cons c rest inductionHypothesis =>
      have first := plain c List.mem_cons_self
      have later := inductionHypothesis fun other member =>
        plain other (List.mem_cons_of_mem c member)
      rcases ne_marks_of_isPathChar first with ⟨noMark, noHash⟩
      rw [List.cons_append, scanPath, if_neg noMark, if_neg noHash, if_pos first, later]
      cases scanQuery query <;> rfl

theorem scanPath_append {path query : List Char} (plain : ∀ c ∈ path, isPathChar c = true)
    (plainQuery : ∀ c ∈ query, isQueryChar c = true) :
    scanPath (path ++ '?' :: query) = .ok (path, some query) := by
  rw [scanPath_questionMark plain, scanQuery_eq plainQuery]
  rfl

/-! ## Targets -/

/-- What is read is not too long. -/
theorem Target.bounded_of_parse {text : String} {target : Target}
    (parsed : Target.parse text.toList = .ok target) : (Utf8.bytesOf text).length ≤ maxLength := by
  unfold Target.parse at parsed
  split_ifs at parsed with long
  exact Nat.not_lt.mp long

section WithQuery

variable {path : String} {query : Option String} (nonempty : path ≠ "")
  (plain : ∀ c ∈ path.toList, isPathChar c = true)

include nonempty

theorem Target.ofParts_of_nonempty (query : Option (List Char)) :
    Target.ofParts path.toList query = ⟨path, query.map String.ofList⟩ := by
  rw [Target.ofParts, if_neg (mt String.toList_eq_nil_iff.mp nonempty), String.ofList_toList]

include plain

/-- Path and query are read as they were written, if they are not too long. -/
theorem Target.parse_withQuery
    (plainQuery : ∀ text ∈ query, ∀ c ∈ text.toList, isQueryChar c = true)
    (bounded : (Utf8.bytesOf (Addressing.withQuery path query)).length ≤ maxLength) :
    Target.parse (Addressing.withQuery path query).toList = .ok ⟨path, query.filter (· != "")⟩ := by
  have notLong : ¬ maxLength < (Utf8.encode (Addressing.withQuery path query).toList).length :=
    Nat.not_lt.mpr bounded
  rw [Target.parse, if_neg notLong, Addressing.withQuery]
  cases kept : query.filter (· != "") with
  | none =>
      dsimp only
      rw [scanPath_eq plain]
      exact congrArg Except.ok (Target.ofParts_of_nonempty nonempty none)
  | some text =>
      have given : query = some text := (Option.filter_eq_some_iff.mp kept).1
      have scanned := scanPath_append plain (plainQuery text given)
      have read := Target.ofParts_of_nonempty nonempty (some text.toList)
      have mark : "?".toList = ['?'] := rfl
      rw [Option.map_some, String.ofList_toList] at read
      dsimp only
      rw [String.toList_append, String.toList_append, mark, List.append_assoc,
        List.singleton_append, scanned]
      exact congrArg Except.ok read

/-- Whatever query goes with a path, the path is found again.  A query that is not empty may
still be refused, or end at a number sign. -/
theorem Target.path_of_parse {target : Target}
    (parsed : Target.parse (Addressing.withQuery path query).toList = .ok target) :
    target.path = path := by
  have root (rest : Option (List Char)) : (Target.ofParts path.toList rest).path = path := by
    rw [Target.ofParts_of_nonempty nonempty]
  unfold Addressing.withQuery Target.parse at parsed
  split_ifs at parsed
  cases kept : query.filter (· != "") with
  | none =>
      rw [kept] at parsed
      dsimp only at parsed
      rw [scanPath_eq plain] at parsed
      cases parsed
      exact root none
  | some text =>
      have mark : "?".toList = ['?'] := rfl
      rw [kept] at parsed
      dsimp only at parsed
      rw [String.toList_append, String.toList_append, mark, List.append_assoc,
        List.singleton_append, scanPath_questionMark plain] at parsed
      cases scanned : scanQuery text.toList with
      | error fault =>
          rw [scanned] at parsed
          cases parsed
      | ok query =>
          rw [scanned] at parsed
          cases parsed
          exact root (some query)

end WithQuery

end Uri

namespace Addressing

/-! ## Paths of objects -/

section PathFor

variable (holds : Char → Bool)

theorem holds_of_mem_encodeKey
    (every : ∀ value, value < 256 →
      (Uri.Percent.encodeByte Uri.Percent.isUnreserved (UInt8.ofNat value)).all holds = true)
    (slash : holds '/' = true) {key : String} {c : Char} (member : c ∈ (encodeKey key).toList) :
    holds c = true := by
  rcases Text.mem_joinWith member with inMark | ⟨part, isPart, inPart⟩
  · rw [List.mem_singleton.mp inMark]
    exact slash
  · rcases List.mem_map.mp isPart with ⟨segment, _, rfl⟩
    exact Uri.Percent.holds_of_mem_encode holds every inPart

/-- What holds of coded characters and of the slash holds of a whole path. -/
theorem holds_of_mem_pathFor
    (every : ∀ value, value < 256 →
      (Uri.Percent.encodeByte Uri.Percent.isUnreserved (UInt8.ofNat value)).all holds = true)
    (slash : holds '/' = true) {addressing : Addressing} {bucket key : String} {c : Char}
    (member : c ∈ (addressing.pathFor bucket key).toList) : holds c = true := by
  have isSlash (inMark : c ∈ "/".toList) : holds c = true := by
    rw [List.mem_singleton.mp inMark]
    exact slash
  unfold pathFor at member
  split at member
  · rw [String.toList_append, List.mem_append] at member
    rcases member with inMark | inKey
    · exact isSlash inMark
    · exact holds_of_mem_encodeKey holds every slash inKey
  · split_ifs at member with noBucket
    · rw [String.toList_append, List.mem_append] at member
      rcases member with inMark | inKey
      · exact isSlash inMark
      · exact holds_of_mem_encodeKey holds every slash inKey
    · simp only [String.toList_append, List.mem_append] at member
      rcases member with ((inMark | inBucket) | inMark) | inKey
      · exact isSlash inMark
      · exact Uri.Percent.holds_of_mem_encode holds every inBucket
      · exact isSlash inMark
      · exact holds_of_mem_encodeKey holds every slash inKey

end PathFor

/-- The segments of an object's path before they are coded. -/
def segmentsFor (addressing : Addressing) (bucket key : String) : List String :=
  match addressing.style with
  | .virtualHost => Text.splitOn '/' key
  | .path => if bucket = "" then Text.splitOn '/' key else bucket :: Text.splitOn '/' key

section Paths

variable {addressing : Addressing} {bucket key : String}

theorem segmentsFor_ne_nil : addressing.segmentsFor bucket key ≠ [] := by
  unfold segmentsFor
  split
  · exact Text.splitOn_ne_nil '/' key
  · split_ifs
    · exact Text.splitOn_ne_nil '/' key
    · exact List.cons_ne_nil _ _

theorem pathFor_eq : addressing.pathFor bucket key =
    "/" ++ Text.joinWith "/" ((addressing.segmentsFor bucket key).map Uri.Percent.encode) := by
  rw [pathFor, segmentsFor]
  cases addressing.style with
  | virtualHost => rfl
  | path =>
      dsimp only
      split_ifs with noBucket
      · rfl
      · rcases List.exists_cons_of_ne_nil (Text.splitOn_ne_nil '/' key) with ⟨first, rest, cut⟩
        rw [encodeKey, cut, List.map_cons, List.map_cons, List.map_cons, Text.joinWith_cons_cons]
        simp only [String.append_assoc]

theorem pathFor_ne_empty : addressing.pathFor bucket key ≠ "" := by
  unfold pathFor
  split
  · simp
  · split_ifs <;> simp

theorem isPathChar_of_mem_pathFor :
    ∀ c ∈ (addressing.pathFor bucket key).toList, Uri.isPathChar c = true :=
  fun _ member => holds_of_mem_pathFor Uri.isPathChar (by decide +kernel) (by decide) member

end Paths

/-! ## Endpoints -/

theorem isQueryChar_of_mem_renderPairs {pairs : List (String × String)} {c : Char}
    (member : c ∈ (Uri.Query.renderPairs pairs).toList) : Uri.isQueryChar c = true :=
  Uri.Query.holds_of_mem_renderPairs Uri.isQueryChar (by decide +kernel) (by decide) (by decide)
    member

section Found

variable {addressing : Addressing} {target : StoreTarget} {uri : Uri}
  (found : addressing.endpoint target = .ok uri)

include found

/-- An endpoint is what was read of the path and the query, on the host that was read. -/
theorem exists_of_endpoint :
    ∃ authority place,
      Uri.Authority.parse
          (addressing.authorityText (addressing.hostFor target.bucket target.region)) =
        .ok authority ∧
      Uri.Target.parse (withQuery (addressing.pathFor target.bucket target.key)
        target.query).toList = .ok place ∧
      uri = Uri.absolute addressing.scheme authority place := by
  unfold endpoint at found
  dsimp only at found
  split at found
  · cases found
  · next authority read =>
      split at found
      · cases found
      · next place parsed =>
          cases found
          exact ⟨authority, place, read, parsed, rfl⟩

theorem path_of_endpoint : uri.path = addressing.pathFor target.bucket target.key := by
  rcases exists_of_endpoint found with ⟨authority, place, _, parsed, rfl⟩
  exact Uri.Target.path_of_parse pathFor_ne_empty isPathChar_of_mem_pathFor parsed

end Found

/-- The path and the query of a target are not too long for a URI. -/
def Bounded (addressing : Addressing) (target : StoreTarget) : Prop :=
  (Utf8.bytesOf (withQuery (addressing.pathFor target.bucket target.key) target.query)).length ≤
    Uri.maxLength

instance (addressing : Addressing) (target : StoreTarget) : Decidable (addressing.Bounded target) :=
  inferInstanceAs (Decidable (_ ≤ _))

section PlainQuery

variable {addressing : Addressing} {target : StoreTarget}
  (plainQuery : ∀ text ∈ target.query, ∀ c ∈ text.toList, Uri.isQueryChar c = true)

include plainQuery

/-- With a coded query a target that is not too long has an endpoint exactly if its host is read.
It is the path of the object and the query as they are. -/
theorem endpoint_eq_ok_iff {uri : Uri} : addressing.endpoint target = .ok uri ↔
    addressing.Bounded target ∧ ∃ authority,
      Uri.Authority.parse
          (addressing.authorityText (addressing.hostFor target.bucket target.region)) =
        .ok authority ∧
      uri = Uri.absolute addressing.scheme authority
        ⟨addressing.pathFor target.bucket target.key, target.query.filter (· != "")⟩ := by
  have read (bounded : addressing.Bounded target) := Uri.Target.parse_withQuery pathFor_ne_empty
    (@isPathChar_of_mem_pathFor addressing target.bucket target.key) plainQuery bounded
  constructor
  · intro found
    rcases exists_of_endpoint found with ⟨authority, place, host, parsed, rfl⟩
    have bounded := Uri.Target.bounded_of_parse parsed
    rw [read bounded] at parsed
    cases parsed
    exact ⟨bounded, authority, host, rfl⟩
  · rintro ⟨bounded, authority, host, rfl⟩
    rw [endpoint]
    dsimp only
    rw [host]
    dsimp only
    rw [read bounded]

theorem query_of_endpoint {uri : Uri} (found : addressing.endpoint target = .ok uri) :
    uri.query = target.query.filter (· != "") := by
  rcases (endpoint_eq_ok_iff plainQuery).mp found with ⟨_, authority, _, rfl⟩
  rfl

end PlainQuery

end Addressing
end SignedGateway
