import SignedGateway.Incoming.Route
import SignedGateway.Proofs.Uri.Percent
import SignedGateway.Signature.Canonical

namespace SignedGateway
namespace Route

/-!
# A signed path names one object

Verification reads a path segment by segment and writes each segment in its one
coded form.  Routing reads the bucket as one segment and the whole rest as the
key.  Both depend on the decoded segments only: the canonical path determines
them, and the object is a function of them.  A signature is therefore a signature
for one object, however the path is escaped and below whatever path the gateway
answers.
-/

/-- The path with the root in place of no path. -/
def rooted (path : String) : String :=
  if path = "" then "/" else path

/-- The decoded segments of a path.  A path that begins with a slash has an empty
first segment. -/
def segments (path : String) : List String :=
  (Text.splitOn '/' path).map Uri.Percent.decode

theorem rooted_of_ne {path : String} (nonempty : path ≠ "") : rooted path = path :=
  if_neg nonempty

theorem rooted_ne_empty (path : String) : rooted path ≠ "" := by
  unfold rooted
  split_ifs with empty
  · decide
  · exact empty

theorem segments_ne_nil (path : String) : segments path ≠ [] :=
  mt List.map_eq_nil_iff.mp (Text.splitOn_ne_nil '/' path)

theorem segments_append_slash (before after : String) :
    segments (before ++ "/" ++ after) = segments before ++ segments after := by
  rw [segments, Text.splitOn_append Text.toList_slash, List.map_append]
  rfl

theorem segments_slash_append (rest : String) : segments ("/" ++ rest) = "" :: segments rest := by
  have parts := segments_append_slash "" rest
  rwa [String.empty_append] at parts

/-! ## The canonical path and the segments -/

/-- The canonical path is the segments in their coded form. -/
theorem canonicalUri_eq (path : String) :
    Canonical.uri path = Text.joinWith "/" ((segments (rooted path)).map Uri.Percent.encode) := by
  unfold Canonical.uri rooted
  by_cases empty : path = ""
  · rw [if_pos (Or.inl empty), if_pos empty]
    rfl
  · rw [if_neg empty]
    by_cases root : path = "/"
    · rw [if_pos (Or.inr root), root]
      rfl
    · rw [if_neg (not_or.mpr ⟨empty, root⟩), segments, List.map_map]
      rfl

theorem map_decode_encode (texts : List String) :
    (texts.map Uri.Percent.encode).map Uri.Percent.decode = texts := by
  rw [List.map_map]
  have inverse : Uri.Percent.decode ∘ Uri.Percent.encode = id :=
    funext Uri.Percent.decode_encode
  rw [inverse, List.map_id]

/-- Coded segments are found again between the slashes. -/
theorem splitOn_joinWith_encode {parts : List String} (filled : parts ≠ []) :
    Text.splitOn '/' (Text.joinWith "/" (parts.map Uri.Percent.encode)) =
      parts.map Uri.Percent.encode := by
  apply Text.splitOn_joinWith Text.toList_slash
  · exact mt List.map_eq_nil_iff.mp filled
  · intro part member
    rcases List.mem_map.mp member with ⟨segment, _, rfl⟩
    exact Uri.Percent.not_mem_encode (by decide) segment

theorem segments_joinWith_encode {parts : List String} (filled : parts ≠ []) :
    segments (Text.joinWith "/" (parts.map Uri.Percent.encode)) = parts := by
  rw [segments, splitOn_joinWith_encode filled, map_decode_encode]

theorem splitOn_canonicalUri (path : String) :
    Text.splitOn '/' (Canonical.uri path) = (segments (rooted path)).map Uri.Percent.encode := by
  rw [canonicalUri_eq]
  exact splitOn_joinWith_encode (segments_ne_nil (rooted path))

/-- The canonical path has the segments of the path. -/
theorem segments_canonicalUri (path : String) :
    segments (Canonical.uri path) = segments (rooted path) := by
  rw [segments, splitOn_canonicalUri, map_decode_encode]

theorem canonicalUri_ne_empty (path : String) : Canonical.uri path ≠ "" := by
  intro empty
  have cut := splitOn_canonicalUri path
  rw [empty] at cut
  have single : segments (rooted path) = [""] := by
    rw [← map_decode_encode (segments (rooted path)), ← cut]
    rfl
  have parts := List.map_eq_singleton_iff.mp single
  rcases parts with ⟨part, alone, isEmpty⟩
  have whole := Text.joinWith_splitOn Text.toList_slash (rooted path)
  rw [alone, Uri.Percent.decode_eq_empty isEmpty] at whole
  exact rooted_ne_empty path whole.symm

/-- Two paths are signed alike exactly if their decoded segments agree. -/
theorem canonicalUri_eq_iff {left right : String} :
    Canonical.uri left = Canonical.uri right ↔ segments (rooted left) = segments (rooted right) := by
  constructor
  · intro same
    rw [← segments_canonicalUri, same, segments_canonicalUri]
  · intro same
    rw [canonicalUri_eq, same, ← canonicalUri_eq]

theorem canonicalUri_idempotent (path : String) :
    Canonical.uri (Canonical.uri path) = Canonical.uri path := by
  rw [canonicalUri_eq_iff, rooted_of_ne (canonicalUri_ne_empty path), segments_canonicalUri]

/-! ## The object and the segments -/

/-- The segments after the empty one that a leading slash makes. -/
def relativeSegments : List String → List String
  | "" :: rest => rest
  | parts => parts

/-- The bucket is the first segment and the key is made of all others. -/
def objectBelow : List String → String × String
  | [] => ("", "")
  | bucket :: key => (bucket, Text.joinWith "/" key)

/-- The key is decoded in one go, which is the same as segment by segment. -/
theorem decode_eq_join_segments (text : String) :
    Uri.Percent.decode text = Text.joinWith "/" (segments text) := by
  have parts := Uri.Percent.decode_joinWith Uri.Percent.bytesOf_slash Uri.Percent.separates_slash
    (Text.splitOn '/' text)
  rwa [Text.joinWith_splitOn Text.toList_slash] at parts

theorem bucketAndKey_eq_objectBelow (path : String) :
    bucketAndKey path = objectBelow (segments ((Text.afterHead "/" path).getD path)) := by
  unfold bucketAndKey
  generalize (Text.afterHead "/" path).getD path = relative
  cases cut : Text.splitOnce '/' relative with
  | none =>
      have absent := Text.not_mem_of_splitOnce_eq_none cut
      rw [segments, Text.splitOn_of_not_mem absent]
      simp only [cut]
      rfl
  | some parts =>
      rcases parts with ⟨bucket, key⟩
      rcases Text.splitOnce_eq_some Text.toList_slash cut with ⟨whole, absent⟩
      simp only [cut]
      rw [whole, segments_append_slash, segments, Text.splitOn_of_not_mem absent, List.map_singleton,
        List.singleton_append, objectBelow, decode_eq_join_segments key]

/-- Only a leading slash makes an empty first segment. -/
theorem relativeSegments_of_no_slash {path : String} (nonempty : path ≠ "")
    (noSlash : Text.afterHead "/" path = none) :
    relativeSegments (segments path) = segments path := by
  have whole := Text.joinWith_splitOn Text.toList_slash path
  unfold segments relativeSegments
  cases cut : Text.splitOn '/' path with
  | nil => exact absurd cut (Text.splitOn_ne_nil '/' path)
  | cons first others =>
      rw [cut] at whole
      have firstNonempty : first ≠ "" := by
        rintro rfl
        cases others with
        | nil => exact nonempty whole.symm
        | cons second rest =>
            rw [Text.joinWith_cons_cons, String.empty_append] at whole
            have slash := Text.afterHead_eq_some_iff.mpr whole.symm
            rw [noSlash] at slash
            cases slash
      have decodedNonempty := mt Uri.Percent.decode_eq_empty firstNonempty
      rw [List.map_cons]
      split
      · next decoded =>
          rw [List.cons.injEq] at decoded
          exact absurd decoded.1 decodedNonempty
      · rfl

/-- Routing depends on the decoded segments only. -/
theorem bucketAndKey_eq (path : String) :
    bucketAndKey path = objectBelow (relativeSegments (segments (rooted path))) := by
  rw [bucketAndKey_eq_objectBelow]
  cases slash : Text.afterHead "/" path with
  | some relative =>
      have whole := Text.afterHead_eq_some_iff.mp slash
      have nonempty : path ≠ "" := by
        rintro rfl
        cases slash
      rw [rooted_of_ne nonempty, Option.getD_some, whole, segments_slash_append]
      rfl
  | none =>
      rw [Option.getD_none]
      by_cases empty : path = ""
      · rw [empty]
        rfl
      · rw [rooted_of_ne empty, relativeSegments_of_no_slash empty slash]

/-- Paths that are signed alike name the same object. -/
theorem bucketAndKey_congr {left right : String}
    (same : segments (rooted left) = segments (rooted right)) :
    bucketAndKey left = bucketAndKey right := by
  rw [bucketAndKey_eq, same, ← bucketAndKey_eq]

theorem bucketAndKey_canonicalUri (path : String) :
    bucketAndKey (Canonical.uri path) = bucketAndKey path := by
  apply bucketAndKey_congr
  rw [rooted_of_ne (canonicalUri_ne_empty path), segments_canonicalUri]

/-! ## Below the gateway's own path -/

/-- A path that is accepted is routed whole, or it goes on at a segment boundary
after the gateway's own path. -/
theorem below_eq_some {ownPath : Option String} {path routed : String}
    (accepted : below ownPath path = some routed) :
    Text.trimMarkEnd '/' (ownPath.getD "") = "" ∧ routed = path ∨
      Text.trimMarkEnd '/' (ownPath.getD "") ≠ "" ∧
        (path = Text.trimMarkEnd '/' (ownPath.getD "") ∧ routed = "/" ∨
          ∃ rest, path = Text.trimMarkEnd '/' (ownPath.getD "") ++ "/" ++ rest ∧
            routed = "/" ++ rest) := by
  unfold below at accepted
  generalize Text.trimMarkEnd '/' (ownPath.getD "") = head at accepted
  by_cases noHead : head = ""
  · rw [if_pos noHead, Option.some.injEq] at accepted
    exact Or.inl ⟨noHead, accepted.symm⟩
  · rw [if_neg noHead] at accepted
    refine Or.inr ⟨noHead, ?_⟩
    cases begins : Text.afterHead head path with
    | none =>
        rw [begins] at accepted
        cases accepted
    | some rest =>
        have whole := Text.afterHead_eq_some_iff.mp begins
        rw [begins] at accepted
        simp only at accepted
        split_ifs at accepted with atEnd atSlash
        · rw [Option.some.injEq] at accepted
          rw [atEnd, String.append_empty] at whole
          exact Or.inl ⟨whole, accepted.symm⟩
        · rw [Option.some.injEq] at accepted
          rcases Text.startsWith_iff.mp atSlash with ⟨relative, split⟩
          refine Or.inr ⟨relative, ?_, ?_⟩
          · rw [whole, split, String.append_assoc]
          · rw [← accepted, split]

/-- Paths that are signed alike are routed alike wherever both are accepted. -/
theorem segments_routed_of_segments_eq {ownPath : Option String} {left right : String}
    {leftRouted rightRouted : String}
    (same : segments (rooted left) = segments (rooted right))
    (leftAccepted : below ownPath left = some leftRouted)
    (rightAccepted : below ownPath right = some rightRouted) :
    segments (rooted leftRouted) = segments (rooted rightRouted) := by
  rcases below_eq_some leftAccepted with ⟨noHead, rfl⟩ | ⟨hasHead, leftBelow⟩
  · rcases below_eq_some rightAccepted with ⟨_, rfl⟩ | ⟨hasHead, _⟩
    · exact same
    · exact absurd noHead hasHead
  · rcases below_eq_some rightAccepted with ⟨noHead, _⟩ | ⟨_, rightBelow⟩
    · exact absurd noHead hasHead
    · generalize Text.trimMarkEnd '/' (ownPath.getD "") = head at hasHead leftBelow rightBelow
      -- The own path has the same segments in both, so what follows it has, too.
      have nonempty (rest : String) : head ++ "/" ++ rest ≠ "" := by
        simp
      rcases leftBelow with ⟨rfl, rfl⟩ | ⟨leftRest, rfl, rfl⟩
      · rcases rightBelow with ⟨rfl, rfl⟩ | ⟨rightRest, rfl, rfl⟩
        · rfl
        · rw [rooted_of_ne hasHead, rooted_of_ne (nonempty rightRest), segments_append_slash] at same
          exact absurd (List.self_eq_append_right.mp same) (segments_ne_nil rightRest)
      · rcases rightBelow with ⟨rfl, rfl⟩ | ⟨rightRest, rfl, rfl⟩
        · rw [rooted_of_ne hasHead, rooted_of_ne (nonempty leftRest), segments_append_slash] at same
          exact absurd (List.self_eq_append_right.mp same.symm) (segments_ne_nil leftRest)
        · rw [rooted_of_ne (nonempty leftRest), rooted_of_ne (nonempty rightRest),
            segments_append_slash, segments_append_slash] at same
          rw [rooted_of_ne (by simp), rooted_of_ne (by simp), segments_slash_append,
            segments_slash_append, List.append_cancel_left same]

/-- A signature for a path is a signature for one object: paths with one canonical
form name the same bucket and key below every path at which the gateway takes
both.  The canonical form is its own canonical form and names the same object. -/
theorem object_of_canonicalUri (left right : String) :
    (Canonical.uri left = Canonical.uri right →
      ∀ ownPath leftRouted rightRouted,
        below ownPath left = some leftRouted → below ownPath right = some rightRouted →
          bucketAndKey leftRouted = bucketAndKey rightRouted) ∧
    Canonical.uri (Canonical.uri left) = Canonical.uri left ∧
    bucketAndKey (Canonical.uri left) = bucketAndKey left := by
  refine ⟨?_, canonicalUri_idempotent left, bucketAndKey_canonicalUri left⟩
  intro same ownPath leftRouted rightRouted leftAccepted rightAccepted
  apply bucketAndKey_congr
  exact segments_routed_of_segments_eq (canonicalUri_eq_iff.mp same) leftAccepted rightAccepted

/-- Two spellings of one object, with a needless escape, an escaped slash, a stray
percent sign, an empty segment and bytes that are no text. -/
theorem object_of_two_spellings :
    Canonical.uri "/pre/b%75cket//k%2Fey%zz%FF" = Canonical.uri "/pre/bucket//k%2fey%25zz%EF%BF%BD" ∧
      bucketAndKey "/b%75cket//k%2Fey%zz%FF" = bucketAndKey "/bucket//k%2fey%25zz%EF%BF%BD" := by
  have same : Canonical.uri "/pre/b%75cket//k%2Fey%zz%FF" =
      Canonical.uri "/pre/bucket//k%2fey%25zz%EF%BF%BD" := by
    decide +kernel
  have leftAccepted : below (some "/pre/") "/pre/b%75cket//k%2Fey%zz%FF" =
      some "/b%75cket//k%2Fey%zz%FF" := by
    decide +kernel
  have rightAccepted : below (some "/pre/") "/pre/bucket//k%2fey%25zz%EF%BF%BD" =
      some "/bucket//k%2fey%25zz%EF%BF%BD" := by
    decide +kernel
  have bound := (object_of_canonicalUri "/pre/b%75cket//k%2Fey%zz%FF"
    "/pre/bucket//k%2fey%25zz%EF%BF%BD").1 same
  exact ⟨same, bound (some "/pre/") _ _ leftAccepted rightAccepted⟩

end Route
end SignedGateway
