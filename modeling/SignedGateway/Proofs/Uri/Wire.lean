import Mathlib.Data.List.TakeWhile
import SignedGateway.Proofs.Result
import SignedGateway.Proofs.Text.Ascii
import SignedGateway.Proofs.Text.Blank
import SignedGateway.Proofs.Uri.Percent
import SignedGateway.Uri.Basic
import SignedGateway.Uri.Wire

namespace SignedGateway
namespace Wire

/-!
# The address that a text is taken for

A client that is given the text of an absolute URI keeps its query and the segments of
its path, as long as both are written in characters that may travel.  It does not keep
segments of dots.  Coding leaves the dots of a segment as they are, so a coded segment is
resolved exactly if it is one of dots before it is coded.
-/

/-! ## Segments of dots -/

/-- A segment that names something: it is neither `.` nor `..`, however they are written. -/
def Names (segment : String) : Prop :=
  isDot segment = false ∧ isDoubleDot segment = false

theorem names_empty : Names "" :=
  ⟨rfl, rfl⟩

theorem decode_of_isDot {segment : String} (dot : isDot segment = true) :
    Uri.Percent.decode segment = "." := by
  have read := Text.of_lower_mem (Uri.Percent.decode · == ".") (by decide +kernel)
    (List.contains_iff_mem.mp dot)
  exact beq_iff_eq.mp read

theorem decode_of_isDoubleDot {segment : String} (dots : isDoubleDot segment = true) :
    Uri.Percent.decode segment = ".." := by
  have read := Text.of_lower_mem (Uri.Percent.decode · == "..") (by decide +kernel)
    (List.contains_iff_mem.mp dots)
  exact beq_iff_eq.mp read

/-- Whether or not a dot is escaped, it is one in a segment of dots. -/
theorem not_names_of_dots {keep : UInt8 → Bool} {segment : String}
    (dots : segment = "." ∨ segment = "..") : ¬Names (Uri.Percent.encodeWith keep segment) := by
  have written : Uri.Percent.encodeByte keep 0x2E = ['.'] ∨
      Uri.Percent.encodeByte keep 0x2E = ['%', '2', 'E'] := by
    unfold Uri.Percent.encodeByte
    split_ifs
    · exact Or.inl (by decide)
    · exact Or.inr (by decide)
  have bytes : Utf8.bytesOf "." = [0x2E] ∧ Utf8.bytesOf ".." = [0x2E, 0x2E] := by
    decide
  unfold Names Uri.Percent.encodeWith
  rcases dots with rfl | rfl
  · rw [bytes.1, List.flatMap_singleton]
    rcases written with same | same <;> rw [same] <;> decide +kernel
  · rw [bytes.2, List.flatMap_cons, List.flatMap_singleton]
    rcases written with same | same <;> rw [same] <;> decide +kernel

/-- A coded segment names something exactly if the segment itself is not of dots. -/
theorem names_encodeWith_iff {keep : UInt8 → Bool} (plain : Uri.Percent.Plain keep)
    {segment : String} :
    Names (Uri.Percent.encodeWith keep segment) ↔ segment ≠ "." ∧ segment ≠ ".." := by
  constructor
  · exact fun names => ⟨fun dot => not_names_of_dots (Or.inl dot) names,
      fun dots => not_names_of_dots (Or.inr dots) names⟩
  · rintro ⟨noDot, noDots⟩
    rw [Names, ← Bool.not_eq_true, ← Bool.not_eq_true]
    constructor
    · intro dot
      have read := decode_of_isDot dot
      rw [Uri.Percent.decode_encodeWith plain] at read
      exact noDot read
    · intro dots
      have read := decode_of_isDoubleDot dots
      rw [Uri.Percent.decode_encodeWith plain] at read
      exact noDots read

theorem names_encode_iff {segment : String} :
    Names (Uri.Percent.encode segment) ↔ segment ≠ "." ∧ segment ≠ ".." :=
  names_encodeWith_iff Uri.Percent.plain_isUnreserved

/-! ## Resolving -/

theorem resolveFrom_of_names (passed : List String) {segments : List String}
    (named : ∀ segment ∈ segments, Names segment) :
    resolveFrom passed segments = passed.reverse ++ segments := by
  induction segments generalizing passed with
  | nil => exact (List.append_nil _).symm
  | cons segment rest inductionHypothesis =>
      rcases named segment List.mem_cons_self with ⟨noDot, noDots⟩
      have later := inductionHypothesis (segment :: passed) fun other member =>
        named other (List.mem_cons_of_mem segment member)
      cases rest with
      | nil =>
          rw [resolveFrom, noDots, noDot]
          exact List.reverse_cons
      | cons next rest =>
          rw [resolveFrom, noDots, noDot]
          change resolveFrom (segment :: passed) (next :: rest) = _
          rw [later, List.reverse_cons, List.append_assoc, List.singleton_append]

/-- Whatever is left was there before, or is the end of a path that ended in dots; and no
segment that is left is of dots. -/
theorem mem_resolveFrom {passed segments : List String}
    (named : ∀ segment ∈ passed, Names segment) :
    ∀ segment ∈ resolveFrom passed segments,
      Names segment ∧ (segment = "" ∨ segment ∈ passed ∨ segment ∈ segments) := by
  fun_induction resolveFrom passed segments with
  | case1 passed =>
      intro segment member
      rw [List.mem_reverse] at member
      exact ⟨named segment member, Or.inr (Or.inl member)⟩
  | case2 passed last dots =>
      intro segment member
      rw [List.mem_reverse, List.mem_cons] at member
      rcases member with rfl | member
      · exact ⟨names_empty, Or.inl rfl⟩
      · have before := List.mem_of_mem_drop member
        exact ⟨named segment before, Or.inr (Or.inl before)⟩
  | case3 passed last noDots dot =>
      intro segment member
      rw [List.mem_reverse, List.mem_cons] at member
      rcases member with rfl | before
      · exact ⟨names_empty, Or.inl rfl⟩
      · exact ⟨named segment before, Or.inr (Or.inl before)⟩
  | case4 passed last noDots noDot =>
      intro segment member
      rw [List.mem_reverse, List.mem_cons] at member
      rcases member with rfl | before
      · rw [Bool.not_eq_true] at noDot noDots
        exact ⟨⟨noDot, noDots⟩, Or.inr (Or.inr List.mem_cons_self)⟩
      · exact ⟨named segment before, Or.inr (Or.inl before)⟩
  | case5 passed segment next rest dots inductionHypothesis =>
      intro other member
      rcases inductionHypothesis (fun segment before => named segment (List.mem_of_mem_drop before))
        other member with ⟨names, empty | before | later⟩
      · exact ⟨names, Or.inl empty⟩
      · exact ⟨names, Or.inr (Or.inl (List.mem_of_mem_drop before))⟩
      · exact ⟨names, Or.inr (Or.inr (List.mem_cons_of_mem segment later))⟩
  | case6 passed segment next rest noDots dot inductionHypothesis =>
      intro other member
      rcases inductionHypothesis named other member with ⟨names, empty | before | later⟩
      · exact ⟨names, Or.inl empty⟩
      · exact ⟨names, Or.inr (Or.inl before)⟩
      · exact ⟨names, Or.inr (Or.inr (List.mem_cons_of_mem segment later))⟩
  | case7 passed segment next rest noDots noDot inductionHypothesis =>
      rw [Bool.not_eq_true] at noDot noDots
      have pushed : ∀ other ∈ segment :: passed, Names other := by
        intro other member
        rcases List.mem_cons.mp member with rfl | before
        · exact ⟨noDot, noDots⟩
        · exact named other before
      intro other member
      rcases inductionHypothesis pushed other member with ⟨names, empty | before | later⟩
      · exact ⟨names, Or.inl empty⟩
      · rcases List.mem_cons.mp before with rfl | before
        · exact ⟨names, Or.inr (Or.inr List.mem_cons_self)⟩
        · exact ⟨names, Or.inr (Or.inl before)⟩
      · exact ⟨names, Or.inr (Or.inr (List.mem_cons_of_mem segment later))⟩

theorem resolveFrom_ne_nil (passed : List String) {segments : List String}
    (nonempty : segments ≠ []) : resolveFrom passed segments ≠ [] := by
  fun_induction resolveFrom passed segments with
  | case1 passed => exact absurd rfl nonempty
  | case2 | case3 | case4 => exact mt List.reverse_eq_nil_iff.mp (List.cons_ne_nil _ _)
  | case5 _ _ _ _ _ inductionHypothesis => exact inductionHypothesis (List.cons_ne_nil _ _)
  | case6 _ _ _ _ _ _ inductionHypothesis => exact inductionHypothesis (List.cons_ne_nil _ _)
  | case7 _ _ _ _ _ _ inductionHypothesis => exact inductionHypothesis (List.cons_ne_nil _ _)

theorem mem_resolve {segments : List String} {segment : String}
    (member : segment ∈ resolve segments) :
    Names segment ∧ (segment = "" ∨ segment ∈ segments) := by
  have none : ∀ segment ∈ ([] : List String), Names segment :=
    fun _ absent => absurd absent List.not_mem_nil
  rcases mem_resolveFrom none segment member with ⟨names, empty | absent | kept⟩
  · exact ⟨names, Or.inl empty⟩
  · exact absurd absent List.not_mem_nil
  · exact ⟨names, Or.inr kept⟩

/-- Segments stay as they are exactly if each of them names something. -/
theorem resolve_eq_self_iff {segments : List String} :
    resolve segments = segments ↔ ∀ segment ∈ segments, Names segment := by
  constructor
  · intro same segment member
    rw [← same] at member
    exact (mem_resolve member).1
  · intro named
    exact resolveFrom_of_names [] named

/-- So a path stays as it is exactly if each of its segments names something. -/
theorem joinWith_resolve_iff {segments : List String} (nonempty : segments ≠ [])
    (free : ∀ segment ∈ segments, '/' ∉ segment.toList) :
    Text.joinWith "/" (resolve segments) = Text.joinWith "/" segments ↔
      ∀ segment ∈ segments, Names segment := by
  rw [← resolve_eq_self_iff]
  constructor
  · intro same
    apply Text.eq_of_joinWith_eq Text.toList_slash (resolveFrom_ne_nil [] nonempty) nonempty _ free same
    intro segment member
    rcases (mem_resolve member).2 with empty | kept
    · rw [empty]
      exact List.not_mem_nil
    · exact free segment kept
  · intro same
    rw [same]

/-! ## Characters that reach the store as they are written -/

/-- Characters that are kept in a path. -/
def keptInPath (c : Char) : Bool :=
  decide (c.toNat < 0x80) && isPathByte (UInt8.ofNat c.toNat) && c != '\\'

/-- Characters that are kept in a query. -/
def keptInQuery (c : Char) : Bool :=
  decide (c.toNat < 0x80) && isQueryByte (UInt8.ofNat c.toNat)

/-- Characters of an authority that end neither it nor the text. -/
def keptInAuthority (c : Char) : Bool :=
  (c == '%' || Uri.isAuthorityChar c) && !Uri.endsAuthority c

/-- What is false of the first 33 characters is false of the characters that are skipped. -/
theorem isEdge_of_holds {holds : Char → Bool}
    (fails : ∀ value, value < 0x21 → holds (Char.ofNat value) = false) {c : Char}
    (held : holds c = true) : isEdge c = false := by
  rw [isEdge, decide_eq_false_iff_not]
  intro edge
  have none := fails c.toNat (Nat.lt_succ_of_le edge)
  rw [Char.ofNat_toNat, held] at none
  cases none

theorem ne_of_holds {holds : Char → Bool} {c mark : Char} (held : holds c = true)
    (fails : holds mark = false) : c ≠ mark := by
  rintro rfl
  rw [held] at fails
  cases fails

/-- Tabs and line breaks are taken out, and nothing else that can be seen. -/
theorem filter_of_visible {cs : List Char} (visible : ∀ c ∈ cs, isEdge c = false) :
    cs.filter (fun c => c != '\t' && c != '\n' && c != '\r') = cs := by
  rw [List.filter_eq_self]
  intro c member
  have shown := visible c member
  have noTab : c ≠ '\t' := by
    rintro rfl
    cases shown
  have noNewline : c ≠ '\n' := by
    rintro rfl
    cases shown
  have noReturn : c ≠ '\r' := by
    rintro rfl
    cases shown
  rw [bne_iff_ne.mpr noTab, bne_iff_ne.mpr noNewline, bne_iff_ne.mpr noReturn]
  rfl

theorem tidy_eq_toList {text : String} (visible : ∀ c ∈ text.toList, isEdge c = false) :
    tidy text = text.toList := by
  have edges : Text.trimBoth isEdge text.toList = text.toList := by
    apply Text.trimBoth_eq_self
    · rw [Option.any_eq_false]
      exact fun c first => visible c (List.mem_of_head? first)
    · rw [Option.any_eq_false]
      exact fun c last => visible c (List.mem_of_getLast? last)
  rw [tidy, edges, filter_of_visible visible]

end Wire

namespace Uri

theorem AuthorityScan.isAuthorityChar_of_next {scan next : AuthorityScan} {c : Char}
    (goesOn : scan.next c = .ok next) : (c == '%' || isAuthorityChar c) = true := by
  by_cases mark : c ∈ [':', '[', ']', '@', '%']
  · have every : [':', '[', ']', '@', '%'].all (fun c => c == '%' || isAuthorityChar c) = true := by
      decide
    exact List.all_eq_true.mp every c mark
  · simp only [List.mem_cons, List.not_mem_nil, or_false, not_or] at mark
    rcases mark with ⟨noColon, noOpen, noClose, noAt, noPercent⟩
    rw [AuthorityScan.next, if_neg noColon, if_neg noOpen, if_neg noClose, if_neg noAt,
      if_neg noPercent] at goesOn
    split_ifs at goesOn with plain
    rw [plain, Bool.or_true]

/-- An authority that was scanned is the beginning of the text, and holds no other
characters. -/
theorem scanAuthority_eq_ok {scan : AuthorityScan} {text scanned rest : List Char}
    (ended : scanAuthority scan text = .ok (scanned, rest)) :
    text = scanned ++ rest ∧ ∀ c ∈ scanned, Wire.keptInAuthority c = true := by
  induction text generalizing scan scanned with
  | nil =>
      rw [scanAuthority] at ended
      rcases Result.bind_eq_ok_iff.mp ended with ⟨_, _, made⟩
      cases made
      exact ⟨rfl, fun c absent => absurd absent List.not_mem_nil⟩
  | cons first later inductionHypothesis =>
      rw [scanAuthority] at ended
      split_ifs at ended with ends
      · rcases Result.bind_eq_ok_iff.mp ended with ⟨_, _, made⟩
        cases made
        exact ⟨rfl, fun c absent => absurd absent List.not_mem_nil⟩
      · rcases Result.bind_eq_ok_iff.mp ended with ⟨next, goesOn, ended⟩
        rcases Result.bind_eq_ok_iff.mp ended with ⟨⟨others, left⟩, scannedLater, made⟩
        cases made
        rcases inductionHypothesis scannedLater with ⟨whole, kept⟩
        refine ⟨congrArg (first :: ·) whole, fun c member => ?_⟩
        rcases List.mem_cons.mp member with rfl | inOthers
        · rw [Wire.keptInAuthority, AuthorityScan.isAuthorityChar_of_next goesOn,
            Bool.not_eq_true _ |>.mp ends]
          rfl
        · exact kept c inOthers

theorem Authority.keptInAuthority_of_parse {text : String} {authority : Authority}
    (parsed : Authority.parse text = .ok authority) :
    authority.text ≠ "" ∧ ∀ c ∈ authority.text.toList, Wire.keptInAuthority c = true := by
  unfold Authority.parse at parsed
  split at parsed
  · cases parsed
  · next filled =>
      split at parsed
      · cases parsed
      · next scanned ended =>
          cases parsed
          rcases scanAuthority_eq_ok ended with ⟨whole, kept⟩
          rw [List.append_nil] at whole
          refine ⟨fun empty => filled (String.toList_eq_nil_iff.mpr empty), ?_⟩
          rw [whole]
          exact kept
      · cases parsed

end Uri

namespace Wire

/-! ## The text of an absolute URI -/

/-- The query behind its question mark. -/
def queryPart : Option String → List Char
  | none => []
  | some query => '?' :: query.toList

theorem map_encodeWith_splitOn {tail : String} (place : ∀ c ∈ tail.toList, keptInPath c = true) :
    (Text.splitOn '/' tail).map (fun segment => Uri.Percent.encodeWith isPathByte segment) =
      Text.splitOn '/' tail := by
  have same : ∀ segment ∈ Text.splitOn '/' tail,
      Uri.Percent.encodeWith isPathByte segment = segment := by
    intro segment isPart
    apply Uri.Percent.encodeWith_eq_self
    intro c member
    have kept := place c (Text.mem_of_mem_splitOn isPart member)
    rw [keptInPath, Bool.and_eq_true, Bool.and_eq_true, decide_eq_true_eq] at kept
    exact kept.1
  rw [List.map_congr_left same, List.map_id']

theorem encodeWith_query {query : String} (asked : ∀ c ∈ query.toList, keptInQuery c = true) :
    Uri.Percent.encodeWith isQueryByte query = query := by
  apply Uri.Percent.encodeWith_eq_self
  intro c member
  have kept := asked c member
  rwa [keptInQuery, Bool.and_eq_true, decide_eq_true_eq] at kept

/-- What stands behind a scheme without the slashes at its beginning. -/
def placeOf (text : List Char) : List Char :=
  (text.map fun c => if c = '\\' then '/' else c).dropWhile (· == '/')

/-- Behind its scheme, a text is taken apart at its question mark and at its slashes. -/
theorem parseAfterScheme_append (scheme : String) {front : List Char} {query : Option String}
    (unasked : '?' ∉ front) (unfragmented : '#' ∉ front)
    (asked : ∀ text ∈ query, ∀ c ∈ text.toList, keptInQuery c = true) :
    parseAfterScheme scheme (front ++ queryPart query) =
      (parseHost scheme
          (afterLastMark '@' (String.ofList ((placeOf front).takeWhile (· != '/'))))).map fun found =>
        ⟨scheme, found.1, found.2,
          resolve ((Text.splitOn '/'
            (String.ofList (((placeOf front).dropWhile (· != '/')).drop 1))).map fun segment =>
              Uri.Percent.encodeWith isPathByte segment), query⟩ := by
  have unfragmentedAll : (front ++ queryPart query).takeWhile (· != '#') =
      front ++ queryPart query := by
    rw [List.takeWhile_eq_self_iff]
    intro c member
    rcases List.mem_append.mp member with inFront | inQuery
    · exact Text.ne_separator_of_not_mem unfragmented c inFront
    · cases query with
      | none => exact absurd inQuery List.not_mem_nil
      | some text =>
          rcases List.mem_cons.mp inQuery with rfl | inText
          · decide
          · exact bne_iff_ne.mpr (ne_of_holds (asked text rfl c inText) (by decide))
  have beforeQuery : (front ++ queryPart query).takeWhile (· != '?') = front := by
    rw [List.takeWhile_append_of_pos (Text.ne_separator_of_not_mem unasked)]
    cases query <;> exact List.append_nil front
  have behind : (front ++ queryPart query).dropWhile (· != '?') = queryPart query := by
    rw [List.dropWhile_append_of_pos (Text.ne_separator_of_not_mem unasked)]
    cases query <;> rfl
  have placed : (front.map fun c => if c = '\\' then '/' else c).dropWhile (· == '/') =
      placeOf front := rfl
  rw [parseAfterScheme, unfragmentedAll]
  dsimp only
  rw [beforeQuery, behind, placed]
  cases parseHost scheme
      (afterLastMark '@' (String.ofList ((placeOf front).takeWhile (· != '/')))) with
  | none => rfl
  | some found =>
      cases query with
      | none => rfl
      | some text =>
          have carried := encodeWith_query (asked text rfl)
          change some (Address.mk _ _ _ _
            (some (Uri.Percent.encodeWith isQueryByte (String.ofList text.toList)))) = _
          rw [String.ofList_toList, carried]
          rfl

section Absolute

variable {authority tail : String} {query : Option String}

/-- Before the query, no mark stands but slashes. -/
theorem ne_of_mem_front (host : ∀ c ∈ authority.toList, keptInAuthority c = true)
    (place : ∀ c ∈ tail.toList, keptInPath c = true) {mark : Char} (slash : mark ≠ '/')
    (inHost : keptInAuthority mark = false) (inPlace : keptInPath mark = false) :
    ∀ c ∈ '/' :: '/' :: (authority.toList ++ '/' :: tail.toList), (c != mark) = true := by
  intro c member
  simp only [List.mem_cons, List.mem_append] at member
  rw [bne_iff_ne]
  rcases member with rfl | rfl | inHostText | rfl | inTail
  · exact slash.symm
  · exact slash.symm
  · exact ne_of_holds (host c inHostText) inHost
  · exact slash.symm
  · exact ne_of_holds (place c inTail) inPlace

/-- Behind its scheme, an absolute URI is taken apart where it was put together. -/
theorem parseAfterScheme_eq (scheme : String) (nonempty : authority ≠ "")
    (host : ∀ c ∈ authority.toList, keptInAuthority c = true)
    (place : ∀ c ∈ tail.toList, keptInPath c = true)
    (asked : ∀ text ∈ query, ∀ c ∈ text.toList, keptInQuery c = true) :
    parseAfterScheme scheme
        ('/' :: '/' :: (authority.toList ++ '/' :: tail.toList) ++ queryPart query) =
      (parseHost scheme (afterLastMark '@' authority)).map fun found =>
        ⟨scheme, found.1, found.2, resolve (Text.splitOn '/' tail), query⟩ := by
  generalize isFront : '/' :: '/' :: (authority.toList ++ '/' :: tail.toList) = front
  have free {mark : Char} (slash : mark ≠ '/') (inHost : keptInAuthority mark = false)
      (inPlace : keptInPath mark = false) : mark ∉ front := by
    rw [← isFront]
    exact fun member => bne_iff_ne.mp (ne_of_mem_front host place slash inHost inPlace _ member) rfl
  have slashed : front.map (fun c => if c = '\\' then '/' else c) = front := by
    have kept : ∀ c ∈ front, (if c = '\\' then '/' else c) = c := by
      rw [← isFront]
      exact fun c member => if_neg (bne_iff_ne.mp
        (ne_of_mem_front host place (by decide) (by decide) (by decide) c member))
    rw [List.map_congr_left kept, List.map_id']
  have placed : placeOf front = authority.toList ++ '/' :: tail.toList := by
    have filled : authority.toList ≠ [] := mt String.toList_eq_nil_iff.mp nonempty
    rw [placeOf, slashed, ← isFront]
    change (authority.toList ++ '/' :: tail.toList).dropWhile (· == '/') = _
    apply Text.dropWhile_eq_self_of_head
    rw [List.head?_append_of_ne_nil _ filled, Option.any_eq_false]
    intro c first
    rw [beq_eq_false_iff_ne]
    exact ne_of_holds (host c (List.mem_of_head? first)) (by decide)
  have unslashed : ∀ c ∈ authority.toList, (c != '/') = true := fun c member =>
    bne_iff_ne.mpr (ne_of_holds (host c member) (by decide))
  have hosted : (authority.toList ++ '/' :: tail.toList).takeWhile (· != '/') = authority.toList := by
    rw [List.takeWhile_append_of_pos unslashed]
    exact List.append_nil _
  have afterHost : (authority.toList ++ '/' :: tail.toList).dropWhile (· != '/') =
      '/' :: tail.toList := by
    rw [List.dropWhile_append_of_pos unslashed]
    rfl
  rw [parseAfterScheme_append scheme (free (by decide) (by decide) (by decide))
      (free (by decide) (by decide) (by decide)) asked, placed, hosted, afterHost,
    String.ofList_toList, List.drop_one, List.tail_cons, String.ofList_toList,
    map_encodeWith_splitOn place]

theorem toList_render_absolute (scheme : String) :
    (Uri.absolute scheme ⟨authority⟩ ⟨"/" ++ tail, query⟩).render.toList =
      scheme.toList ++
        ':' :: ('/' :: '/' :: (authority.toList ++ '/' :: tail.toList) ++ queryPart query) := by
  cases query <;>
    simp [Uri.render, Uri.absolute, Uri.Target.render, queryPart, String.toList_append]

section Web

variable {scheme : String} (web : scheme = "http" ∨ scheme = "https") (nonempty : authority ≠ "")
  (host : ∀ c ∈ authority.toList, keptInAuthority c = true)
  (place : ∀ c ∈ tail.toList, keptInPath c = true)
  (asked : ∀ text ∈ query, ∀ c ∈ text.toList, keptInQuery c = true)

include web

theorem kept_of_mem_scheme : ∀ c ∈ scheme.toList, isEdge c = false ∧ (c != ':') = true := by
  have every : scheme.toList.all (fun c => !isEdge c && c != ':') = true := by
    rcases web with rfl | rfl <;> decide
  intro c member
  have kept := List.all_eq_true.mp every c member
  rwa [Bool.and_eq_true, Bool.not_eq_true'] at kept

include host place asked

theorem isEdge_of_mem_render_absolute :
    ∀ c ∈ (Uri.absolute scheme ⟨authority⟩ ⟨"/" ++ tail, query⟩).render.toList,
      isEdge c = false := by
  intro c member
  rw [toList_render_absolute] at member
  simp only [List.mem_append, List.mem_cons] at member
  rcases member with inScheme | rfl | (rfl | rfl | inHost | rfl | inPath) | inQuery
  · exact (kept_of_mem_scheme web c inScheme).1
  · rfl
  · rfl
  · rfl
  · exact isEdge_of_holds (by decide) (host c inHost)
  · rfl
  · exact isEdge_of_holds (by decide) (place c inPath)
  · cases query with
    | none => exact absurd inQuery List.not_mem_nil
    | some text =>
        rcases List.mem_cons.mp inQuery with rfl | inText
        · rfl
        · exact isEdge_of_holds (by decide) (asked text rfl c inText)

include nonempty

/-- The address of an absolute URI has its query, and its path with the dots resolved. -/
theorem eq_of_parse?_absolute {address : Address}
    (parsed : parse? (Uri.absolute scheme ⟨authority⟩ ⟨"/" ++ tail, query⟩).render =
      some address) :
    address.segments = resolve (Text.splitOn '/' tail) ∧ address.query = query := by
  have lowered : Text.lower scheme = scheme := by
    rcases web with rfl | rfl <;> decide
  have front : ∀ c ∈ scheme.toList, (c != ':') = true :=
    fun c member => (kept_of_mem_scheme web c member).2
  have beforeColon (rest : List Char) :
      (scheme.toList ++ ':' :: rest).takeWhile (· != ':') = scheme.toList := by
    rw [List.takeWhile_append_of_pos front]
    exact List.append_nil _
  have behindColon (rest : List Char) :
      (scheme.toList ++ ':' :: rest).dropWhile (· != ':') = ':' :: rest := by
    rw [List.dropWhile_append_of_pos front]
    rfl
  rw [parse?, tidy_eq_toList (isEdge_of_mem_render_absolute web host place asked),
    toList_render_absolute, beforeColon, behindColon, String.ofList_toList, lowered, if_pos web,
    List.drop_one, List.tail_cons, parseAfterScheme_eq scheme nonempty host place asked,
    Option.map_eq_some_iff] at parsed
  rcases parsed with ⟨found, _, rfl⟩
  exact ⟨rfl, rfl⟩

end Web

end Absolute

end Wire
end SignedGateway
