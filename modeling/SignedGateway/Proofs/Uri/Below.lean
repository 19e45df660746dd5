import SignedGateway.Proofs.Uri.Wire

namespace SignedGateway
namespace Wire

/-!
# Addresses below another

The text of an address with one more segment behind it is an address on the same host, and
its segments are those of the first one and the new one, if that names something.  A segment
of dots stands for the address itself or for the one above it.
-/

/-! ## Resolving one more segment -/

/-- What stands before the last segment is resolved without it. -/
theorem exists_resolveFrom_concat (passed segments : List String) :
    ∃ reached, ∀ last, resolveFrom passed (segments ++ [last]) = resolveFrom reached [last] := by
  induction segments generalizing passed with
  | nil => exact ⟨passed, fun _ => rfl⟩
  | cons segment rest inductionHypothesis =>
      have step (last : String) : resolveFrom passed (segment :: rest ++ [last]) =
          if isDoubleDot segment then resolveFrom (passed.drop 1) (rest ++ [last])
          else if isDot segment then resolveFrom passed (rest ++ [last])
          else resolveFrom (segment :: passed) (rest ++ [last]) := by
        cases rest <;> rfl
      by_cases dots : isDoubleDot segment = true
      · rcases inductionHypothesis (passed.drop 1) with ⟨reached, same⟩
        exact ⟨reached, fun last => (step last).trans ((if_pos dots).trans (same last))⟩
      · by_cases dot : isDot segment = true
        · rcases inductionHypothesis passed with ⟨reached, same⟩
          exact ⟨reached, fun last =>
            (step last).trans ((if_neg dots).trans ((if_pos dot).trans (same last)))⟩
        · rcases inductionHypothesis (segment :: passed) with ⟨reached, same⟩
          exact ⟨reached, fun last =>
            (step last).trans ((if_neg dots).trans ((if_neg dot).trans (same last)))⟩

theorem resolveFrom_singleton_of_names (reached : List String) {last : String} (names : Names last) :
    resolveFrom reached [last] = reached.reverse ++ [last] := by
  rw [resolveFrom, names.1, names.2]
  exact List.reverse_cons

/-- Dots at the end leave an empty segment behind what is left. -/
theorem getLast?_resolveFrom_of_dots (reached : List String) {last : String} (dots : ¬Names last) :
    (resolveFrom reached [last]).getLast? = some "" := by
  rw [resolveFrom]
  split_ifs with isDouble isSingle
  · simp
  · simp
  · exact absurd ⟨Bool.not_eq_true _ |>.mp isSingle, Bool.not_eq_true _ |>.mp isDouble⟩ dots

/-! ## The text of an address with a segment behind it -/

/-- The segments of a place with a slash behind it, without the last one, which is empty. -/
def directoryOf (place : List Char) : List String :=
  (Text.splitOn '/'
    (String.ofList (((place ++ ['/']).dropWhile (· != '/')).drop 1))).dropLast

/-- The rest of a place ends in the new segment. -/
theorem splitOn_place (place : List Char) {segment : String} (single : '/' ∉ segment.toList) :
    Text.splitOn '/'
        (String.ofList (((place ++ '/' :: segment.toList).dropWhile (· != '/')).drop 1)) =
      directoryOf place ++ [segment] := by
  have skip {front : List Char} (free : '/' ∉ front) (rest : List Char) :
      ((front ++ '/' :: rest).dropWhile (· != '/')).drop 1 = rest := by
    rw [List.dropWhile_append_of_pos (Text.ne_separator_of_not_mem free)]
    rfl
  have last : Text.splitOn '/' segment = [segment] := Text.splitOn_of_not_mem single
  unfold directoryOf
  by_cases slash : '/' ∈ place
  · rcases List.eq_append_cons_of_mem slash with ⟨front, rest, rfl, free⟩
    have joined : String.ofList (rest ++ '/' :: segment.toList) =
        String.ofList rest ++ "/" ++ segment := by
      apply String.toList_injective
      simp
    have closed : String.ofList (rest ++ ['/']) = String.ofList rest ++ "/" ++ "" := by
      apply String.toList_injective
      simp
    have empty : Text.splitOn '/' "" = [""] := rfl
    rw [List.append_assoc, List.append_assoc, List.cons_append, List.cons_append, skip free,
      skip free, joined, closed, Text.splitOn_append Text.toList_slash,
      Text.splitOn_append Text.toList_slash, last, empty, List.dropLast_concat]
  · rw [skip slash, skip slash, String.ofList_toList, last]
    rfl

theorem takeWhile_place (place rest : List Char) :
    (place ++ '/' :: rest).takeWhile (· != '/') = place.takeWhile (· != '/') := by
  induction place with
  | nil => rfl
  | cons c later inductionHypothesis =>
      rw [List.cons_append, List.takeWhile_cons, List.takeWhile_cons, inductionHypothesis]

section Segment

variable {segment : String} (kept : ∀ c ∈ segment.toList, keptInPath c = true)

include kept

theorem map_slash_segment : ('/' :: segment.toList).map (fun c => if c = '\\' then '/' else c) =
    '/' :: segment.toList := by
  have same : ∀ c ∈ '/' :: segment.toList, (if c = '\\' then '/' else c) = c := by
    intro c member
    apply if_neg
    rcases List.mem_cons.mp member with rfl | inSegment
    · decide
    · exact ne_of_holds (kept c inSegment) (by decide)
  rw [List.map_congr_left same, List.map_id']

theorem encodeWith_segment : Uri.Percent.encodeWith isPathByte segment = segment := by
  apply Uri.Percent.encodeWith_eq_self
  intro c member
  have keeps := kept c member
  rw [keptInPath, Bool.and_eq_true, Bool.and_eq_true, decide_eq_true_eq] at keeps
  exact keeps.1

theorem placeOf_append {text : List Char} (placed : placeOf text ≠ []) :
    placeOf (text ++ '/' :: segment.toList) = placeOf text ++ '/' :: segment.toList := by
  have filled : (placeOf text).isEmpty = false :=
    Bool.not_eq_true _ |>.mp (mt List.isEmpty_iff.mp placed)
  unfold placeOf at filled ⊢
  rw [List.map_append, map_slash_segment kept, List.dropWhile_append, filled]
  rfl

variable {text : List Char} (unasked : '?' ∉ text) (unfragmented : '#' ∉ text)
  (single : '/' ∉ segment.toList)
  {query : Option String} (asked : ∀ asks ∈ query, ∀ c ∈ asks.toList, keptInQuery c = true)

include unasked unfragmented single asked

/-- Behind its scheme, a text with a segment and a query behind it is taken apart before the
segment and after it. -/
theorem parseAfterScheme_below (scheme : String) (placed : placeOf text ≠ []) :
    parseAfterScheme scheme (text ++ '/' :: segment.toList ++ queryPart query) =
      (parseHost scheme
          (afterLastMark '@' (String.ofList ((placeOf text).takeWhile (· != '/'))))).map fun found =>
        ⟨scheme, found.1, found.2,
          resolve ((directoryOf (placeOf text)).map
            (fun segment => Uri.Percent.encodeWith isPathByte segment) ++ [segment]), query⟩ := by
  have free {mark : Char} (absent : mark ∉ text) (slash : mark ≠ '/')
      (inPlace : keptInPath mark = false) : mark ∉ text ++ '/' :: segment.toList := by
    intro member
    rcases List.mem_append.mp member with inText | inRest
    · exact absent inText
    · rcases List.mem_cons.mp inRest with same | inSegment
      · exact slash same
      · exact ne_of_holds (kept mark inSegment) inPlace rfl
  rw [parseAfterScheme_append scheme (free unasked (by decide) (by decide))
      (free unfragmented (by decide) (by decide)) asked, placeOf_append kept placed,
    takeWhile_place, splitOn_place _ single, List.map_append, List.map_singleton,
    encodeWith_segment kept]

end Segment

/-- Without a host there is no address. -/
theorem parseHost_empty (scheme : String) : parseHost scheme (afterLastMark '@' "") = none := by
  have empty : afterLastMark '@' "" = "" := by
    decide +kernel
  have undecoded : Uri.Percent.decode "" = "" := by
    decide +kernel
  have uncut : Text.splitOnce ':' "" = none := rfl
  rw [empty, parseHost, uncut]
  simp [undecoded, Text.lower]

/-- So a text that has an address has more behind its scheme than slashes. -/
theorem placeOf_ne_nil_of_parse {scheme : String} {text : List Char} {base : Address}
    (unasked : '?' ∉ text) (unfragmented : '#' ∉ text)
    (read : parseAfterScheme scheme (text ++ ['/'] ++ queryPart none) = some base) :
    placeOf text ≠ [] := by
  intro empty
  have nothing : placeOf (text ++ ['/']) = [] := by
    unfold placeOf at empty ⊢
    rw [List.map_append, List.dropWhile_append, empty]
    rfl
  have free {mark : Char} (absent : mark ∉ text) (slash : mark ≠ '/') : mark ∉ text ++ ['/'] := by
    rw [List.mem_append, List.mem_singleton, not_or]
    exact ⟨absent, slash⟩
  rw [parseAfterScheme_append scheme (free unasked (by decide)) (free unfragmented (by decide))
    (fun _ absent => absurd absent (Option.not_mem_none _)), nothing] at read
  have hostless : parseHost scheme
      (afterLastMark '@' (String.ofList (([] : List Char).takeWhile (· != '/')))) = none :=
    parseHost_empty scheme
  rw [hostless] at read
  cases read

/-! ## The whole text -/

/-- What is kept of a text when more stands behind it. -/
def tidyFront (text : String) : List Char :=
  (Text.trimStart isEdge text.toList).filter fun c => c != '\t' && c != '\n' && c != '\r'

theorem mem_of_mem_tidyFront {text : String} {c : Char} (member : c ∈ tidyFront text) :
    c ∈ text.toList :=
  List.dropWhile_subset _ (List.mem_of_mem_filter member)

/-- Nothing is taken off the end of a text behind which something can be seen. -/
theorem tidy_append (text : String) {tail : List Char} (filled : tail ≠ [])
    (visible : ∀ c ∈ tail, isEdge c = false) :
    tidy (text ++ String.ofList tail) = tidyFront text ++ tail := by
  have started : Text.trimStart isEdge (text.toList ++ tail) =
      Text.trimStart isEdge text.toList ++ tail := by
    have first : tail.dropWhile isEdge = tail := by
      apply Text.dropWhile_eq_self_of_head
      rw [Option.any_eq_false]
      exact fun c first => visible c (List.mem_of_head? first)
    rw [Text.trimStart, List.dropWhile_append, first]
    split_ifs with empty
    · rw [Text.trimStart, List.isEmpty_iff.mp empty]
      rfl
    · rfl
  have ended : Text.trimEnd isEdge (Text.trimStart isEdge text.toList ++ tail) =
      Text.trimStart isEdge text.toList ++ tail := by
    rw [Text.trimEnd, Text.dropWhile_eq_self_of_head, List.reverse_reverse]
    rw [List.head?_reverse, List.getLast?_append_of_ne_nil _ filled, Option.any_eq_false]
    exact fun c last => visible c (List.mem_of_getLast? last)
  rw [tidy, Text.trimBoth, String.toList_append, String.toList_ofList, started, ended,
    List.filter_append, filter_of_visible visible]
  rfl

/-- A text is read behind the colon of its scheme. -/
theorem parse?_of_tidy {text : String} {name rest : List Char}
    (shape : tidy text = name ++ ':' :: rest) (free : ':' ∉ name)
    (web : Text.lower (String.ofList name) = "http" ∨ Text.lower (String.ofList name) = "https") :
    parse? text = parseAfterScheme (Text.lower (String.ofList name)) rest := by
  have before : (name ++ ':' :: rest).takeWhile (· != ':') = name := by
    rw [List.takeWhile_append_of_pos (Text.ne_separator_of_not_mem free),
      List.takeWhile_cons_of_neg (by decide), List.append_nil]
  have behind : ((name ++ ':' :: rest).dropWhile (· != ':')).drop 1 = rest := by
    rw [List.dropWhile_append_of_pos (Text.ne_separator_of_not_mem free)]
    rfl
  rw [parse?, shape, before, behind, if_pos web]

/-- The colon of a scheme is not behind a last slash. -/
theorem exists_scheme {text : String} {front : List Char} {address : Address}
    (shape : tidy text = front ++ ['/']) (read : parse? text = some address) :
    ∃ name rest, front = name ++ ':' :: rest ∧ ':' ∉ name ∧
      (Text.lower (String.ofList name) = "http" ∨ Text.lower (String.ofList name) = "https") := by
  by_cases colon : ':' ∈ front
  · rcases List.eq_append_cons_of_mem colon with ⟨name, rest, rfl, free⟩
    refine ⟨name, rest, rfl, free, ?_⟩
    by_contra foreign
    have before : (name ++ ':' :: (rest ++ ['/'])).takeWhile (· != ':') = name := by
      rw [List.takeWhile_append_of_pos (Text.ne_separator_of_not_mem free),
        List.takeWhile_cons_of_neg (by decide), List.append_nil]
    rw [parse?, shape, List.append_assoc, List.cons_append, before, if_neg foreign] at read
    cases read
  · have whole : (front ++ ['/']).takeWhile (· != ':') = front ++ ['/'] := by
      rw [List.takeWhile_append_of_pos (Text.ne_separator_of_not_mem colon)]
      rfl
    have last : (Text.lower (String.ofList (front ++ ['/']))).toList.getLast? = some '/' := by
      rw [Text.lower, String.toList_ofList, String.toList_ofList, List.map_append,
        List.getLast?_append_of_ne_nil _ (by decide)]
      rfl
    rw [parse?, shape, whole] at read
    split_ifs at read with web
    rcases web with web | web <;> rw [web] at last <;> cases last

/-- An address with a segment and a query behind it differs from the address in these two, and
the segment is resolved behind what the address ends in. -/
theorem parse?_below {endpoint : String} {base : Address}
    (read : parse? (endpoint ++ "/") = some base) (unasked : '?' ∉ endpoint.toList)
    (unfragmented : '#' ∉ endpoint.toList) :
    ∃ reached : List String, base.segments = reached.reverse ++ [""] ∧
      ∀ (segment : String) (query : Option String),
        (∀ c ∈ segment.toList, keptInPath c = true) → '/' ∉ segment.toList →
        (∀ text ∈ query, ∀ c ∈ text.toList, keptInQuery c = true) →
        parse? (endpoint ++ String.ofList ('/' :: segment.toList ++ queryPart query)) =
          some { base with segments := resolveFrom reached [segment], query := query } := by
  have visibleSlash : ∀ c ∈ ['/'], isEdge c = false := by
    intro c member
    rw [List.mem_singleton.mp member]
    rfl
  have closed : tidy (endpoint ++ "/") = tidyFront endpoint ++ ['/'] :=
    tidy_append endpoint (List.cons_ne_nil _ _) visibleSlash
  rcases exists_scheme closed read with ⟨name, rest, front, free, web⟩
  have absent {mark : Char} (notIn : mark ∉ endpoint.toList) : mark ∉ rest := by
    intro member
    have inFront : mark ∈ tidyFront endpoint := by
      rw [front]
      exact List.mem_append_right name (List.mem_cons_of_mem ':' member)
    exact notIn (mem_of_mem_tidyFront inFront)
  have behind (tail : List Char) : name ++ ':' :: rest ++ tail = name ++ ':' :: (rest ++ tail) := by
    rw [List.append_assoc, List.cons_append]
  rw [front, behind] at closed
  rw [parse?_of_tidy closed free web] at read
  have none : rest ++ ['/'] = rest ++ '/' :: "".toList ++ queryPart .none := (List.append_nil _).symm
  rw [none] at read
  have placed := placeOf_ne_nil_of_parse (absent unasked) (absent unfragmented) read
  rw [parseAfterScheme_below (fun _ member => absurd member List.not_mem_nil) (absent unasked)
    (absent unfragmented) List.not_mem_nil (fun _ member => absurd member (Option.not_mem_none _)) _
    placed, Option.map_eq_some_iff] at read
  rcases read with ⟨found, hosted, rfl⟩
  rcases exists_resolveFrom_concat [] ((directoryOf (placeOf rest)).map fun segment =>
    Uri.Percent.encodeWith isPathByte segment) with ⟨reached, same⟩
  refine ⟨reached, ?_, ?_⟩
  · dsimp only
    rw [resolve, same, resolveFrom_singleton_of_names reached names_empty]
  · intro segment query kept single asked
    have visible : ∀ c ∈ '/' :: segment.toList ++ queryPart query, isEdge c = false := by
      intro c member
      rcases List.mem_append.mp member with inPath | inQuery
      · rcases List.mem_cons.mp inPath with rfl | inSegment
        · rfl
        · exact isEdge_of_holds (by decide) (kept c inSegment)
      · cases query with
        | none => exact absurd inQuery List.not_mem_nil
        | some text =>
            rcases List.mem_cons.mp inQuery with rfl | inText
            · rfl
            · exact isEdge_of_holds (by decide) (asked text rfl c inText)
    have filled : '/' :: segment.toList ++ queryPart query ≠ [] := List.cons_ne_nil _ _
    have shape := tidy_append endpoint filled visible
    rw [front, behind, ← List.append_assoc] at shape
    rw [parse?_of_tidy shape free web, parseAfterScheme_below kept (absent unasked)
      (absent unfragmented) single asked _ placed, hosted, Option.map_some, resolve, same]

end Wire
end SignedGateway
