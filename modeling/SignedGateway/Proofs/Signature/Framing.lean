import Mathlib.Data.List.Perm.Basic
import SignedGateway.Proofs.Http.Message
import SignedGateway.Proofs.MultiMap
import SignedGateway.Proofs.Signature.SignedPath
import SignedGateway.Proofs.Text.Order
import SignedGateway.Signature.Canonical

namespace SignedGateway
namespace Canonical

/-!
# A canonical request determines what is signed

The parts of a canonical request are written one after another, and a part could
try to look like the end of itself and the beginning of the next one.  It cannot:
paths and parameters are coded, header values have lost their line breaks, and
names are tokens.  The lines of the text are therefore its parts, and the parts
determine what they were made from up to the order of what is sorted.
-/

/-! ## Lines -/

/-- Blank lines end a block of lines that are not blank. -/
theorem append_blank_cancel {left right after other : List String}
    (leftFilled : ∀ line ∈ left, line ≠ "") (rightFilled : ∀ line ∈ right, line ≠ "")
    (same : left ++ "" :: after = right ++ "" :: other) : left = right ∧ after = other := by
  induction left generalizing right with
  | nil =>
      cases right with
      | nil => exact ⟨rfl, List.tail_eq_of_cons_eq same⟩
      | cons line rest =>
          rw [List.nil_append, List.cons_append, List.cons.injEq] at same
          exact absurd same.1.symm (rightFilled line List.mem_cons_self)
  | cons line rest inductionHypothesis =>
      cases right with
      | nil =>
          rw [List.nil_append, List.cons_append, List.cons.injEq] at same
          exact absurd same.1 (leftFilled line List.mem_cons_self)
      | cons otherLine otherRest =>
          rw [List.cons_append, List.cons_append, List.cons.injEq] at same
          rcases same with ⟨sameLine, sameRest⟩
          have tails := inductionHypothesis
            (fun later member => leftFilled later (List.mem_cons_of_mem line member))
            (fun later member => rightFilled later (List.mem_cons_of_mem otherLine member)) sameRest
          rw [sameLine, tails.1]
          exact ⟨rfl, tails.2⟩

/-- A block of lines as it stands in the text, where no lines leave one blank. -/
def block : List String → List String
  | [] => [""]
  | lines => lines

theorem block_of_ne_nil {lines : List String} (nonempty : lines ≠ []) : block lines = lines := by
  cases lines with
  | nil => exact absurd rfl nonempty
  | cons => rfl

theorem splitOn_newline_joinWith {lines : List String}
    (free : ∀ line ∈ lines, '\n' ∉ line.toList) :
    Text.splitOn '\n' (Text.joinWith "\n" lines) = block lines := by
  by_cases empty : lines = []
  · rw [empty]
    rfl
  · rw [Text.splitOn_joinWith Text.toList_newline empty free, block_of_ne_nil empty]

theorem block_append_blank_cancel {left right after other : List String}
    (leftFilled : ∀ line ∈ left, line ≠ "") (rightFilled : ∀ line ∈ right, line ≠ "")
    (same : block left ++ "" :: after = block right ++ "" :: other) :
    left = right ∧ after = other := by
  by_cases leftNil : left = []
  · by_cases rightNil : right = []
    · rw [leftNil, rightNil] at same
      rw [leftNil, rightNil]
      exact ⟨rfl, List.tail_eq_of_cons_eq (List.tail_eq_of_cons_eq same)⟩
    · rw [leftNil, block_of_ne_nil rightNil] at same
      -- A block without lines begins with a blank one, and the other one does not.
      rcases List.exists_cons_of_ne_nil rightNil with ⟨line, rest, rfl⟩
      rw [block, List.singleton_append, List.cons_append, List.cons.injEq] at same
      exact absurd same.1.symm (rightFilled line List.mem_cons_self)
  · rw [block_of_ne_nil leftNil] at same
    by_cases rightNil : right = []
    · rw [rightNil] at same
      rcases List.exists_cons_of_ne_nil leftNil with ⟨line, rest, rfl⟩
      rw [block, List.singleton_append, List.cons_append, List.cons.injEq] at same
      exact absurd same.1 (leftFilled line List.mem_cons_self)
    · rw [block_of_ne_nil rightNil] at same
      exact append_blank_cancel leftFilled rightFilled same

/-! ## Path and parameters -/

/-- A canonical path consists of coded characters and slashes. -/
theorem not_mem_uri {mark : Char} (other : Uri.Percent.isCodedChar mark = false)
    (noSlash : mark ≠ '/') (path : String) : mark ∉ (uri path).toList := by
  rw [Route.canonicalUri_eq]
  intro member
  rcases Text.mem_joinWith member with inMark | ⟨part, isPart, inPart⟩
  · exact noSlash (List.mem_singleton.mp inMark)
  · rcases List.mem_map.mp isPart with ⟨segment, _, rfl⟩
    exact Uri.Percent.not_mem_encode other segment inPart

theorem newline_not_mem_uri (path : String) : '\n' ∉ (uri path).toList :=
  not_mem_uri (by decide) (by decide) path

/-- A parameter in its coded form. -/
def parameterText (pair : String × String) : String :=
  pair.1 ++ "=" ++ pair.2

theorem query_eq (parameters : List (String × String)) :
    query parameters =
      Text.joinWith "&" ((Text.sortPairs (parameters.map encodedPair)).map parameterText) := rfl

theorem encodedPair_of_mem_sortPairs {parameters : List (String × String)} {pair : String × String}
    (member : pair ∈ Text.sortPairs (parameters.map encodedPair)) :
    ∃ key value, pair = encodedPair (key, value) := by
  rw [(Text.sortPairs_perm _).mem_iff] at member
  rcases List.mem_map.mp member with ⟨⟨key, value⟩, _, rfl⟩
  exact ⟨key, value, rfl⟩

/-- A coded parameter is free of every mark but its own. -/
theorem not_mem_parameterText {c : Char} (other : Uri.Percent.isCodedChar c = false)
    (noEquals : c ≠ '=') (key value : String) :
    c ∉ (parameterText (encodedPair (key, value))).toList := by
  rw [parameterText, String.toList_append, String.toList_append, Text.toList_equals,
    List.mem_append, List.mem_append, List.mem_singleton]
  rintro ((inKey | isEquals) | inValue)
  · exact Uri.Percent.not_mem_encode other key inKey
  · exact noEquals isEquals
  · exact Uri.Percent.not_mem_encode other value inValue

theorem parameterText_ne_empty (pair : String × String) : parameterText pair ≠ "" := by
  simp [parameterText]

theorem splitOnce_parameterText (key value : String) :
    Text.splitOnce '=' (parameterText (encodedPair (key, value))) =
      some (encodedPair (key, value)) :=
  Text.splitOnce_append Text.toList_equals (Uri.Percent.not_mem_encode (by decide) key) _

theorem newline_not_mem_query (parameters : List (String × String)) :
    '\n' ∉ (query parameters).toList := by
  rw [query_eq]
  intro member
  rcases Text.mem_joinWith member with inMark | ⟨part, isPart, inPart⟩
  · revert inMark
    decide
  · rcases List.mem_map.mp isPart with ⟨pair, isPair, rfl⟩
    rcases encodedPair_of_mem_sortPairs isPair with ⟨key, value, rfl⟩
    exact not_mem_parameterText (by decide) (by decide) key value inPart

/-- Coded parameters are found again in what was written for them. -/
theorem map_splitOnce_parameterText {pairs : List (String × String)}
    (coded : ∀ pair ∈ pairs, ∃ key value, pair = encodedPair (key, value)) :
    (pairs.map parameterText).map (Text.splitOnce '=') = pairs.map some := by
  rw [List.map_map]
  apply List.map_congr_left
  intro pair member
  rcases coded pair member with ⟨key, value, isCoded⟩
  rw [Function.comp_apply, isCoded, splitOnce_parameterText]

theorem decodedPair_encodedPair (parameters : List (String × String)) :
    (parameters.map encodedPair).map (Prod.map Uri.Percent.decode Uri.Percent.decode) =
      parameters := by
  rw [List.map_map]
  have inverse : Prod.map Uri.Percent.decode Uri.Percent.decode ∘ encodedPair = id := by
    funext pair
    simp [encodedPair]
  rw [inverse, List.map_id]

/-- Equal query texts are made from the same parameters. -/
theorem perm_of_query_eq {left right : List (String × String)} (same : query left = query right) :
    left.Perm right := by
  have free (parameters : List (String × String)) :
      ∀ part ∈ (Text.sortPairs (parameters.map encodedPair)).map parameterText,
        part ≠ "" ∧ '&' ∉ part.toList := by
    intro part member
    rcases List.mem_map.mp member with ⟨pair, isPair, rfl⟩
    rcases encodedPair_of_mem_sortPairs isPair with ⟨key, value, rfl⟩
    exact ⟨parameterText_ne_empty _, not_mem_parameterText (by decide) (by decide) key value⟩
  have sameTexts := Text.eq_of_joinWith_eq_of_filled Text.toList_ampersand (free left) (free right) same
  have samePairs : Text.sortPairs (left.map encodedPair) = Text.sortPairs (right.map encodedPair) := by
    apply List.map_injective_iff.mpr fun _ _ => Option.some.inj
    rw [← map_splitOnce_parameterText fun _ => encodedPair_of_mem_sortPairs,
      ← map_splitOnce_parameterText fun _ => encodedPair_of_mem_sortPairs, sameTexts]
  have coded : (left.map encodedPair).Perm (right.map encodedPair) :=
    (Text.sortPairs_perm _).symm.trans (samePairs ▸ Text.sortPairs_perm _)
  have decoded := coded.map (Prod.map Uri.Percent.decode Uri.Percent.decode)
  rwa [decodedPair_encodedPair, decodedPair_encodedPair] at decoded

/-! ## Headers -/

/-- A line break is a blank, and only spaces are written between words. -/
theorem not_mem_collapseFrom {c : Char} (blank : Text.isBlank c = true) (noSpace : c ≠ ' ')
    (gap started : Bool) (text : List Char) : c ∉ Text.collapseFrom gap started text := by
  induction text generalizing gap started with
  | nil => exact List.not_mem_nil
  | cons first rest inductionHypothesis =>
      rw [Text.collapseFrom]
      split_ifs with firstBlank between
      · exact inductionHypothesis true started
      · rw [List.mem_cons, List.mem_cons]
        rintro (isSpace | isFirst | later)
        · exact noSpace isSpace
        · exact firstBlank (isFirst ▸ blank)
        · exact inductionHypothesis false true later
      · rw [List.mem_cons]
        rintro (isFirst | later)
        · exact firstBlank (isFirst ▸ blank)
        · exact inductionHypothesis false true later

theorem newline_not_mem_headerValue (values : List String) :
    '\n' ∉ (headerValue values).toList := by
  intro member
  rcases Text.mem_joinWith member with inMark | ⟨part, isPart, inPart⟩
  · revert inMark
    decide
  · rcases List.mem_map.mp isPart with ⟨value, _, rfl⟩
    rw [Text.collapseBlanks, String.toList_ofList] at inPart
    exact not_mem_collapseFrom (by decide) (by decide) false false value.toList inPart

/-- What can be signed: the method is a token, and the names are tokens in lower
case under which the request has some value. -/
structure Signable (method : String) (headerPairs : List (String × String)) (signed : List String) :
    Prop where
  methodToken : Http.isToken method = true
  nameToken : ∀ name ∈ signed, Http.isToken name = true
  nameLower : ∀ name ∈ signed, Text.lower name = name
  named : ∀ name ∈ signed, ∃ pair ∈ headerPairs, Text.lower pair.1 = name

/-- The value that is signed for a name. -/
def signedValue (headerPairs : List (String × String)) (name : String) : String :=
  headerValue (MultiMap.valuesUnder false headerPairs name)

def headerText (headerPairs : List (String × String)) (name : String) : String :=
  name ++ ":" ++ signedValue headerPairs name

section Signable

variable {method : String} {headerPairs : List (String × String)} {signed : List String}

theorem Signable.valuesUnder_ne_nil (signable : Signable method headerPairs signed) {name : String}
    (member : name ∈ signed) : MultiMap.valuesUnder false headerPairs name ≠ [] := by
  rcases signable.named name member with ⟨pair, isPair, sameName⟩
  intro empty
  rw [MultiMap.valuesUnder, List.map_eq_nil_iff, List.filter_eq_nil_iff] at empty
  exact empty pair isPair (beq_iff_eq.mpr sameName)

theorem Signable.headerLine_eq (signable : Signable method headerPairs signed) {name : String}
    (member : name ∈ signed) :
    headerLine (MultiMap.ofPairs false headerPairs) name = some (headerText headerPairs name) := by
  rw [headerLine, MultiMap.lookup_ofPairs, if_neg (signable.valuesUnder_ne_nil member)]
  rfl

/-- No signed name is passed over. -/
theorem Signable.headers_eq (signable : Signable method headerPairs signed) :
    headers headerPairs signed =
      Text.joinWith "\n" ((Text.sort signed).map (headerText headerPairs)) := by
  rw [headers]
  congr 1
  rw [← List.filterMap_eq_map]
  apply List.filterMap_congr
  intro name member
  exact signable.headerLine_eq (Text.mem_sort.mp member)

theorem Signable.headerText_line (signable : Signable method headerPairs signed) :
    ∀ line ∈ (Text.sort signed).map (headerText headerPairs), line ≠ "" ∧ '\n' ∉ line.toList := by
  intro line member
  rcases List.mem_map.mp member with ⟨name, isName, rfl⟩
  have token := signable.nameToken name (Text.mem_sort.mp isName)
  refine ⟨by simp [headerText], ?_⟩
  rw [headerText, String.toList_append, String.toList_append, List.mem_append, List.mem_append]
  rintro ((inName | inMark) | inValue)
  · exact Http.not_mem_of_isToken (by decide) token inName
  · revert inMark
    decide
  · exact newline_not_mem_headerValue _ inValue

theorem Signable.newline_not_mem_signedHeaders (signable : Signable method headerPairs signed) :
    '\n' ∉ (signedHeaders signed).toList := by
  intro member
  rcases Text.mem_joinWith member with inMark | ⟨name, isName, inName⟩
  · revert inMark
    decide
  · have token := signable.nameToken name (Text.mem_sort.mp isName)
    exact Http.not_mem_of_isToken (by decide) token inName

/-- A name and its value are found again in the line that is signed for them. -/
theorem Signable.map_splitOnce_headerText (signable : Signable method headerPairs signed) :
    ((Text.sort signed).map (headerText headerPairs)).map (Text.splitOnce ':') =
      (Text.sort signed).map fun name => some (name, signedValue headerPairs name) := by
  rw [List.map_map]
  apply List.map_congr_left
  intro name member
  have token := signable.nameToken name (Text.mem_sort.mp member)
  exact Text.splitOnce_append rfl (Http.not_mem_of_isToken (by decide) token) _

/-- The lines of a canonical request are its parts. -/
theorem Signable.splitOn_request (signable : Signable method headerPairs signed) (path : String)
    (parameters : List (String × String)) (payloadHash : String) :
    Text.splitOn '\n' (request method path parameters headerPairs signed payloadHash) =
      method :: uri path :: query parameters ::
        (block ((Text.sort signed).map (headerText headerPairs)) ++
          "" :: signedHeaders signed :: Text.splitOn '\n' payloadHash) := by
  have single := Text.toList_newline
  have methodLine := Text.splitOn_of_not_mem
    (Http.not_mem_of_isToken (c := '\n') (by decide) signable.methodToken)
  have uriLine := Text.splitOn_of_not_mem (newline_not_mem_uri path)
  have queryLine := Text.splitOn_of_not_mem (newline_not_mem_query parameters)
  have headerLines := splitOn_newline_joinWith fun line member =>
    (signable.headerText_line line member).2
  have namesLine := Text.splitOn_of_not_mem signable.newline_not_mem_signedHeaders
  have blankLine : Text.splitOn '\n' "" = [""] := rfl
  rw [request, Text.joinWith_cons_cons, Text.splitOn_append single, methodLine,
    Text.joinWith_cons_cons, Text.splitOn_append single, uriLine,
    Text.joinWith_cons_cons, Text.splitOn_append single, queryLine,
    Text.joinWith_cons_cons, Text.splitOn_append single, signable.headers_eq, headerLines,
    Text.joinWith_cons_cons, Text.splitOn_append single, blankLine,
    Text.joinWith_cons_cons, Text.splitOn_append single, namesLine, Text.joinWith_singleton]
  rfl

end Signable

/-! ## The whole request -/

/-- Header texts that agree, line by line, have the same names and values. -/
theorem names_of_headerText_eq {method otherMethod : String}
    {headerPairs otherPairs : List (String × String)} {signed otherSigned : List String}
    (signable : Signable method headerPairs signed)
    (otherSignable : Signable otherMethod otherPairs otherSigned)
    (same : (Text.sort signed).map (headerText headerPairs) =
      (Text.sort otherSigned).map (headerText otherPairs)) :
    signed.Perm otherSigned ∧
      ∀ name ∈ signed, signedValue headerPairs name = signedValue otherPairs name := by
  have found : (Text.sort signed).map (fun name => some (name, signedValue headerPairs name)) =
      (Text.sort otherSigned).map fun name => some (name, signedValue otherPairs name) := by
    rw [← signable.map_splitOnce_headerText, same, otherSignable.map_splitOnce_headerText]
  have sameNames : Text.sort signed = Text.sort otherSigned := by
    have names := congrArg (List.map (Option.map Prod.fst)) found
    rw [List.map_map, List.map_map] at names
    exact List.map_injective_iff.mpr (fun _ _ => Option.some.inj) names
  refine ⟨(Text.sort_perm signed).symm.trans (sameNames ▸ Text.sort_perm otherSigned), ?_⟩
  intro name member
  rw [sameNames] at found
  have sorted : name ∈ Text.sort otherSigned := by
    rw [← sameNames]
    exact Text.mem_sort.mpr member
  have pair := List.map_inj_left.mp found name sorted
  exact congrArg Prod.snd (Option.some.inj pair)

/-- The first three lines and the block after them, of requests that are one text. -/
theorem lines_of_request_eq {method otherMethod path otherPath payloadHash otherHash : String}
    {parameters otherParameters headerPairs otherPairs : List (String × String)}
    {signed otherSigned : List String} (signable : Signable method headerPairs signed)
    (otherSignable : Signable otherMethod otherPairs otherSigned)
    (same : request method path parameters headerPairs signed payloadHash =
      request otherMethod otherPath otherParameters otherPairs otherSigned otherHash) :
    method = otherMethod ∧ uri path = uri otherPath ∧ query parameters = query otherParameters ∧
      (Text.sort signed).map (headerText headerPairs) =
        (Text.sort otherSigned).map (headerText otherPairs) ∧
      payloadHash = otherHash := by
  have lines := signable.splitOn_request path parameters payloadHash
  rw [same, otherSignable.splitOn_request, List.cons.injEq, List.cons.injEq, List.cons.injEq] at lines
  rcases lines with ⟨sameMethod, sameUri, sameQuery, sameBlocks⟩
  rcases block_append_blank_cancel
    (fun line member => (otherSignable.headerText_line line member).1)
    (fun line member => (signable.headerText_line line member).1) sameBlocks with
      ⟨sameHeaders, sameEnds⟩
  have sameHash : payloadHash = otherHash := by
    have whole := Text.joinWith_splitOn Text.toList_newline payloadHash
    rwa [← List.tail_eq_of_cons_eq sameEnds, Text.joinWith_splitOn Text.toList_newline,
      eq_comm] at whole
  exact ⟨sameMethod.symm, sameUri.symm, sameQuery.symm, sameHeaders.symm, sameHash⟩

/-- Canonical requests that are one text sign the same method, the same segments,
the same parameters, the same values under the same names and the same payload,
whatever characters these hold. -/
theorem parts_of_request_eq {method otherMethod path otherPath payloadHash otherHash : String}
    {parameters otherParameters headerPairs otherPairs : List (String × String)}
    {signed otherSigned : List String} (signable : Signable method headerPairs signed)
    (otherSignable : Signable otherMethod otherPairs otherSigned)
    (same : request method path parameters headerPairs signed payloadHash =
      request otherMethod otherPath otherParameters otherPairs otherSigned otherHash) :
    method = otherMethod ∧
      uri path = uri otherPath ∧
      Route.segments (Route.rooted path) = Route.segments (Route.rooted otherPath) ∧
      parameters.Perm otherParameters ∧
      signed.Perm otherSigned ∧
      (∀ name ∈ signed, signedValue headerPairs name = signedValue otherPairs name) ∧
      payloadHash = otherHash := by
  rcases lines_of_request_eq signable otherSignable same with
    ⟨sameMethod, sameUri, sameQuery, sameHeaders, sameHash⟩
  rcases names_of_headerText_eq signable otherSignable sameHeaders with ⟨sameNames, sameValues⟩
  exact ⟨sameMethod, sameUri, Route.canonicalUri_eq_iff.mp sameUri, perm_of_query_eq sameQuery,
    sameNames, sameValues, sameHash⟩

/-- A request that was sent with other escapes, with its headers in another order
and with other blanks in them. -/
theorem parts_of_two_spellings :
    Route.segments "/b/%0a" = Route.segments "/%62/%0A" ∧
      ["x-b", "host"].Perm ["host", "x-b"] ∧
      signedValue [("X-B", "1: \n 2;"), ("host", "h")] "x-b" =
        signedValue [("Host", "h"), ("x-b", " 1:\t2; ")] "x-b" := by
  have signable : Signable "GET" [("X-B", "1: \n 2;"), ("host", "h")] ["x-b", "host"] :=
    ⟨by decide, by decide, by decide, by decide⟩
  have otherSignable : Signable "GET" [("Host", "h"), ("x-b", " 1:\t2; ")] ["host", "x-b"] :=
    ⟨by decide, by decide, by decide, by decide⟩
  have firstNames : Text.sort ["x-b", "host"] = ["host", "x-b"] :=
    Text.sort_eq_of_ordered (by decide) (by decide)
  have secondNames : Text.sort ["host", "x-b"] = ["host", "x-b"] :=
    Text.sort_eq_of_ordered (List.Perm.refl _) (by decide)
  have sameUri : uri "/b/%0a" = uri "/%62/%0A" := by
    decide +kernel
  have sameHeaders : headers [("X-B", "1: \n 2;"), ("host", "h")] ["x-b", "host"] =
      headers [("Host", "h"), ("x-b", " 1:\t2; ")] ["host", "x-b"] := by
    rw [headers, headers, firstNames, secondNames]
    decide +kernel
  have sameNames : signedHeaders ["x-b", "host"] = signedHeaders ["host", "x-b"] := by
    rw [signedHeaders, signedHeaders, firstNames, secondNames]
  have same : request "GET" "/b/%0a" [("k&=", "v\n")] [("X-B", "1: \n 2;"), ("host", "h")]
        ["x-b", "host"] "hash" =
      request "GET" "/%62/%0A" [("k&=", "v\n")] [("Host", "h"), ("x-b", " 1:\t2; ")]
        ["host", "x-b"] "hash" := by
    rw [request, request, sameUri, sameHeaders, sameNames]
  have parts := parts_of_request_eq signable otherSignable same
  exact ⟨parts.2.2.1, parts.2.2.2.2.1, parts.2.2.2.2.2.1 "x-b" List.mem_cons_self⟩

end Canonical
end SignedGateway
