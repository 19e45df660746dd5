import SignedGateway.Http.Answer
import SignedGateway.Proofs.Xml.Reading
import SignedGateway.Session.Supply

namespace SignedGateway

/-!
# What the document of an error says

Texts are escaped, so that only the elements of a document have tags.  An error may hold any
text; all the same its document names one request, the one that failed.
-/

namespace Xml

/-- The texts that come right after the opening tags of a name. -/
def textsOf (name document : String) : List String :=
  (Text.splitOn '<' document).filterMap (Text.afterHead (name ++ ">"))

theorem escape_of_plain {text : String} (plain : ∀ c ∈ text.toList, escapeChar c = [c]) :
    escape text = text := by
  have kept (cs : List Char) (plain : ∀ c ∈ cs, escapeChar c = [c]) :
      cs.flatMap escapeChar = cs := by
    induction cs with
    | nil => rfl
    | cons c rest inductionHypothesis =>
        rw [List.flatMap_cons, plain c List.mem_cons_self,
          inductionHypothesis fun other member => plain other (List.mem_cons_of_mem c member)]
        rfl
  rw [escape, kept text.toList plain, String.ofList_toList]

/-- Identifiers are made of digits and dashes. -/
theorem escape_identifier (supply : Supply) :
    escape (Supply.identifier supply) = Supply.identifier supply := by
  have digit : ∀ value, value < 16 →
      escapeChar (Text.hexDigitLower value) = [Text.hexDigitLower value] := by
    decide
  have digits : ∀ c ∈ (supply.digits 30).map fun digit => Text.hexDigitLower digit.val,
      escapeChar c = [c] := by
    intro c member
    rcases List.mem_map.mp member with ⟨value, _, rfl⟩
    exact digit value.val value.isLt
  have group (first count : Nat) : ∀ c ∈ (((supply.digits 30).map fun digit =>
      Text.hexDigitLower digit.val).drop first).take count, escapeChar c = [c] :=
    fun c member => digits c (List.mem_of_mem_drop (List.mem_of_mem_take member))
  have variant := digit (8 + (supply.digit supply.used 30).val % 4) (by omega)
  have dash : escapeChar '-' = ['-'] := by
    decide
  have version : escapeChar '4' = ['4'] := by
    decide
  apply escape_of_plain
  rw [Supply.identifier, String.toList_ofList]
  simp only [List.forall_mem_append, List.forall_mem_cons]
  exact ⟨⟨⟨⟨fun c member => digits c (List.mem_of_mem_take member), dash, group 8 4⟩, dash, version,
    group 12 3⟩, dash, variant, group 15 3⟩, dash, group 18 12⟩

/-! ## Opening tags -/

theorem isPrefixOf?_append_mark {mark : Char} {before other : List Char} (free : mark ∉ before)
    (otherFree : mark ∉ other) (after : List Char) :
    (before ++ [mark]).isPrefixOf? (other ++ mark :: after) =
      if other = before then some after else none := by
  induction before generalizing other with
  | nil =>
      cases other with
      | nil => simp [List.isPrefixOf?]
      | cons c rest =>
          rw [List.mem_cons, not_or] at otherFree
          simp [List.isPrefixOf?, otherFree.1]
  | cons first later inductionHypothesis =>
      rw [List.mem_cons, not_or] at free
      cases other with
      | nil => simp [List.isPrefixOf?, Ne.symm free.1]
      | cons c rest =>
          rw [List.mem_cons, not_or] at otherFree
          rw [List.cons_append, List.cons_append, List.isPrefixOf?,
            inductionHypothesis free.2 otherFree.2]
          by_cases same : first = c
          · simp [same]
          · simp [same, Ne.symm same]

/-- Only an opening tag of the name comes before a text that is looked for. -/
theorem afterHead_tag {name other : String} (free : '>' ∉ name.toList)
    (otherFree : '>' ∉ other.toList) (content : String) :
    Text.afterHead (name ++ ">") (other ++ ">" ++ content) =
      if other = name then some content else none := by
  have mark : ">".toList = ['>'] := rfl
  rw [Text.afterHead, String.toList_append, String.toList_append, String.toList_append, mark,
    List.append_assoc, List.singleton_append, isPrefixOf?_append_mark free otherFree]
  by_cases same : other = name
  · rw [if_pos same, if_pos (congrArg String.toList same), Option.map_some, String.ofList_toList]
  · rw [if_neg same, if_neg fun equal => same (String.toList_injective equal), Option.map_none]

theorem Tag.render_injective {left right : Tag} (leftNamed : left.Named)
    (rightNamed : right.Named) (same : left.render = right.render) : left = right := by
  have read := readTag_render leftNamed
  rw [same, readTag_render rightNamed] at read
  exact (Option.some.inj read).symm

theorem Tag.render_opening (name : String) : (Tag.opening name []).render = name := by
  have none : renderAttributes [] = "" := rfl
  rw [render, none, String.append_empty]

/-- The text after a tag is looked for if the tag opens an element of the name. -/
theorem afterHead_piece {name : String} (isName : isTagName name = true) {piece : Piece}
    (named : piece.tag.Named) :
    Text.afterHead (name ++ ">") piece.render =
      if piece.tag = .opening name [] then some (escape piece.text) else none := by
  have opened : (Tag.opening name []).Named := ⟨isName, List.forall_mem_nil _⟩
  have alike : piece.tag.render = name ↔ piece.tag = .opening name [] := by
    constructor
    · intro same
      exact Tag.render_injective named opened (same.trans (Tag.render_opening name).symm)
    · intro same
      rw [same, Tag.render_opening]
  rw [Piece.render, afterHead_tag (not_mem_of_isTagName isName rfl)
    (named.not_mem_render (.inr rfl)) (escape piece.text)]
  exact if_congr alike rfl rfl

theorem afterHead_declaration {name : String} (isName : isTagName name = true) :
    Text.afterHead (name ++ ">") declaration = none := by
  have written : declaration = "?xml version=\"1.0\" encoding=\"UTF-8\"?" ++ ">" ++ "" := by
    decide +kernel
  have different : "?xml version=\"1.0\" encoding=\"UTF-8\"?" ≠ name := by
    intro same
    have mark : '?' ∉ name.toList := not_mem_of_isTagName isName rfl
    apply mark
    rw [← same]
    decide +kernel
  rw [written, afterHead_tag (not_mem_of_isTagName isName rfl) (by decide +kernel),
    if_neg different]

/-- The texts of a name in a document are those of its elements of that name. -/
theorem Readable.textsOf_document {root : Xml} (readable : Readable root) {name : String}
    (isName : isTagName name = true) :
    textsOf name (document root) =
      (root.pieces.filter fun piece => piece.tag = .opening name []).map
        fun piece => escape piece.text := by
  have empty : Text.afterHead (name ++ ">") "" = none := by
    rw [Text.afterHead, String.toList_append]
    cases name.toList <;> rfl
  have texts {parts : List Piece} (named : ∀ piece ∈ parts, piece.tag.Named) :
      (parts.map Piece.render).filterMap (Text.afterHead (name ++ ">")) =
        (parts.filter fun piece => piece.tag = .opening name []).map
          fun piece => escape piece.text := by
    induction parts with
    | nil => rfl
    | cons piece rest inductionHypothesis =>
        rcases List.forall_mem_cons.mp named with ⟨first, later⟩
        rw [List.map_cons, List.filterMap_cons, afterHead_piece isName first,
          inductionHypothesis later, List.filter_cons]
        by_cases same : piece.tag = .opening name []
        · rw [if_pos same, if_pos (decide_eq_true same), List.map_cons]
        · rw [if_neg same, decide_eq_false same]
          rfl
  rw [textsOf, readable.splitOn_document, List.filterMap_cons_none empty,
    List.filterMap_cons_none (afterHead_declaration isName), texts readable.named_pieces]

end Xml

namespace Http

/-- The elements of the document of an error. -/
def errorLeaves (code message : String) (resource : Option String) (requestId : String) :
    List (String × String) :=
  [("Code", code), ("Message", message)] ++ (resource.toList.map fun path => ("Resource", path)) ++
    [("RequestId", requestId)]

theorem errorDocument_eq (code message : String) (resource : Option String) (requestId : String) :
    errorDocument code message resource requestId =
      Xml.document (.element "Error" [] ((errorLeaves code message resource requestId).map
        fun pair => Xml.leaf pair.1 pair.2)) := by
  cases resource <;> rfl

theorem readable_error (code message : String) (resource : Option String) (requestId : String) :
    Xml.Readable (.element "Error" [] ((errorLeaves code message resource requestId).map
      fun pair => Xml.leaf pair.1 pair.2)) := by
  have named : ∀ pair ∈ errorLeaves code message resource requestId,
      Xml.isTagName pair.1 = true := by
    simp only [errorLeaves, List.forall_mem_append, List.forall_mem_cons, List.forall_mem_map]
    exact ⟨⟨by decide, fun _ _ => by decide⟩, by decide⟩
  exact Xml.readable_leaves (by decide) (List.cons_ne_nil _ _) named

/-- The document of an error names the request that it is about, and no other. -/
theorem textsOf_errorDocument (code message : String) (resource : Option String)
    (requestId : String) :
    Xml.textsOf "RequestId" (errorDocument code message resource requestId) =
      [Xml.escape requestId] := by
  rw [errorDocument_eq,
    (readable_error code message resource requestId).textsOf_document (by decide)]
  cases resource <;> rfl

end Http
end SignedGateway
