import SignedGateway.Proofs.Text.Pieces
import SignedGateway.Xml

namespace SignedGateway
namespace Xml

/-!
# Reading documents

A reader cuts a document at the characters that begin a tag.  Each piece is a tag and the text
after it, and the tags must close each other.  It reads back whatever is written: texts are
escaped, so no text has a character that begins a tag, and none can add an element, end one or
change another text.
-/

/-! ## Texts -/

/-- What the references to characters are called. -/
def entities : List (List Char × Char) :=
  [("lt".toList, '<'), ("gt".toList, '>'), ("amp".toList, '&'), ("apos".toList, '\''),
    ("quot".toList, '"')]

/-- The characters of a text, in which some stand by reference.  The name of a reference is
gathered until it ends. -/
def unescapeFrom : Option (List Char) → List Char → Option (List Char)
  | none, [] => some []
  | some _, [] => none
  | none, c :: rest =>
      if c = '&' then unescapeFrom (some []) rest else (unescapeFrom none rest).map (c :: ·)
  | some name, c :: rest =>
      if c = ';' then
        (entities.lookup name).bind fun named => (unescapeFrom none rest).map (named :: ·)
      else unescapeFrom (some (name ++ [c])) rest

/-- A text without its references. -/
def unescape (text : String) : Option String :=
  (unescapeFrom none text.toList).map String.ofList

theorem unescapeFrom_escapeChar (c : Char) (rest : List Char) :
    unescapeFrom none (escapeChar c ++ rest) = (unescapeFrom none rest).map (c :: ·) := by
  unfold escapeChar
  split_ifs with isLt isGt isAmp isApos isQuot
  · subst isLt
    rfl
  · subst isGt
    rfl
  · subst isAmp
    rfl
  · subst isApos
    rfl
  · subst isQuot
    rfl
  · rw [List.singleton_append, unescapeFrom, if_neg isAmp]

/-- Every text is found again in what is written of it. -/
theorem unescape_escape (text : String) : unescape (escape text) = some text := by
  have chars (cs : List Char) : unescapeFrom none (cs.flatMap escapeChar) = some cs := by
    induction cs with
    | nil => rfl
    | cons c rest inductionHypothesis =>
        rw [List.flatMap_cons, unescapeFrom_escapeChar, inductionHypothesis]
        rfl
  rw [unescape, escape, String.toList_ofList, chars, Option.map_some, String.ofList_toList]

/-- What is written of a text has no character that sets off tags or values from texts. -/
theorem ne_marks_of_mem_escape {text : String} {c : Char} (member : c ∈ (escape text).toList) :
    c ≠ '<' ∧ c ≠ '>' ∧ c ≠ '"' := by
  have escaped (other : Char) :
      ((escapeChar other).all fun c => decide (c ≠ '<' ∧ c ≠ '>' ∧ c ≠ '"')) = true := by
    unfold escapeChar
    split_ifs with isLt isGt isAmp isApos isQuot
    · rfl
    · rfl
    · rfl
    · rfl
    · rfl
    · rw [List.all_cons, List.all_nil, Bool.and_true, decide_eq_true_eq]
      exact ⟨isLt, isGt, isQuot⟩
  rw [escape, String.toList_ofList] at member
  rcases List.mem_flatMap.mp member with ⟨other, _, within⟩
  exact of_decide_eq_true (List.all_eq_true.mp (escaped other) c within)

/-- No text makes a tag. -/
theorem not_mem_escape (text : String) : '<' ∉ (escape text).toList :=
  fun member => (ne_marks_of_mem_escape member).1 rfl

/-! ## Tags -/

/-- A tag without the marks around it. -/
inductive Tag where
  | opening (name : String) (attributes : List (String × String))
  | closing (name : String)
  deriving DecidableEq, Repr

/-- A tag and the text that comes after it. -/
structure Piece where
  tag : Tag
  text : String
  deriving DecidableEq, Repr

/-- Elements and attributes are named with letters and digits. -/
def isTagName (name : String) : Bool :=
  name != "" && name.toList.all Char.isAlphanum

/-- The name in front of the value of an attribute. -/
def attributeName? (before : String) : Option String := do
  let named ← Text.afterHead " " before
  let (name, rest) ← Text.splitOnce '=' named
  if rest = "" ∧ isTagName name = true then some name else none

/-- The attributes of a tag that is cut at its quotation marks. -/
def readAttributes : List String → Option (List (String × String))
  | [] => none
  | [last] => if last = "" then some [] else none
  | before :: value :: rest => do
      let name ← attributeName? before
      let value ← unescape value
      let others ← readAttributes rest
      return (name, value) :: others

def readTag (inner : String) : Option Tag :=
  match Text.afterHead "/" inner with
  | some name => if isTagName name = true then some (.closing name) else none
  | none =>
      let name := String.ofList (inner.toList.takeWhile Char.isAlphanum)
      let rest := String.ofList (inner.toList.dropWhile Char.isAlphanum)
      if name = "" then none else (readAttributes (Text.splitOn '"' rest)).map (.opening name)

def readPiece (piece : String) : Option Piece := do
  let (inner, after) ← Text.splitOnce '>' piece
  let tag ← readTag inner
  let content ← unescape after
  return ⟨tag, content⟩

/-- The beginning of a document, without its first character. -/
def declaration : String := "?xml version=\"1.0\" encoding=\"UTF-8\"?>"

/-- The tags of a document in their order, each with the text after it.  Nothing else may stand
between the declaration and the first tag. -/
def scan (document : String) : Option (List Piece) := do
  let body ← Text.afterHead ("<" ++ declaration) document
  match Text.splitOn '<' body with
  | [] => none
  | first :: pieces => if first = "" then pieces.mapM readPiece else none

/-! ## Elements -/

/-- An element whose closing tag has not come yet, with the elements in it so far, the latest
first. -/
structure Frame where
  name : String
  attributes : List (String × String)
  text : String
  children : List Xml

namespace Frame

/-- An element holds one text or elements, but not both. -/
def close (frame : Frame) : Option Xml :=
  if frame.children.isEmpty then some (.element frame.name frame.attributes [.text frame.text])
  else if frame.text = "" then
    some (.element frame.name frame.attributes frame.children.reverse)
  else none

def add (frame : Frame) (child : Xml) : Frame :=
  { frame with children := child :: frame.children }

/-- What is around the root of a document. -/
def outside : Frame :=
  ⟨"", [], "", []⟩

end Frame

/-- Open an element, or close the one that was opened last. -/
def step : List Frame → Piece → Option (List Frame)
  | stack, ⟨.opening name attributes, content⟩ =>
      some (⟨name, attributes, content, []⟩ :: stack)
  | frame :: parent :: stack, ⟨.closing name, content⟩ =>
      if frame.name = name ∧ content = "" then
        frame.close.map fun element => parent.add element :: stack
      else none
  | _, ⟨.closing _, _⟩ => none

def root? : List Frame → Option Xml
  | [⟨_, _, _, [root]⟩] => some root
  | _ => none

/-- The root of a document, if its tags close each other. -/
def read (document : String) : Option Xml := do
  let pieces ← scan document
  let stack ← pieces.foldlM step [Frame.outside]
  root? stack

/-! ## What is written of an element -/

def Tag.render : Tag → String
  | .opening name attributes => name ++ renderAttributes attributes
  | .closing name => "/" ++ name

def Piece.render (piece : Piece) : String :=
  piece.tag.render ++ ">" ++ escape piece.text

def renderPieces : List Piece → String
  | [] => ""
  | piece :: rest => "<" ++ piece.render ++ renderPieces rest

/-- The tags of an element and of the elements in it, each with the text after it. -/
def pieces : Xml → List Piece
  | .text _ => []
  | .element name attributes [.text content] =>
      [⟨.opening name attributes, content⟩, ⟨.closing name, ""⟩]
  | .element name attributes children =>
      ⟨.opening name attributes, ""⟩ :: (piecesAll children ++ [⟨.closing name, ""⟩])
where
  piecesAll : List Xml → List Piece
    | [] => []
    | child :: rest => pieces child ++ piecesAll rest

def Tag.Named : Tag → Prop
  | .opening name attributes =>
      isTagName name = true ∧ ∀ pair ∈ attributes, isTagName pair.1 = true
  | .closing name => isTagName name = true

/-- An element of which a document can be made: its tags are named, and it holds one text or
elements of this kind. -/
inductive Readable : Xml → Prop where
  | leaf {name : String} {attributes : List (String × String)}
      (named : (Tag.opening name attributes).Named) (content : String) :
      Readable (.element name attributes [.text content])
  | branch {name : String} {attributes : List (String × String)} {children : List Xml}
      (named : (Tag.opening name attributes).Named) (filled : children ≠ [])
      (inner : ∀ child ∈ children, Readable child) :
      Readable (.element name attributes children)

theorem readable_leaf {name : String} (named : isTagName name = true) (content : String) :
    Readable (leaf name content) :=
  .leaf ⟨named, List.forall_mem_nil _⟩ content

/-- An element that has nothing but elements of one text. -/
theorem readable_leaves {name : String} (named : isTagName name = true)
    {leaves : List (String × String)} (filled : leaves ≠ [])
    (leavesNamed : ∀ pair ∈ leaves, isTagName pair.1 = true) :
    Readable (.element name [] (leaves.map fun pair => leaf pair.1 pair.2)) := by
  refine .branch ⟨named, List.forall_mem_nil _⟩ ?_ ?_
  · exact fun none => filled (List.map_eq_nil_iff.mp none)
  · intro child member
    rcases List.mem_map.mp member with ⟨pair, among, rfl⟩
    exact readable_leaf (leavesNamed pair among) pair.2

theorem pieces_branch {name : String} {attributes : List (String × String)} {children : List Xml}
    (inner : ∀ child ∈ children, Readable child) :
    pieces (.element name attributes children) =
      ⟨.opening name attributes, ""⟩ :: (pieces.piecesAll children ++ [⟨.closing name, ""⟩]) := by
  cases children with
  | nil => rfl
  | cons child rest =>
      have element : ∃ name attributes children, child = .element name attributes children := by
        cases inner child List.mem_cons_self <;> exact ⟨_, _, _, rfl⟩
      rcases element with ⟨_, _, _, rfl⟩
      rfl

theorem renderPieces_append (left right : List Piece) :
    renderPieces (left ++ right) = renderPieces left ++ renderPieces right := by
  induction left with
  | nil => rw [List.nil_append, renderPieces, String.empty_append]
  | cons piece rest inductionHypothesis =>
      rw [List.cons_append, renderPieces, renderPieces, inductionHypothesis, String.append_assoc,
        String.append_assoc, String.append_assoc]

theorem renderPieces_closing (name : String) :
    renderPieces [⟨.closing name, ""⟩] = "</" ++ name ++ ">" := by
  have closing : "</" = "<" ++ "/" := rfl
  have empty : escape "" = "" := rfl
  rw [renderPieces, renderPieces, Piece.render, Tag.render, empty, closing]
  simp only [String.append_assoc, String.append_empty]

/-- An element is written tag by tag. -/
theorem Readable.render_eq {element : Xml} (readable : Readable element) :
    element.render = renderPieces element.pieces := by
  induction readable with
  | @leaf name attributes named content =>
      rw [pieces, renderPieces, renderPieces_closing, Piece.render, Tag.render, render,
        render.renderAll, render.renderAll, render]
      simp only [String.append_assoc, String.append_empty]
  | @branch name attributes children named filled inner inductionHypothesis =>
      have all (held : List Xml) (among : ∀ child ∈ held, child ∈ children) :
          render.renderAll held = renderPieces (pieces.piecesAll held) := by
        induction held with
        | nil => rfl
        | cons child rest later =>
            rw [render.renderAll, pieces.piecesAll, renderPieces_append,
              inductionHypothesis child (among child List.mem_cons_self),
              later fun other member => among other (List.mem_cons_of_mem child member)]
      have empty : escape "" = "" := rfl
      rw [pieces_branch inner, renderPieces, renderPieces_append, renderPieces_closing,
        Piece.render, Tag.render, empty, render, all children fun _ member => member]
      simp only [String.append_assoc, String.append_empty]

/-! ## Reading what is written -/

theorem isAlphanum_of_isTagName {name : String} (named : isTagName name = true) :
    ∀ c ∈ name.toList, c.isAlphanum = true := by
  rw [isTagName, Bool.and_eq_true, List.all_eq_true] at named
  exact named.2

theorem ne_empty_of_isTagName {name : String} (named : isTagName name = true) : name ≠ "" := by
  rw [isTagName, Bool.and_eq_true, bne_iff_ne] at named
  exact named.1

/-- A mark that is no letter or digit is not in a name. -/
theorem not_mem_of_isTagName {name : String} (named : isTagName name = true) {mark : Char}
    (other : mark.isAlphanum = false) : mark ∉ name.toList := by
  intro member
  rw [isAlphanum_of_isTagName named mark member] at other
  cases other

theorem renderAttributes_cons (pair : String × String) (rest : List (String × String)) :
    renderAttributes (pair :: rest) = renderAttribute pair ++ renderAttributes rest := by
  cases rest with
  | nil =>
      have none : renderAttributes [] = "" := rfl
      rw [none, String.append_empty, renderAttributes, List.map_singleton, Text.joinWith_singleton]
  | cons second others =>
      rw [renderAttributes, List.map_cons, List.map_cons, Text.joinWith_cons_cons,
        String.append_empty]
      rfl

/-- The characters of attributes are those of their names, of their values and five marks. -/
theorem not_mem_renderAttributes {attributes : List (String × String)}
    (named : ∀ pair ∈ attributes, isTagName pair.1 = true) {mark : Char}
    (isMark : mark = '<' ∨ mark = '>') : mark ∉ (renderAttributes attributes).toList := by
  induction attributes with
  | nil => exact List.not_mem_nil
  | cons pair rest inductionHypothesis =>
      rcases List.forall_mem_cons.mp named with ⟨first, later⟩
      have inName : mark ∉ pair.1.toList := by
        apply not_mem_of_isTagName first
        rcases isMark with rfl | rfl <;> rfl
      have inValue : mark ∉ (escape pair.2).toList := by
        intro member
        have marks := ne_marks_of_mem_escape member
        exact isMark.elim marks.1 marks.2.1
      have inMarks : mark ∉ " ".toList ∧ mark ∉ "=\"".toList ∧ mark ∉ "\"".toList := by
        rcases isMark with rfl | rfl <;> decide
      rw [renderAttributes_cons, renderAttribute]
      simp only [String.toList_append, List.mem_append, not_or]
      exact ⟨⟨⟨⟨⟨inMarks.1, inName⟩, inMarks.2.1⟩, inValue⟩, inMarks.2.2⟩,
        inductionHypothesis later⟩

theorem Tag.Named.not_mem_render {tag : Tag} (named : tag.Named) {mark : Char}
    (isMark : mark = '<' ∨ mark = '>') : mark ∉ tag.render.toList := by
  have other : mark.isAlphanum = false := by
    rcases isMark with rfl | rfl <;> rfl
  cases tag with
  | opening name attributes =>
      rw [render, String.toList_append, List.mem_append, not_or]
      exact ⟨not_mem_of_isTagName named.1 other, not_mem_renderAttributes named.2 isMark⟩
  | closing name =>
      rw [render, String.toList_append, List.mem_append, not_or]
      refine ⟨?_, not_mem_of_isTagName named other⟩
      rcases isMark with rfl | rfl <;> decide

theorem attributeName?_eq {name : String} (named : isTagName name = true) :
    attributeName? (" " ++ name ++ "=") = some name := by
  have single : "=".toList = ['='] := rfl
  have after : Text.afterHead " " (" " ++ name ++ "=") = some (name ++ "=") :=
    Text.afterHead_eq_some_iff.mpr String.append_assoc
  have cut : Text.splitOnce '=' (name ++ "=") = some (name, "") := by
    have whole := Text.splitOnce_append single (not_mem_of_isTagName named rfl) ""
    rwa [String.append_empty] at whole
  rw [attributeName?, after, Option.bind_eq_bind, Option.bind_some, cut]
  exact if_pos ⟨rfl, named⟩

theorem readAttributes_renderAttributes {attributes : List (String × String)}
    (named : ∀ pair ∈ attributes, isTagName pair.1 = true) :
    readAttributes (Text.splitOn '"' (renderAttributes attributes)) = some attributes := by
  induction attributes with
  | nil => rfl
  | cons pair rest inductionHypothesis =>
      rcases List.forall_mem_cons.mp named with ⟨first, later⟩
      have single : "\"".toList = ['"'] := rfl
      have marked : "=\"" = "=" ++ "\"" := rfl
      have front : '"' ∉ (" " ++ pair.1 ++ "=").toList := by
        simp only [String.toList_append, List.mem_append, not_or]
        exact ⟨⟨by decide, not_mem_of_isTagName first rfl⟩, by decide⟩
      have value : '"' ∉ (escape pair.2).toList := fun member =>
        (ne_marks_of_mem_escape member).2.2 rfl
      have parts : renderAttributes (pair :: rest) =
          (" " ++ pair.1 ++ "=") ++ "\"" ++ (escape pair.2 ++ "\"" ++ renderAttributes rest) := by
        rw [renderAttributes_cons, renderAttribute, marked]
        simp only [String.append_assoc]
      rw [parts, Text.splitOn_append single, Text.splitOn_append single,
        Text.splitOn_of_not_mem front, Text.splitOn_of_not_mem value, List.singleton_append,
        List.singleton_append, readAttributes, attributeName?_eq first, unescape_escape,
        inductionHypothesis later]
      rfl

theorem head?_renderAttributes (attributes : List (String × String)) :
    ∀ c ∈ (renderAttributes attributes).toList.head?, c.isAlphanum = false := by
  cases attributes with
  | nil => exact nofun
  | cons pair rest =>
      intro c first
      rw [renderAttributes_cons, renderAttribute] at first
      simp only [String.append_assoc, String.toList_append] at first
      cases first
      rfl

/-- A name is found again in front of what is none. -/
theorem takeWhile_isTagName {name : String} (named : isTagName name = true) {rest : List Char}
    (ended : ∀ c ∈ rest.head?, c.isAlphanum = false) :
    (name.toList ++ rest).takeWhile Char.isAlphanum = name.toList ∧
      (name.toList ++ rest).dropWhile Char.isAlphanum = rest := by
  have chars := isAlphanum_of_isTagName named
  rw [List.takeWhile_append_of_pos chars, List.dropWhile_append_of_pos chars]
  cases rest with
  | nil => exact ⟨List.append_nil _, rfl⟩
  | cons c later =>
      have stops := ended c rfl
      rw [List.takeWhile_cons, List.dropWhile_cons, stops]
      exact ⟨List.append_nil _, rfl⟩

theorem readTag_render {tag : Tag} (named : tag.Named) : readTag tag.render = some tag := by
  cases tag with
  | closing name =>
      have after : Text.afterHead "/" ("/" ++ name) = some name :=
        Text.afterHead_eq_some_iff.mpr rfl
      rw [Tag.render, readTag, after]
      exact if_pos named
  | opening name attributes =>
      have cut := takeWhile_isTagName named.1 (head?_renderAttributes attributes)
      have after : Text.afterHead "/" (name ++ renderAttributes attributes) = none := by
        rw [Option.eq_none_iff_forall_ne_some]
        intro rest begins
        have chars := congrArg String.toList (Text.afterHead_eq_some_iff.mp begins)
        rw [String.toList_append, String.toList_append] at chars
        cases letters : name.toList with
        | nil => exact ne_empty_of_isTagName named.1 (String.toList_eq_nil_iff.mp letters)
        | cons c later =>
            have letter := isAlphanum_of_isTagName named.1 c (letters ▸ List.mem_cons_self)
            rw [letters] at chars
            have same : c = '/' := (List.cons.inj chars).1
            rw [same] at letter
            cases letter
      rw [Tag.render, readTag, after, String.toList_append]
      dsimp only
      rw [cut.1, cut.2, String.ofList_toList, String.ofList_toList,
        if_neg (ne_empty_of_isTagName named.1), readAttributes_renderAttributes named.2]
      rfl

theorem readPiece_render {piece : Piece} (named : piece.tag.Named) :
    readPiece piece.render = some piece := by
  have single : ">".toList = ['>'] := rfl
  rw [readPiece, Piece.render, Text.splitOnce_append single (named.not_mem_render (.inr rfl)),
    Option.bind_eq_bind, Option.bind_some]
  dsimp only
  rw [readTag_render named, unescape_escape]
  rfl

theorem mapM_readPiece {parts : List Piece} (named : ∀ piece ∈ parts, piece.tag.Named) :
    (parts.map Piece.render).mapM readPiece = some parts := by
  induction parts with
  | nil => rfl
  | cons piece rest inductionHypothesis =>
      rcases List.forall_mem_cons.mp named with ⟨first, later⟩
      rw [List.map_cons, List.mapM_cons, readPiece_render first, inductionHypothesis later]
      rfl

/-- A document is cut into its pieces. -/
theorem splitOn_renderPieces {parts : List Piece} (named : ∀ piece ∈ parts, piece.tag.Named)
    {before : String} (free : '<' ∉ before.toList) :
    Text.splitOn '<' (before ++ renderPieces parts) = before :: parts.map Piece.render := by
  have single : "<".toList = ['<'] := rfl
  induction parts generalizing before with
  | nil => rw [renderPieces, String.append_empty, Text.splitOn_of_not_mem free, List.map_nil]
  | cons piece rest inductionHypothesis =>
      rcases List.forall_mem_cons.mp named with ⟨first, later⟩
      have pieceFree : '<' ∉ piece.render.toList := by
        rw [Piece.render]
        simp only [String.toList_append, List.mem_append, not_or]
        exact ⟨⟨first.not_mem_render (.inl rfl), by decide⟩, not_mem_escape piece.text⟩
      have whole : before ++ renderPieces (piece :: rest) =
          before ++ "<" ++ (piece.render ++ renderPieces rest) := by
        rw [renderPieces]
        simp only [String.append_assoc]
      rw [whole, Text.splitOn_append single, Text.splitOn_of_not_mem free,
        inductionHypothesis later pieceFree, List.map_cons, List.singleton_append]

theorem Readable.named_pieces {element : Xml} (readable : Readable element) :
    ∀ piece ∈ element.pieces, piece.tag.Named := by
  induction readable with
  | leaf named content =>
      intro piece member
      rw [pieces, List.mem_cons, List.mem_singleton] at member
      rcases member with rfl | rfl
      · exact named
      · exact named.1
  | @branch name attributes children named filled inner inductionHypothesis =>
      have all (held : List Xml) (among : ∀ child ∈ held, child ∈ children) :
          ∀ piece ∈ pieces.piecesAll held, piece.tag.Named := by
        induction held with
        | nil => exact nofun
        | cons child rest later =>
            rw [pieces.piecesAll, List.forall_mem_append]
            exact ⟨inductionHypothesis child (among child List.mem_cons_self),
              later fun other member => among other (List.mem_cons_of_mem child member)⟩
      rw [pieces_branch inner, List.forall_mem_cons, List.forall_mem_append]
      refine ⟨named, all children fun _ member => member, fun piece member => ?_⟩
      rw [List.mem_singleton.mp member]
      exact named.1

theorem document_eq (root : Xml) : document root = "<" ++ declaration ++ root.render := by
  have opening : "<?xml version=\"1.0\" encoding=\"UTF-8\"?>" = "<" ++ declaration := by
    decide +kernel
  exact congrArg (· ++ root.render) opening

/-- A document is cut into its declaration and the pieces of its root. -/
theorem Readable.splitOn_document {root : Xml} (readable : Readable root) :
    Text.splitOn '<' (document root) = "" :: declaration :: root.pieces.map Piece.render := by
  have single : "<".toList = ['<'] := rfl
  have whole : document root = "" ++ "<" ++ (declaration ++ renderPieces root.pieces) := by
    rw [document_eq, readable.render_eq, String.empty_append, String.append_assoc]
  rw [whole, Text.splitOn_append single, Text.splitOn_of_not_mem List.not_mem_nil,
    splitOn_renderPieces readable.named_pieces (by decide +kernel), List.singleton_append]

/-- The pieces of a document are found again, and so are their texts. -/
theorem Readable.scan_document {root : Xml} (readable : Readable root) :
    scan (document root) = some root.pieces := by
  have body : Text.afterHead ("<" ++ declaration) (document root) = some root.render :=
    Text.afterHead_eq_some_iff.mpr (document_eq root)
  have cut : Text.splitOn '<' ("" ++ renderPieces root.pieces) =
      "" :: root.pieces.map Piece.render :=
    splitOn_renderPieces readable.named_pieces List.not_mem_nil
  rw [String.empty_append] at cut
  rw [scan, body, Option.bind_eq_bind, Option.bind_some, readable.render_eq, cut]
  dsimp only
  rw [if_pos rfl, mapM_readPiece readable.named_pieces]

/-- The tags of an element add it to the one around it. -/
theorem Readable.foldlM_step {element : Xml} (readable : Readable element) (parent : Frame)
    (stack : List Frame) :
    element.pieces.foldlM step (parent :: stack) = some (parent.add element :: stack) := by
  induction readable generalizing parent stack with
  | leaf named content =>
      rw [pieces, List.foldlM_cons, step, Option.bind_eq_bind, Option.bind_some, List.foldlM_cons,
        step, if_pos ⟨rfl, rfl⟩]
      rfl
  | @branch name attributes children named filled inner inductionHypothesis =>
      have all (held : List Xml) (among : ∀ child ∈ held, child ∈ children) (frame : Frame) :
          (pieces.piecesAll held).foldlM step (frame :: parent :: stack) =
            some ({ frame with children := held.reverse ++ frame.children } ::
              parent :: stack) := by
        induction held generalizing frame with
        | nil => rfl
        | cons child rest later =>
            rw [pieces.piecesAll, List.foldlM_append,
              inductionHypothesis child (among child List.mem_cons_self), Option.bind_eq_bind,
              Option.bind_some,
              later fun other member => among other (List.mem_cons_of_mem child member)]
            simp only [Frame.add, List.reverse_cons, List.append_assoc, List.singleton_append]
      have closed : Frame.close ⟨name, attributes, "", children.reverse ++ []⟩ =
          some (.element name attributes children) := by
        have holds : (children.reverse ++ []).isEmpty = false := by
          rw [List.append_nil, List.isEmpty_reverse, List.isEmpty_eq_false_iff]
          exact filled
        rw [Frame.close, holds, List.append_nil, List.reverse_reverse]
        rfl
      rw [pieces_branch inner, List.foldlM_cons, step, Option.bind_eq_bind, Option.bind_some,
        List.foldlM_append, all children fun _ member => member, Option.bind_eq_bind,
        Option.bind_some, List.foldlM_cons, step, if_pos ⟨rfl, rfl⟩, closed]
      rfl

/-- Whatever its texts are, an element is found again in the document that is made of it. -/
theorem Readable.read_document {root : Xml} (readable : Readable root) :
    read (document root) = some root := by
  rw [read, readable.scan_document, Option.bind_eq_bind, Option.bind_some,
    readable.foldlM_step Frame.outside []]
  rfl

end Xml
end SignedGateway
