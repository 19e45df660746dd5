import SignedGateway.Proofs.Json.Document
import SignedGateway.Proofs.Json.Scanning
import SignedGateway.Proofs.Text.Utf8

namespace SignedGateway
namespace Json

/-!
# What the reader accepts

The reader accepts a text exactly if it is a document, and what it makes of one can be read off the
document.  The words read so far always begin a document, of which the open frames hold the
unfinished parts; that is the invariant by which nothing else is accepted.
-/

open Document.lexemes Document.tree

/-! ## A document is read -/

/-- An open object with one more field, whose name may denote nothing. -/
def Frame.withField (frame : Frame) (field : List Item × Tree) : Frame :=
  match frame, textOf? field.1 with
  | .object fields _ usable, some name =>
      .object ((String.ofList name, field.2) :: fields) (String.ofList name) usable
  | .object fields name _, none => .object ((name, field.2) :: fields) name false
  | frame, _ => frame

theorem Frame.exists_withField (read : List (String × Tree)) (held : String) (usable : Bool)
    (field : List Item × Tree) :
    ∃ more name still,
      (Frame.object read held usable).withField field = .object more name still := by
  unfold Frame.withField
  cases textOf? field.1 <;> exact ⟨_, _, _, rfl⟩

namespace Builder

/-- What is marked stays so. -/
theorem finishFrame_of_unusable (fields : List (List Item × Tree)) (read : List (String × Tree))
    (held : String) :
    finishFrame (fields.foldl Frame.withField (.object read held false)) = .unusable := by
  induction fields generalizing read held with
  | nil => rfl
  | cons field rest inductionHypothesis =>
      cases named : textOf? field.1 with
      | none => simpa [Frame.withField, named] using inductionHypothesis _ _
      | some name => simpa [Frame.withField, named] using inductionHypothesis _ _

theorem finishFrame_fields (fields : List (List Item × Tree)) (read : List (String × Tree))
    (held : String) :
    finishFrame (fields.foldl Frame.withField (.object read held true)) =
      (namedValues? fields).elim .unusable fun named => .object (read.reverse ++ named) := by
  induction fields generalizing read held with
  | nil => simp [namedValues?, finishFrame]
  | cons field rest inductionHypothesis =>
      cases named : textOf? field.1 with
      | none =>
          have spoilt := finishFrame_of_unusable rest ((held, field.2) :: read) held
          simpa [Frame.withField, namedValues?, named] using spoilt
      | some name =>
          have later := inductionHypothesis ((String.ofList name, field.2) :: read)
            (String.ofList name)
          cases values : namedValues? rest <;>
            simpa [Frame.withField, namedValues?, named, values] using later

theorem run_of_step {builder next : Builder} {token : Token} (step : builder.step token = .ok next)
    (more : List Token) : builder.run (token :: more) = next.run more := by
  simp only [run, step]
  rfl

/-- The words are read as the value, whatever the innermost frame of these is. -/
def Reads (outer : List Frame) (words : List Token) (value : Tree) : Prop :=
  ∀ frame result more, run ⟨frame :: outer, .value, result⟩ (words ++ more) =
    run (place (frame :: outer) value) more

theorem run_field {expect : Expect} (awaits : expect = .name ∨ expect = .nameOrClose)
    {outer : List Frame} {words : List Token} {value : Tree} (reads : Reads outer words value)
    (read : List (String × Tree)) (held : String) (usable : Bool) (result : Tree)
    (name : List Item) (more : List Token) :
    run ⟨.object read held usable :: outer, expect, result⟩
        ((Lexeme.text name).token :: .colon :: (words ++ more)) =
      run ⟨(Frame.object read held usable).withField (name, value) :: outer, .commaOrClose, .null⟩
        more := by
  have noValue : awaitsValue expect = false := by
    rcases awaits with rfl | rfl <;> rfl
  have colon (frame : Frame) : step ⟨frame :: outer, .colon, result⟩ .colon =
      .ok ⟨frame :: outer, .value, result⟩ := rfl
  cases named : textOf? name with
  | none =>
      have taken : step ⟨.object read held usable :: outer, expect, result⟩
          (Lexeme.text name).token = .ok ⟨.object read held false :: outer, .colon, result⟩ := by
        simp [step, Lexeme.token, noValue, awaits, takeName, named]
      rw [run_of_step taken, run_of_step (colon _), reads]
      simp [place, Frame.withField, named]
  | some text =>
      have taken : step ⟨.object read held usable :: outer, expect, result⟩
          (Lexeme.text name).token =
            .ok ⟨.object read (String.ofList text) usable :: outer, .colon, result⟩ := by
        simp [step, Lexeme.token, noValue, awaits, takeName, named]
      rw [run_of_step taken, run_of_step (colon _), reads]
      simp [place, Frame.withField, named]

theorem step_leaf {expect : Expect} (awaits : awaitsValue expect = true) (frames : List Frame)
    (result value : Tree) :
    step ⟨frames, expect, result⟩ (.leaf value) = .ok (place frames value) :=
  if_pos awaits

theorem step_text {expect : Expect} (awaits : awaitsValue expect = true) (frames : List Frame)
    (result : Tree) (value : Option String) :
    step ⟨frames, expect, result⟩ (.text value) = .ok (place frames (value.elim .unusable .text)) :=
  if_pos awaits

theorem step_openArray {expect : Expect} (awaits : awaitsValue expect = true) (frames : List Frame)
    (result : Tree) :
    step ⟨frames, expect, result⟩ .openArray =
      .ok ⟨.array [] (frames.length < maxDepth) :: frames, .valueOrClose, .null⟩ :=
  if_pos awaits

theorem step_openObject {expect : Expect} (awaits : awaitsValue expect = true)
    (frames : List Frame) (result : Tree) :
    step ⟨frames, expect, result⟩ .openObject =
      .ok ⟨.object [] "" (frames.length < maxDepth) :: frames, .nameOrClose, .null⟩ :=
  if_pos awaits

/-- A closed array is what the document denotes, unless it stands too deep. -/
theorem finishFrame_array (frames : List Frame) (items : List Document) :
    finishFrame (.array (itemTrees items (maxDepth - (frames.length + 1))).reverse
      (frames.length < maxDepth)) = (Document.array items).tree (maxDepth - frames.length) := by
  by_cases room : frames.length < maxDepth
  · rw [Document.tree, if_neg (Nat.sub_ne_zero_of_lt room), decide_eq_true room]
    exact congrArg Tree.array (List.reverse_reverse _)
  · rw [Document.tree, if_pos (Nat.sub_eq_zero_of_le (Nat.le_of_not_lt room)),
      decide_eq_false room]
    rfl

theorem finishFrame_object (frames : List Frame) (fields : List (List Item × Document)) :
    finishFrame ((fieldTrees fields (maxDepth - (frames.length + 1))).foldl Frame.withField
      (.object [] "" (frames.length < maxDepth))) =
        (Document.object fields).tree (maxDepth - frames.length) := by
  by_cases room : frames.length < maxDepth
  · rw [Document.tree, if_neg (Nat.sub_ne_zero_of_lt room), decide_eq_true room]
    exact finishFrame_fields _ [] ""
  · rw [Document.tree, if_pos (Nat.sub_eq_zero_of_le (Nat.le_of_not_lt room)),
      decide_eq_false room]
    exact finishFrame_of_unusable _ [] ""

/-- Whatever closes an object takes the place of a value. -/
theorem run_closeObject (fields : List (List Item × Tree)) (read : List (String × Tree))
    (held : String) (usable : Bool) (outer : List Frame) (more : List Token) :
    run ⟨fields.foldl Frame.withField (.object read held usable) :: outer, .commaOrClose, .null⟩
        (.closeObject :: more) =
      run (place outer (finishFrame (fields.foldl Frame.withField (.object read held usable))))
        more := by
  induction fields generalizing read held usable with
  | nil => rfl
  | cons field rest inductionHypothesis =>
      rcases Frame.exists_withField read held usable field with ⟨others, name, still, same⟩
      rw [List.foldl_cons, same]
      exact inductionHypothesis others name still

-- A value, the items behind the first and the fields behind the first are read in turn, as the words
-- of a document are written.
mutual

/-- A document takes its place where a value is awaited. -/
theorem run_document (document : Document) {expect : Expect} (awaits : awaitsValue expect = true)
    (frames : List Frame) (result : Tree) (more : List Token) :
    run ⟨frames, expect, result⟩ (document.lexemes.map Lexeme.token ++ more) =
      run (place frames (document.tree (maxDepth - frames.length))) more := by
  match document with
  | .null => exact run_of_step (step_leaf awaits frames result _) more
  | .bool value => exact run_of_step (step_leaf awaits frames result _) more
  | .number numeral => exact run_of_step (step_leaf awaits frames result _) more
  | .text items =>
      have step := run_of_step (step_text awaits frames result ((textOf? items).map String.ofList))
        more
      rw [Option.elim_map] at step
      exact step
  | .array [] =>
      exact (run_of_step (step_openArray awaits frames result) _).trans
        (congrArg (fun tree => run (place frames tree) more) (finishFrame_array frames []))
  | .array (item :: rest) =>
      have words : (Document.array (item :: rest)).lexemes.map Lexeme.token ++ more =
          .openArray :: (item.lexemes.map Lexeme.token ++
            ((itemLexemes rest).map Lexeme.token ++ .closeArray :: more)) := by
        simp [Document.lexemes, itemLexemes, Lexeme.token]
      rw [words, run_of_step (step_openArray awaits frames result), run_document item rfl, place,
        run_items rest, ← List.reverse_cons]
      exact congrArg (fun tree => run (place frames tree) more)
        (finishFrame_array frames (item :: rest))
  | .object [] =>
      exact (run_of_step (step_openObject awaits frames result) _).trans
        (congrArg (fun tree => run (place frames tree) more) (finishFrame_object frames []))
  | .object ((name, value) :: rest) =>
      have words : (Document.object ((name, value) :: rest)).lexemes.map Lexeme.token ++ more =
          .openObject :: (Lexeme.text name).token :: .colon :: (value.lexemes.map Lexeme.token ++
            ((fieldLexemes rest).map Lexeme.token ++ .closeObject :: more)) := by
        simp [Document.lexemes, fieldLexemes, Lexeme.token]
      have reads : Reads frames (value.lexemes.map Lexeme.token)
          (value.tree (maxDepth - (frames.length + 1))) :=
        fun frame => run_document value rfl (frame :: frames)
      rcases Frame.exists_withField [] "" (frames.length < maxDepth)
        (name, value.tree (maxDepth - (frames.length + 1))) with ⟨others, last, still, same⟩
      rw [words, run_of_step (step_openObject awaits frames result), run_field (Or.inr rfl) reads,
        same, run_fields rest, run_closeObject, ← same]
      exact congrArg (fun tree => run (place frames tree) more)
        (finishFrame_object frames ((name, value) :: rest))

theorem run_items (items : List Document) (read : List Tree) (usable : Bool)
    (outer : List Frame) (more : List Token) :
    run ⟨.array read usable :: outer, .commaOrClose, .null⟩
        ((itemLexemes items).map Lexeme.token ++ more) =
      run ⟨.array ((itemTrees items (maxDepth - (outer.length + 1))).reverse ++ read) usable ::
        outer, .commaOrClose, .null⟩ more := by
  match items with
  | [] => rfl
  | item :: rest =>
      have words : (itemLexemes (item :: rest)).map Lexeme.token ++ more =
          .comma :: (item.lexemes.map Lexeme.token ++
            ((itemLexemes rest).map Lexeme.token ++ more)) := by
        simp [itemLexemes, Lexeme.token]
      have comma : step ⟨.array read usable :: outer, .commaOrClose, .null⟩ .comma =
          .ok ⟨.array read usable :: outer, .value, .null⟩ := rfl
      rw [words, run_of_step comma, run_document item rfl, place, run_items rest, itemTrees,
        List.reverse_cons, List.append_assoc]
      rfl

theorem run_fields (fields : List (List Item × Document)) (read : List (String × Tree))
    (held : String) (usable : Bool) (outer : List Frame) (more : List Token) :
    run ⟨.object read held usable :: outer, .commaOrClose, .null⟩
        ((fieldLexemes fields).map Lexeme.token ++ more) =
      run ⟨(fieldTrees fields (maxDepth - (outer.length + 1))).foldl Frame.withField
        (.object read held usable) :: outer, .commaOrClose, .null⟩ more := by
  match fields with
  | [] => rfl
  | (name, value) :: rest =>
      have words : (fieldLexemes ((name, value) :: rest)).map Lexeme.token ++ more =
          .comma :: (Lexeme.text name).token :: .colon :: (value.lexemes.map Lexeme.token ++
            ((fieldLexemes rest).map Lexeme.token ++ more)) := by
        simp [fieldLexemes, Lexeme.token]
      have comma : step ⟨.object read held usable :: outer, .commaOrClose, .null⟩ .comma =
          .ok ⟨.object read held usable :: outer, .name, .null⟩ := rfl
      have reads : Reads outer (value.lexemes.map Lexeme.token)
          (value.tree (maxDepth - (outer.length + 1))) :=
        fun frame => run_document value rfl (frame :: outer)
      rcases Frame.exists_withField read held usable
        (name, value.tree (maxDepth - (outer.length + 1))) with ⟨others, last, still, same⟩
      rw [words, run_of_step comma, run_field (Or.inl rfl) reads, same, run_fields rest, ← same]
      rfl

end

end Builder

/-! ## What is read was a document -/

theorem itemLexemes_append (items : List Document) (last : Document) :
    itemLexemes (items ++ [last]) =
      .comma :: (items.flatMap (fun item => item.lexemes ++ [.comma]) ++ last.lexemes) := by
  induction items with
  | nil => simp [itemLexemes]
  | cons item rest inductionHypothesis => simp [itemLexemes, inductionHypothesis]

/-- A field by itself. -/
def wordsOfField (field : List Item × Document) : List Lexeme :=
  .text field.1 :: .colon :: field.2.lexemes

theorem fieldLexemes_append (fields : List (List Item × Document)) (last : List Item × Document) :
    fieldLexemes (fields ++ [last]) =
      .comma :: (fields.flatMap (fun field => wordsOfField field ++ [.comma]) ++
        wordsOfField last) := by
  induction fields with
  | nil => simp [fieldLexemes, wordsOfField]
  | cons field rest inductionHypothesis =>
      simp [fieldLexemes, wordsOfField, inductionHypothesis]

/-- After these words the open frames await a value. -/
inductive Awaits : List Frame → List Lexeme → Prop where
  | outermost : Awaits [] []
  | array {outer : List Frame} {words : List Lexeme} (awaits : Awaits outer words)
      (items : List Document) (read : List Tree) (usable : Bool) :
      Awaits (.array read usable :: outer)
        (words ++ .openArray :: items.flatMap fun item => item.lexemes ++ [.comma])
  | object {outer : List Frame} {words : List Lexeme} (awaits : Awaits outer words)
      (fields : List (List Item × Document)) (name : List Item) (read : List (String × Tree))
      (held : String) (usable : Bool) :
      Awaits (.object read held usable :: outer)
        (words ++ .openObject :: (fields.flatMap fun field => wordsOfField field ++ [.comma]) ++
          [.text name, .colon])

/-- The words that the builder has taken begin a document, of which it stands at this place. -/
inductive Stands : Builder → List Lexeme → Prop where
  | value {frames : List Frame} {words : List Lexeme} (awaits : Awaits frames words)
      (result : Tree) : Stands ⟨frames, .value, result⟩ words
  | first {outer : List Frame} {words : List Lexeme} (awaits : Awaits outer words)
      (read : List Tree) (usable : Bool) (result : Tree) :
      Stands ⟨.array read usable :: outer, .valueOrClose, result⟩ (words ++ [.openArray])
  | item {outer : List Frame} {words : List Lexeme} (awaits : Awaits outer words)
      (items : List Document) (last : Document) (read : List Tree) (usable : Bool)
      (result : Tree) :
      Stands ⟨.array read usable :: outer, .commaOrClose, result⟩
        (words ++ .openArray :: (items.flatMap fun item => item.lexemes ++ [.comma]) ++
          last.lexemes)
  | firstName {outer : List Frame} {words : List Lexeme} (awaits : Awaits outer words)
      (read : List (String × Tree)) (held : String) (usable : Bool) (result : Tree) :
      Stands ⟨.object read held usable :: outer, .nameOrClose, result⟩ (words ++ [.openObject])
  | name {outer : List Frame} {words : List Lexeme} (awaits : Awaits outer words)
      (fields : List (List Item × Document)) (read : List (String × Tree)) (held : String)
      (usable : Bool) (result : Tree) :
      Stands ⟨.object read held usable :: outer, .name, result⟩
        (words ++ .openObject :: fields.flatMap fun field => wordsOfField field ++ [.comma])
  | colon {outer : List Frame} {words : List Lexeme} (awaits : Awaits outer words)
      (fields : List (List Item × Document)) (name : List Item) (read : List (String × Tree))
      (held : String) (usable : Bool) (result : Tree) :
      Stands ⟨.object read held usable :: outer, .colon, result⟩
        (words ++ .openObject :: (fields.flatMap fun field => wordsOfField field ++ [.comma]) ++
          [.text name])
  | field {outer : List Frame} {words : List Lexeme} (awaits : Awaits outer words)
      (fields : List (List Item × Document)) (last : List Item × Document)
      (read : List (String × Tree)) (held : String) (usable : Bool) (result : Tree) :
      Stands ⟨.object read held usable :: outer, .commaOrClose, result⟩
        (words ++ .openObject :: (fields.flatMap fun field => wordsOfField field ++ [.comma]) ++
          wordsOfField last)
  | finished (document : Document) (result : Tree) : Stands ⟨[], .nothing, result⟩ document.lexemes

namespace Stands

open Builder (finishFrame)

/-- A whole value where one is awaited. -/
theorem place {frames : List Frame} {words : List Lexeme} (awaits : Awaits frames words)
    (document : Document) (value : Tree) :
    Stands (Builder.place frames value) (words ++ document.lexemes) := by
  cases awaits with
  | outermost => exact .finished document value
  | array awaits items read usable => exact .item awaits items document (value :: read) usable .null
  | object awaits fields name read held usable =>
      rw [List.append_assoc]
      exact .field awaits fields (name, document) ((held, value) :: read) held usable .null

theorem awaits {builder : Builder} {words : List Lexeme} (stands : Stands builder words)
    (awaited : Builder.awaitsValue builder.expect = true) : Awaits builder.frames words := by
  cases stands with
  | value awaits result => exact awaits
  | first awaits read usable result => exact .array awaits [] read usable
  | _ => cases awaited

theorem leaf {builder next : Builder} {words : List Lexeme} (stands : Stands builder words)
    {value : Tree} (taken : builder.step (.leaf value) = .ok next) (document : Document)
    {lexeme : Lexeme} (alone : document.lexemes = [lexeme]) : Stands next (words ++ [lexeme]) := by
  simp only [Builder.step] at taken
  split_ifs at taken with awaited
  cases taken
  rw [← alone]
  exact place (stands.awaits awaited) document value

theorem text {builder next : Builder} {words : List Lexeme} (stands : Stands builder words)
    (items : List Item) (taken : builder.step (Lexeme.text items).token = .ok next) :
    Stands next (words ++ [.text items]) := by
  have named {outer : List Frame} {before : List Lexeme} (awaits : Awaits outer before)
      (fields : List (List Item × Document)) {read : List (String × Tree)} {held : String}
      {usable : Bool} {expect : Expect} {result : Tree} {text : Option String}
      (takes :
        Builder.takeName ⟨.object read held usable :: outer, expect, result⟩ text = .ok next) :
      Stands next (before ++ .openObject ::
        (fields.flatMap fun field => wordsOfField field ++ [.comma]) ++ [.text items]) := by
    cases text <;> cases takes <;> exact .colon awaits fields items read _ _ result
  simp only [Builder.step, Lexeme.token] at taken
  split_ifs at taken with awaited name
  · cases taken
    exact place (stands.awaits awaited) (.text items) _
  · cases stands with
    | firstName awaits read held usable result => exact named awaits [] taken
    | name awaits fields read held usable result => exact named awaits fields taken
    | _ => simp at name

/-- Each word that is taken goes on with the document.  In all other places it is refused. -/
theorem step {builder next : Builder} {words : List Lexeme} {lexeme : Lexeme}
    (stands : Stands builder words) (taken : builder.step lexeme.token = .ok next) :
    Stands next (words ++ [lexeme]) := by
  cases lexeme with
  | null => exact stands.leaf taken .null rfl
  | bool value => exact stands.leaf taken (.bool value) rfl
  | number numeral => exact stands.leaf taken (.number numeral) rfl
  | text items => exact stands.text items taken
  | openArray =>
      simp only [Builder.step, Lexeme.token] at taken
      split_ifs at taken with awaited
      cases taken
      exact .first (stands.awaits awaited) [] _ .null
  | openObject =>
      simp only [Builder.step, Lexeme.token] at taken
      split_ifs at taken with awaited
      cases taken
      exact .firstName (stands.awaits awaited) [] "" _ .null
  | closeArray =>
      cases stands with
      | first awaits read usable result =>
          cases taken
          rw [List.append_assoc]
          exact place awaits (.array []) _
      | item awaits items last read usable result =>
          cases taken
          have whole := place awaits (.array (items ++ [last])) (finishFrame (.array read usable))
          simpa [Document.lexemes, itemLexemes_append] using whole
      -- After a comma nothing may be closed, whatever the innermost frame is.
      | value awaits result => cases awaits <;> cases taken
      | _ => cases taken
  | closeObject =>
      cases stands with
      | firstName awaits read held usable result =>
          cases taken
          rw [List.append_assoc]
          exact place awaits (.object []) _
      | field awaits fields last read held usable result =>
          cases taken
          have whole := place awaits (.object (fields ++ [last]))
            (finishFrame (.object read held usable))
          simpa [Document.lexemes, fieldLexemes_append] using whole
      | value awaits result => cases awaits <;> cases taken
      | _ => cases taken
  | comma =>
      cases stands with
      | item awaits items last read usable result =>
          cases taken
          simpa using value (.array awaits (items ++ [last]) read usable) result
      | field awaits fields last read held usable result =>
          cases taken
          simpa using name awaits (fields ++ [last]) read held usable result
      | _ => cases taken
  | colon =>
      cases stands with
      | colon awaits fields name read held usable result =>
          cases taken
          simpa using value (.object awaits fields name read held usable) result
      | _ => cases taken

theorem run {builder final : Builder} {words lexemes : List Lexeme}
    (stands : Stands builder words)
    (done : builder.run (lexemes.map Lexeme.token) = .ok final) :
    Stands final (words ++ lexemes) := by
  induction lexemes generalizing builder words with
  | nil =>
      cases done
      rwa [List.append_nil]
  | cons lexeme rest inductionHypothesis =>
      rcases Result.bind_eq_ok_iff.mp done with ⟨next, taken, later⟩
      have whole := inductionHypothesis (stands.step taken) later
      rwa [List.append_assoc] at whole

end Stands

/-- The builder ends exactly with the words of a document. -/
theorem exists_document {lexemes : List Lexeme} {final : Builder}
    (done : Builder.start.run (lexemes.map Lexeme.token) = .ok final)
    (complete : final.expect = .nothing) : ∃ document : Document, document.lexemes = lexemes := by
  have stands : Stands final ([] ++ lexemes) :=
    (Stands.value .outermost .null).run done
  rw [List.nil_append] at stands
  cases stands with
  | finished document result => exact ⟨document, rfl⟩
  | _ => cases complete

/-! ## Reading a text -/

/-- The tree of a document, at the depth that the reader allows. -/
theorem Tree.parse_of_written {document : Document} {text : String}
    (written : Written document text) :
    Tree.parse text = .ok (document.tree Builder.maxDepth) := by
  have apart : Apart document.lexemes := by
    have alone := apart_document document markNext_nil List.isChain_nil
    rwa [List.append_nil] at alone
  have scanned : tokensFrom .idle text.toList = .ok (document.lexemes.map Lexeme.token) :=
    tokensFrom_spelled apart written
  have built : Builder.start.run (document.lexemes.map Lexeme.token) =
      .ok ⟨[], .nothing, document.tree Builder.maxDepth⟩ := by
    have ran := Builder.run_document document (rfl : Builder.awaitsValue .value = true) [] .null []
    rwa [List.append_nil] at ran
  exact Result.bind_eq_ok_iff.mpr
    ⟨_, scanned, Result.bind_eq_ok_iff.mpr ⟨_, built, if_pos rfl⟩⟩

/-- The reader accepts exactly the documents, and makes of each what it denotes. -/
theorem Tree.parse_eq_ok_iff {text : String} {tree : Tree} :
    Tree.parse text = .ok tree ↔
      ∃ document : Document, Written document text ∧ document.tree Builder.maxDepth = tree := by
  constructor
  · intro read
    rcases Result.bind_eq_ok_iff.mp read with ⟨tokens, scanned, built⟩
    rcases Result.bind_eq_ok_iff.mp built with ⟨builder, ran, finished⟩
    rcases exists_spelled scanned with ⟨lexemes, rfl, spelled⟩
    split_ifs at finished with complete
    rcases exists_document ran complete with ⟨document, rfl⟩
    rw [parse_of_written spelled] at read
    cases read
    exact ⟨document, spelled, rfl⟩
  · rintro ⟨document, written, rfl⟩
    exact parse_of_written written

/-- The bytes of a text are read like the text. -/
theorem Tree.parseBytes_bytesOf (text : String) :
    Tree.parseBytes (Utf8.bytesOf text) = Tree.parse text := by
  rw [Tree.parseBytes, Utf8.pieces_bytesOf]
  rfl

/-- A text is read as a value exactly if it is a document that denotes it. -/
theorem parse_eq_ok_iff {text : String} {value : Json} :
    parse text = .ok value ↔
      ∃ document : Document, Written document text ∧
        document.value? Builder.maxDepth = some value := by
  constructor
  · intro read
    rcases Result.bind_eq_ok_iff.mp read with ⟨tree, parsed, denoted⟩
    rcases Tree.parse_eq_ok_iff.mp parsed with ⟨document, written, rfl⟩
    refine ⟨document, written, ?_⟩
    rw [toJson?_tree] at denoted
    split at denoted
    · next known =>
        cases denoted
        exact known
    · cases denoted
  · rintro ⟨document, written, denoted⟩
    refine Result.bind_eq_ok_iff.mpr ⟨_, Tree.parse_of_written written, ?_⟩
    rw [toJson?_tree, denoted]
    rfl

end Json
end SignedGateway
