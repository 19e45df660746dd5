import SignedGateway.Proofs.Json.Denotation
import SignedGateway.Proofs.Json.Grammar
import SignedGateway.Proofs.Json.Integers
import SignedGateway.Proofs.Text.Pieces
import SignedGateway.Proofs.Text.Words

namespace SignedGateway
namespace Json

/-!
# What is written is read

A value is written as a document, part by part: each character of a text as an item, each number as
a numeral, and the parts of an array or an object with commas in between.  So the reader takes it
for what it is, if the numbers last and it does not stand deeper than the reader allows.
-/

open Document.lexemes Document.tree Tree.ofJson Json.render

/-! ## Texts -/

/-- A control character is written as its code unit. -/
def controlUnit (code : Nat) (control : code < 32) : CodeUnit where
  chars := ['0', '0', Text.hexDigitLower (code / 16), Text.hexDigitLower (code % 16)]
  length := rfl
  hexadecimal := by
    have digit (value : Nat) (small : value < 16) :
        (Text.hexValue (Text.hexDigitLower value)).isSome = true := by
      rw [Text.hexValue_hexDigitLower value small]
      rfl
    have zero : (Text.hexValue '0').isSome = true := rfl
    simp [zero, digit (code / 16) (by omega), digit (code % 16) (by omega)]

theorem value_controlUnit {code : Nat} (control : code < 32) :
    (controlUnit code control).value = code := by
  have zero : Text.hexValue '0' = some 0 := rfl
  simp only [CodeUnit.value, controlUnit, hexOnto, List.foldl_cons, List.foldl_nil, zero,
    Text.hexValue_hexDigitLower (code / 16) (by omega),
    Text.hexValue_hexDigitLower (code % 16) (by omega), Option.getD_some]
  omega

/-- What is written of a character stands for it. -/
theorem exists_item (c : Char) :
    ∃ item : Item, item.chars = escapeChar c ∧
      ∀ rest, textOf? (item :: rest) = (textOf? rest).map (c :: ·) := by
  have escaped (letter : Char) (known : (letter, c) ∈ escapes)
      (written : ['\\', letter] = escapeChar c) :
      ∃ item : Item, item.chars = escapeChar c ∧
        ∀ rest, textOf? (item :: rest) = (textOf? rest).map (c :: ·) :=
    ⟨.escape letter c known, written, fun _ => rfl⟩
  by_cases quotationMark : c = '"'
  · subst quotationMark
    exact escaped '"' (by decide) rfl
  by_cases backslash : c = '\\'
  · subst backslash
    exact escaped '\\' (by decide) rfl
  by_cases lineFeed : c = '\n'
  · subst lineFeed
    exact escaped 'n' (by decide) rfl
  by_cases carriageReturn : c = '\r'
  · subst carriageReturn
    exact escaped 'r' (by decide) rfl
  by_cases tab : c = '\t'
  · subst tab
    exact escaped 't' (by decide) rfl
  by_cases backspace : c.toNat = 8
  · have same : c = Char.ofNat 8 := Char.toNat_inj.mp backspace
    subst same
    exact escaped 'b' (by decide) rfl
  by_cases formFeed : c.toNat = 12
  · have same : c = Char.ofNat 12 := Char.toNat_inj.mp formFeed
    subst same
    exact escaped 'f' (by decide) rfl
  by_cases control : c.toNat < 32
  · refine ⟨.unit (controlUnit c.toNat control), ?_, fun rest => ?_⟩
    · simp [escapeChar, quotationMark, backslash, lineFeed, carriageReturn, tab, backspace,
        formFeed, control, Item.chars, controlUnit]
    · have notLow : ¬IsLow c.toNat := fun low => by
        have bound := low.1
        omega
      have notHigh : ¬IsHigh c.toNat := fun high => by
        have bound := high.1
        omega
      rw [textOf?.eq_def]
      dsimp only
      rw [value_controlUnit, if_neg notLow, if_neg notHigh, Char.ofNat_toNat]
  · refine ⟨.plain c ⟨quotationMark, backslash, Nat.le_of_not_lt control⟩, ?_, fun _ => rfl⟩
    simp [escapeChar, quotationMark, backslash, lineFeed, carriageReturn, tab, backspace, formFeed,
      control, Item.chars]

theorem exists_items (cs : List Char) :
    ∃ items : List Item, items.flatMap Item.chars = cs.flatMap escapeChar ∧
      textOf? items = some cs := by
  induction cs with
  | nil => exact ⟨[], rfl, rfl⟩
  | cons c rest inductionHypothesis =>
      rcases inductionHypothesis with ⟨items, written, denoted⟩
      rcases exists_item c with ⟨item, first, denotes⟩
      refine ⟨item :: items, ?_, ?_⟩
      · rw [List.flatMap_cons, List.flatMap_cons, first, written]
      · rw [denotes, denoted]
        rfl

/-- What is written of a text stands for it. -/
theorem exists_quoted (text : String) :
    ∃ items : List Item, quotedChars items = (quote text).toList ∧
      textOf? items = some text.toList := by
  rcases exists_items text.toList with ⟨items, written, denoted⟩
  refine ⟨items, ?_, denoted⟩
  rw [quote, String.toList_ofList, quotedChars, written]

/-! ## Arrays and objects -/

/-- The document is written as the value is, and its tree is the tree of the value. -/
def IsWrittenAs (document : Document) (depth : Nat) (value : Json) : Prop :=
  document.lexemes.flatMap Lexeme.chars = value.render.toList ∧
    document.tree depth = Tree.ofJson value

theorem tail_flatMap_comma (parts : List (List Char)) :
    (parts.flatMap ([','] ++ ·)).tail = Text.join [','] parts := by
  cases parts with
  | nil => rfl
  | cons first rest =>
      rw [Text.join_cons]
      rfl

theorem tail_itemLexemes (items : List Document) :
    (itemLexemes items).tail.flatMap Lexeme.chars =
      ((itemLexemes items).flatMap Lexeme.chars).tail := by
  cases items <;> rfl

theorem tail_fieldLexemes (fields : List (List Item × Document)) :
    (fieldLexemes fields).tail.flatMap Lexeme.chars =
      ((fieldLexemes fields).flatMap Lexeme.chars).tail := by
  cases fields with
  | nil => rfl
  | cons field rest => rfl

/-- Items are written one after the other, with a comma in front of each. -/
theorem exists_documents {depth : Nat} {items : List Json}
    (each : ∀ item ∈ items, ∃ document, IsWrittenAs document depth item) :
    ∃ documents : List Document,
      (itemLexemes documents).flatMap Lexeme.chars =
          ((renderItems items).map String.toList).flatMap ([','] ++ ·) ∧
        itemTrees documents depth = ofItems items := by
  induction items with
  | nil => exact ⟨[], rfl, rfl⟩
  | cons item rest inductionHypothesis =>
      rcases List.forall_mem_cons.mp each with ⟨⟨document, written, tree⟩, others⟩
      rcases inductionHypothesis others with ⟨documents, writtenRest, trees⟩
      refine ⟨document :: documents, ?_, ?_⟩
      · rw [itemLexemes, renderItems, List.map_cons, List.flatMap_cons, List.cons_append,
          List.flatMap_cons, List.flatMap_append, written, writtenRest, List.append_assoc]
        rfl
      · rw [itemTrees, ofItems, tree, trees]

theorem exists_fields {depth : Nat} {fields : List (String × Json)}
    (each : ∀ field ∈ fields, ∃ document, IsWrittenAs document depth field.2) :
    ∃ documents : List (List Item × Document),
      (fieldLexemes documents).flatMap Lexeme.chars =
          ((renderFields fields).map String.toList).flatMap ([','] ++ ·) ∧
        namedValues? (fieldTrees documents depth) = some (Tree.ofJson.ofFields fields) := by
  induction fields with
  | nil => exact ⟨[], rfl, rfl⟩
  | cons field rest inductionHypothesis =>
      rcases field with ⟨name, value⟩
      rcases List.forall_mem_cons.mp each with ⟨⟨document, written, tree⟩, others⟩
      rcases inductionHypothesis others with ⟨documents, writtenRest, trees⟩
      rcases exists_quoted name with ⟨items, writtenName, denoted⟩
      refine ⟨(items, document) :: documents, ?_, ?_⟩
      · have colon : ":".toList = [':'] := rfl
        rw [fieldLexemes, renderFields, List.map_cons, List.flatMap_cons, String.toList_append,
          String.toList_append, ← writtenName, ← written, ← writtenRest, colon]
        simp [Lexeme.chars]
      · rw [fieldTrees, namedValues?, denoted, trees, tree, Tree.ofJson.ofFields]
        simp

/-! ## Values -/

/-- A value that fits is written as a document. -/
theorem Fits.exists_document {depth : Nat} {value : Json} (fits : value.Fits Number.Lasts depth) :
    ∃ document, IsWrittenAs document depth value := by
  induction fits with
  | null depth => exact ⟨.null, rfl, rfl⟩
  | bool depth held => cases held <;> exact ⟨.bool _, rfl, rfl⟩
  | number depth lasts =>
      rcases lasts with ⟨numeral, written, read⟩
      refine ⟨.number numeral, ?_, ?_⟩
      · rw [Document.lexemes, List.flatMap_singleton]
        exact written
      · rw [Document.tree, Numeral.tree, read]
        rfl
  | text depth held =>
      rcases exists_quoted held with ⟨items, written, denoted⟩
      refine ⟨.text items, ?_, ?_⟩
      · rw [Document.lexemes, List.flatMap_singleton]
        exact written
      · rw [Document.tree, denoted, Option.elim_some, String.ofList_toList]
        rfl
  | @array depth items _ inductionHypothesis =>
      rcases exists_documents inductionHypothesis with ⟨documents, written, trees⟩
      refine ⟨.array documents, ?_, ?_⟩
      · rw [Document.lexemes, List.cons_append, List.flatMap_cons, List.flatMap_append,
          tail_itemLexemes, written, tail_flatMap_comma, render, String.toList_append,
          String.toList_append, Text.toList_joinWith]
        rfl
      · rw [Document.tree, if_neg (Nat.succ_ne_zero depth), Nat.add_sub_cancel, trees, Tree.ofJson]
  | @object depth fields _ _ inductionHypothesis =>
      rcases exists_fields inductionHypothesis with ⟨documents, written, trees⟩
      refine ⟨.object documents, ?_, ?_⟩
      · rw [Document.lexemes, List.cons_append, List.flatMap_cons, List.flatMap_append,
          tail_fieldLexemes, written, tail_flatMap_comma, render, String.toList_append,
          String.toList_append, Text.toList_joinWith]
        rfl
      · rw [Document.tree, if_neg (Nat.succ_ne_zero depth), Nat.add_sub_cancel, trees, Tree.ofJson,
          Option.elim_some]

/-- What is written of a value is read as its tree. -/
theorem parse_render {value : Json} (fits : value.Fits Number.Lasts Builder.maxDepth) :
    Tree.parse value.render = .ok (Tree.ofJson value) := by
  rcases fits.exists_document with ⟨document, chars, tree⟩
  rw [Tree.parse_of_written (written_of_chars chars), tree]

end Json
end SignedGateway
