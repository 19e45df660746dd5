import SignedGateway.Proofs.Json.Lexemes

namespace SignedGateway
namespace Json

/-!
# Documents as they are written

A document is a plain value, values in brackets, or named values in braces, with commas in between.
It denotes a value, unless it goes beyond what the reader can hold: more arrays and objects within
each other than are allowed, a number beyond all doubles, or half of a surrogate pair by itself.
-/

/-- A document as it is written, apart from its blanks. -/
inductive Document where
  | null
  | bool (value : Bool)
  | number (numeral : Numeral)
  | text (items : List Item)
  | array (items : List Document)
  | object (fields : List (List Item × Document))

/-- An object of named values, unless one of the names denotes nothing. -/
def namedValues? : List (List Item × Tree) → Option (List (String × Tree))
  | [] => some []
  | (name, value) :: rest => do
      let text ← textOf? name
      return (String.ofList text, value) :: (← namedValues? rest)

namespace Document

/-- The words of the document. -/
def lexemes : Document → List Lexeme
  | .null => [.null]
  | .bool value => [.bool value]
  | .number numeral => [.number numeral]
  | .text items => [.text items]
  | .array items => .openArray :: (itemLexemes items).tail ++ [.closeArray]
  | .object fields => .openObject :: (fieldLexemes fields).tail ++ [.closeObject]
where
  /-- Items with a comma in front of each. -/
  itemLexemes : List Document → List Lexeme
    | [] => []
    | item :: rest => .comma :: lexemes item ++ itemLexemes rest
  fieldLexemes : List (List Item × Document) → List Lexeme
    | [] => []
    | (name, value) :: rest => .comma :: .text name :: .colon :: lexemes value ++ fieldLexemes rest

/-- What the document denotes where arrays and objects may stand within each other so many times. -/
def tree : Document → Nat → Tree
  | .null, _ => .null
  | .bool value, _ => .bool value
  | .number numeral, _ => numeral.tree
  | .text items, _ => (textOf? items).elim .unusable fun text => .text (String.ofList text)
  | .array items, depth => if depth = 0 then .unusable else .array (itemTrees items (depth - 1))
  | .object fields, depth =>
      if depth = 0 then .unusable
      else (namedValues? (fieldTrees fields (depth - 1))).elim .unusable .object
where
  itemTrees : List Document → Nat → List Tree
    | [], _ => []
    | item :: rest, depth => tree item depth :: itemTrees rest depth
  fieldTrees : List (List Item × Document) → Nat → List (List Item × Tree)
    | [], _ => []
    | (name, value) :: rest, depth => (name, tree value depth) :: fieldTrees rest depth

/-- The value that the document denotes where arrays and objects may stand within each other so
many times. -/
def value? : Document → Nat → Option Json
  | .null, _ => some .null
  | .bool value, _ => some (.bool value)
  | .number numeral, _ => (Number.ofParts numeral.parts).map .number
  | .text items, _ => (textOf? items).map fun text => .text (String.ofList text)
  | .array items, depth => if depth = 0 then none else (itemValues? items (depth - 1)).map .array
  | .object fields, depth =>
      if depth = 0 then none else (fieldValues? fields (depth - 1)).map ofFields
where
  itemValues? : List Document → Nat → Option (List Json)
    | [], _ => some []
    | item :: rest, depth => do return (← value? item depth) :: (← itemValues? rest depth)
  fieldValues? : List (List Item × Document) → Nat → Option (List (String × Json))
    | [], _ => some []
    | (name, value) :: rest, depth => do
        let text ← textOf? name
        return (String.ofList text, ← value? value depth) :: (← fieldValues? rest depth)

end Document

open Document.lexemes Document.tree Document.value? Tree.toJson?

/-- The text is the document, with blanks between its words. -/
def Written (document : Document) (text : String) : Prop :=
  Spelled document.lexemes text.toList

/-- There need be no blanks. -/
theorem written_of_chars {document : Document} {text : String}
    (chars : document.lexemes.flatMap Lexeme.chars = text.toList) : Written document text := by
  rw [Written, ← chars]
  exact spelled_flatMap document.lexemes

/-! ## What it denotes -/

mutual

/-- The tree holds the value, if there is one. -/
theorem toJson?_tree (document : Document) (depth : Nat) :
    (document.tree depth).toJson? = document.value? depth := by
  match document with
  | .null => rfl
  | .bool value => rfl
  | .number numeral =>
      rw [Document.tree, Numeral.tree, Document.value?]
      cases Number.ofParts numeral.parts <;> rfl
  | .text items =>
      rw [Document.tree, Document.value?]
      cases textOf? items <;> rfl
  | .array items =>
      rw [Document.tree, Document.value?]
      by_cases deep : depth = 0
      · rw [if_pos deep, if_pos deep]
        rfl
      · rw [if_neg deep, if_neg deep, Tree.toJson?, itemsToJson?_itemTrees]
  | .object fields =>
      rw [Document.tree, Document.value?]
      by_cases deep : depth = 0
      · rw [if_pos deep, if_pos deep]
        rfl
      · rw [if_neg deep, if_neg deep, ← fieldsToJson?_fieldTrees]
        cases namedValues? (fieldTrees fields (depth - 1)) <;> rfl

theorem itemsToJson?_itemTrees (items : List Document) (depth : Nat) :
    itemsToJson? (itemTrees items depth) = itemValues? items depth := by
  match items with
  | [] => rfl
  | item :: rest =>
      rw [itemTrees, itemsToJson?, toJson?_tree item, itemsToJson?_itemTrees rest, itemValues?]

theorem fieldsToJson?_fieldTrees (fields : List (List Item × Document)) (depth : Nat) :
    (namedValues? (fieldTrees fields depth)).bind fieldsToJson? = fieldValues? fields depth := by
  match fields with
  | [] => rfl
  | (name, value) :: rest =>
      have later := fieldsToJson?_fieldTrees rest depth
      rw [fieldTrees, namedValues?, fieldValues?, ← later, ← toJson?_tree value]
      cases textOf? name with
      | none => rfl
      | some text =>
          cases namedValues? (fieldTrees rest depth) with
          | none => cases (value.tree depth).toJson? <;> rfl
          | some named => rfl

end

/-! ## Its words are set off from each other -/

theorem markNext_itemLexemes (items : List Document) {rest : List Lexeme}
    (markNext : MarkNext rest) : MarkNext (itemLexemes items ++ rest) := by
  cases items with
  | nil => exact markNext
  | cons item later => simp [MarkNext, itemLexemes, Lexeme.isMark]

theorem markNext_fieldLexemes (fields : List (List Item × Document)) {rest : List Lexeme}
    (markNext : MarkNext rest) : MarkNext (fieldLexemes fields ++ rest) := by
  cases fields with
  | nil => exact markNext
  | cons field later => simp [MarkNext, fieldLexemes, Lexeme.isMark]

theorem markNext_nil : MarkNext [] := by
  simp [MarkNext]

theorem markNext_cons {lexeme : Lexeme} (mark : lexeme.isMark = true) (rest : List Lexeme) :
    MarkNext (lexeme :: rest) := by
  simpa [MarkNext] using mark

theorem Apart.tail_append {lexemes rest : List Lexeme} (apart : Apart (lexemes ++ rest)) :
    Apart (lexemes.tail ++ rest) := by
  cases lexemes with
  | nil => exact apart
  | cons first later => exact List.IsChain.tail apart

mutual

theorem apart_document (document : Document) {rest : List Lexeme} (markNext : MarkNext rest)
    (apart : Apart rest) : Apart (document.lexemes ++ rest) := by
  match document with
  | .null => exact apart_cons_of_markNext _ markNext apart
  | .bool value => exact apart_cons_of_markNext _ markNext apart
  | .number numeral => exact apart_cons_of_markNext _ markNext apart
  | .text items => exact apart_cons_of_markNext _ markNext apart
  | .array items =>
      have closed : Apart (.closeArray :: rest) := apart_cons_of_mark rfl apart
      have listed := apart_items items (markNext_cons rfl rest) closed
      rw [Document.lexemes, List.append_assoc]
      exact apart_cons_of_mark rfl listed.tail_append
  | .object fields =>
      have closed : Apart (.closeObject :: rest) := apart_cons_of_mark rfl apart
      have listed := apart_fields fields (markNext_cons rfl rest) closed
      rw [Document.lexemes, List.append_assoc]
      exact apart_cons_of_mark rfl listed.tail_append

theorem apart_items (items : List Document) {rest : List Lexeme} (markNext : MarkNext rest)
    (apart : Apart rest) : Apart (itemLexemes items ++ rest) := by
  match items with
  | [] => exact apart
  | item :: later =>
      have laterApart := apart_items later markNext apart
      have itemApart := apart_document item (markNext_itemLexemes later markNext) laterApart
      rw [itemLexemes, List.append_assoc]
      exact apart_cons_of_mark rfl itemApart

theorem apart_fields (fields : List (List Item × Document)) {rest : List Lexeme}
    (markNext : MarkNext rest) (apart : Apart rest) : Apart (fieldLexemes fields ++ rest) := by
  match fields with
  | [] => exact apart
  | (name, value) :: later =>
      have laterApart := apart_fields later markNext apart
      have valueApart := apart_document value (markNext_fieldLexemes later markNext) laterApart
      rw [fieldLexemes, List.append_assoc]
      exact apart_cons_of_mark rfl (apart_cons_of_markNext _ (markNext_cons rfl _)
        (apart_cons_of_mark rfl valueApart))

end

end Json
end SignedGateway
