import Mathlib.Data.List.Forall2
import SignedGateway.Proofs.Json.Document
import SignedGateway.Proofs.Json.Fields

namespace SignedGateway
namespace Json

/-!
# Values that trees denote

A tree keeps the fields of an object as they were written, and the value that it denotes holds
under each name what the last of them with this name denotes.  Two bounds pass from a document over
its tree to its value: how many arrays and objects stand within each other, and which numbers occur.
A value in turn is denoted by a tree in which no object has a name twice.
-/

open Document.lexemes Document.tree Tree.toJson? Tree.ofJson

/-- The tree denotes the value. -/
def Tree.Denotes (tree : Tree) (value : Json) : Prop :=
  tree.toJson? = some value

/-- The field of a tree denotes the field of a value. -/
def Denoted (field : String × Tree) (shown : String × Json) : Prop :=
  shown.1 = field.1 ∧ field.2.Denotes shown.2

/-- No object of the tree has a name twice. -/
inductive Tree.Distinct : Tree → Prop where
  | null : Distinct .null
  | bool (value : Bool) : Distinct (.bool value)
  | number (value : Number) : Distinct (.number value)
  | text (value : String) : Distinct (.text value)
  | array {items : List Tree} (each : ∀ item ∈ items, Distinct item) : Distinct (.array items)
  | object {fields : List (String × Tree)} (names : (fields.map Prod.fst).Nodup)
      (each : ∀ field ∈ fields, Distinct field.2) : Distinct (.object fields)

/-! ## Bounds -/

/-- At most so many arrays and objects stand within each other in the tree, and its numbers are of
the kind. -/
inductive Tree.Fits (kind : Number → Prop) : Nat → Tree → Prop where
  | null (depth : Nat) : Fits kind depth .null
  | bool (depth : Nat) (value : Bool) : Fits kind depth (.bool value)
  | number (depth : Nat) {value : Number} (holds : kind value) : Fits kind depth (.number value)
  | text (depth : Nat) (value : String) : Fits kind depth (.text value)
  | array {depth : Nat} {items : List Tree} (each : ∀ item ∈ items, Fits kind depth item) :
      Fits kind (depth + 1) (.array items)
  | object {depth : Nat} {fields : List (String × Tree)}
      (each : ∀ field ∈ fields, Fits kind depth field.2) : Fits kind (depth + 1) (.object fields)
  | unusable (depth : Nat) : Fits kind depth .unusable

/-- The same of a value, whose objects have their names in order. -/
inductive Fits (kind : Number → Prop) : Nat → Json → Prop where
  | null (depth : Nat) : Fits kind depth .null
  | bool (depth : Nat) (value : Bool) : Fits kind depth (.bool value)
  | number (depth : Nat) {value : Number} (holds : kind value) : Fits kind depth (.number value)
  | text (depth : Nat) (value : String) : Fits kind depth (.text value)
  | array {depth : Nat} {items : List Json} (each : ∀ item ∈ items, Fits kind depth item) :
      Fits kind (depth + 1) (.array items)
  | object {depth : Nat} {fields : List (String × Json)} (inOrder : InOrder fields)
      (each : ∀ field ∈ fields, Fits kind depth field.2) : Fits kind (depth + 1) (.object fields)

/-- The numerals of the document, in the order in which they are written. -/
def Document.numerals : Document → List Numeral
  | .null => []
  | .bool _ => []
  | .number numeral => [numeral]
  | .text _ => []
  | .array items => itemNumerals items
  | .object fields => fieldNumerals fields
where
  itemNumerals : List Document → List Numeral
    | [] => []
    | item :: rest => numerals item ++ itemNumerals rest
  fieldNumerals : List (List Item × Document) → List Numeral
    | [] => []
    | (_, value) :: rest => numerals value ++ fieldNumerals rest

open Document.numerals

/-! ## What a tree denotes, part by part -/

theorem itemsToJson?_eq_some_iff {items : List Tree} {values : List Json} :
    itemsToJson? items = some values ↔ List.Forall₂ Tree.Denotes items values := by
  induction items generalizing values with
  | nil => simp [itemsToJson?, eq_comm]
  | cons item rest inductionHypothesis =>
      rw [itemsToJson?, List.forall₂_cons_left_iff]
      constructor
      · intro made
        rcases Option.bind_eq_some_iff.mp made with ⟨first, denotes, more⟩
        rcases Option.bind_eq_some_iff.mp more with ⟨later, others, whole⟩
        cases whole
        exact ⟨first, later, denotes, inductionHypothesis.mp others, rfl⟩
      · rintro ⟨first, later, denotes, others, rfl⟩
        exact Option.bind_eq_some_iff.mpr ⟨first, denotes,
          Option.bind_eq_some_iff.mpr ⟨later, inductionHypothesis.mpr others, rfl⟩⟩

theorem fieldsToJson?_eq_some_iff {fields : List (String × Tree)}
    {shown : List (String × Json)} :
    fieldsToJson? fields = some shown ↔ List.Forall₂ Denoted fields shown := by
  induction fields generalizing shown with
  | nil => simp [fieldsToJson?, eq_comm]
  | cons field rest inductionHypothesis =>
      rcases field with ⟨name, value⟩
      rw [fieldsToJson?, List.forall₂_cons_left_iff]
      constructor
      · intro made
        rcases Option.bind_eq_some_iff.mp made with ⟨first, denotes, more⟩
        rcases Option.bind_eq_some_iff.mp more with ⟨later, others, whole⟩
        cases whole
        exact ⟨(name, first), later, ⟨rfl, denotes⟩, inductionHypothesis.mp others, rfl⟩
      · rintro ⟨⟨_, first⟩, later, ⟨rfl, denotes⟩, others, rfl⟩
        exact Option.bind_eq_some_iff.mpr ⟨first, denotes,
          Option.bind_eq_some_iff.mpr ⟨later, inductionHypothesis.mpr others, rfl⟩⟩

theorem denotes_array_iff {items : List Tree} {value : Json} :
    (Tree.array items).Denotes value ↔
      ∃ values, List.Forall₂ Tree.Denotes items values ∧ Json.array values = value := by
  simp only [Tree.Denotes, Tree.toJson?, Option.map_eq_some_iff, itemsToJson?_eq_some_iff]

theorem denotes_object_iff {fields : List (String × Tree)} {value : Json} :
    (Tree.object fields).Denotes value ↔
      ∃ shown, List.Forall₂ Denoted fields shown ∧ ofFields shown = value := by
  simp only [Tree.Denotes, Tree.toJson?, Option.map_eq_some_iff, fieldsToJson?_eq_some_iff]

/-- What stands on the right of related lists has a counterpart on the left. -/
theorem exists_of_mem_right {α β : Type} {relation : α → β → Prop} {left : List α} {right : List β}
    (each : List.Forall₂ relation left right) {item : β} (member : item ∈ right) :
    ∃ other ∈ left, relation other item := by
  induction each with
  | nil => cases member
  | cons related _ inductionHypothesis =>
      rcases List.mem_cons.mp member with rfl | later
      · exact ⟨_, List.mem_cons_self, related⟩
      · rcases inductionHypothesis later with ⟨other, found, same⟩
        exact ⟨other, List.mem_cons_of_mem _ found, same⟩

theorem rel_lookup {fields : List (String × Tree)} {shown : List (String × Json)}
    (each : List.Forall₂ Denoted fields shown) (name : String) :
    Option.Rel Tree.Denotes (fields.lookup name) (shown.lookup name) := by
  induction each with
  | nil => exact .none
  | @cons field value _ _ denoted _ inductionHypothesis =>
      rw [List.lookup_cons, List.lookup_cons, denoted.1]
      split
      · exact .some denoted.2
      · exact inductionHypothesis

/-- Under each name stands what the last field with this name denotes. -/
theorem rel_field? {fields : List (String × Tree)} {value : Json}
    (denotes : (Tree.object fields).Denotes value) (name : String) :
    Option.Rel Tree.Denotes (fields.reverse.lookup name) (value.field? name) := by
  rcases denotes_object_iff.mp denotes with ⟨shown, each, rfl⟩
  rw [field?_ofFields]
  exact rel_lookup (List.rel_reverse each) name

/-! ## Bounds pass from a document to its value -/

theorem mem_storeFields {held fields : List (String × Json)} {field : String × Json}
    (member : field ∈ storeFields held fields) : field ∈ held ∨ field ∈ fields := by
  induction fields generalizing held with
  | nil => exact Or.inl member
  | cons first rest inductionHypothesis =>
      rcases inductionHypothesis member with stored | later
      · rcases mem_insertField stored with rfl | before
        · exact Or.inr List.mem_cons_self
        · exact Or.inl before
      · exact Or.inr (List.mem_cons_of_mem first later)

theorem fits_ofFields {kind : Number → Prop} {depth : Nat} {fields : List (String × Json)}
    (each : ∀ field ∈ fields, field.2.Fits kind depth) :
    (ofFields fields).Fits kind (depth + 1) := by
  refine .object (InOrder.storeFields List.Pairwise.nil fields) fun field member => ?_
  exact each field ((mem_storeFields member).resolve_left List.not_mem_nil)

theorem Tree.Fits.value {kind : Number → Prop} {depth : Nat} {tree : Tree}
    (fits : tree.Fits kind depth) {value : Json} (denotes : tree.Denotes value) :
    value.Fits kind depth := by
  induction fits generalizing value with
  | null depth =>
      cases denotes
      exact .null depth
  | bool depth held =>
      cases denotes
      exact .bool depth held
  | number depth holds =>
      cases denotes
      exact .number depth holds
  | text depth held =>
      cases denotes
      exact .text depth held
  | array _ inductionHypothesis =>
      rcases denotes_array_iff.mp denotes with ⟨values, each, rfl⟩
      refine .array fun item member => ?_
      rcases exists_of_mem_right each member with ⟨tree, found, same⟩
      exact inductionHypothesis tree found same
  | object _ inductionHypothesis =>
      rcases denotes_object_iff.mp denotes with ⟨shown, each, rfl⟩
      apply fits_ofFields
      intro field member
      rcases exists_of_mem_right each member with ⟨tree, found, same⟩
      exact inductionHypothesis tree found same.2
  | unusable depth => cases denotes

-- The numerals of a document are gathered along the parts of it, so the bounds are found part by
-- part as well.
mutual

/-- A document fits in the depth that is left, and its numbers are those of its numerals. -/
theorem fits_tree {kind : Number → Prop} (document : Document) (depth : Nat)
    (holds : ∀ numeral ∈ document.numerals, ∀ number,
      Number.ofParts numeral.parts = some number → kind number) :
    (document.tree depth).Fits kind depth := by
  match document with
  | .null => exact .null depth
  | .bool value => exact .bool depth value
  | .number numeral =>
      rw [Document.tree, Numeral.tree]
      cases read : Number.ofParts numeral.parts with
      | none => exact .unusable depth
      | some number => exact .number depth (holds numeral List.mem_cons_self number read)
  | .text items =>
      rw [Document.tree]
      cases textOf? items with
      | none => exact .unusable depth
      | some text => exact .text depth _
  | .array items =>
      rw [Document.tree]
      cases depth with
      | zero => exact .unusable 0
      | succ depth => exact .array (fits_itemTrees items depth holds)
  | .object fields =>
      rw [Document.tree]
      cases depth with
      | zero => exact .unusable 0
      | succ depth =>
          rw [if_neg (Nat.succ_ne_zero depth), Nat.add_sub_cancel]
          cases named : namedValues? (fieldTrees fields depth) with
          | none => exact .unusable (depth + 1)
          | some held => exact .object (fits_fieldTrees fields depth holds named)

theorem fits_itemTrees {kind : Number → Prop} (items : List Document) (depth : Nat)
    (holds : ∀ numeral ∈ itemNumerals items, ∀ number,
      Number.ofParts numeral.parts = some number → kind number) :
    ∀ item ∈ itemTrees items depth, item.Fits kind depth := by
  match items with
  | [] => exact List.forall_mem_nil _
  | item :: rest =>
      have first := fits_tree item depth fun numeral member =>
        holds numeral (List.mem_append_left _ member)
      have later := fits_itemTrees rest depth fun numeral member =>
        holds numeral (List.mem_append_right _ member)
      exact List.forall_mem_cons.mpr ⟨first, later⟩

theorem fits_fieldTrees {kind : Number → Prop} (fields : List (List Item × Document)) (depth : Nat)
    (holds : ∀ numeral ∈ fieldNumerals fields, ∀ number,
      Number.ofParts numeral.parts = some number → kind number)
    {named : List (String × Tree)} (denoted : namedValues? (fieldTrees fields depth) = some named) :
    ∀ field ∈ named, field.2.Fits kind depth := by
  match fields with
  | [] =>
      cases denoted
      exact List.forall_mem_nil _
  | (name, value) :: rest =>
      rcases Option.bind_eq_some_iff.mp denoted with ⟨text, _, more⟩
      rcases Option.bind_eq_some_iff.mp more with ⟨others, denotedRest, whole⟩
      cases whole
      have first := fits_tree value depth fun numeral member =>
        holds numeral (List.mem_append_left _ member)
      have later := fits_fieldTrees rest depth
        (fun numeral member => holds numeral (List.mem_append_right _ member)) denotedRest
      exact List.forall_mem_cons.mpr ⟨first, later⟩

end

/-! ## The tree of a value -/

theorem ofItems_eq_map (items : List Json) : ofItems items = items.map Tree.ofJson := by
  induction items with
  | nil => rfl
  | cons item rest inductionHypothesis => rw [ofItems, inductionHypothesis, List.map_cons]

theorem ofFields_eq_map (fields : List (String × Json)) :
    Tree.ofJson.ofFields fields = fields.map fun field => (field.1, Tree.ofJson field.2) := by
  induction fields with
  | nil => rfl
  | cons field rest inductionHypothesis =>
      rw [Tree.ofJson.ofFields, inductionHypothesis, List.map_cons]

/-- Fields in order are stored as they stand. -/
theorem ofFields_of_inOrder {fields : List (String × Json)} (inOrder : InOrder fields) :
    Json.ofFields fields = .object fields := by
  rw [ofFields_eq]
  congr 1
  apply (InOrder.storeFields List.Pairwise.nil fields).eq_of_lookup inOrder
  intro name
  rw [lookup_storeFields, List.append_nil, lookup_reverse inOrder.distinct]

theorem Fits.denotes_ofJson {kind : Number → Prop} {depth : Nat} {value : Json}
    (fits : value.Fits kind depth) : (Tree.ofJson value).Denotes value := by
  induction fits with
  | null | bool | number | text => rfl
  | @array _ items _ inductionHypothesis =>
      rw [Tree.ofJson, ofItems_eq_map]
      refine denotes_array_iff.mpr ⟨items, ?_, rfl⟩
      exact List.forall₂_map_left_iff.mpr (List.forall₂_same.mpr inductionHypothesis)
  | @object _ fields inOrder _ inductionHypothesis =>
      rw [Tree.ofJson, ofFields_eq_map]
      refine denotes_object_iff.mpr ⟨fields, ?_, ofFields_of_inOrder inOrder⟩
      exact List.forall₂_map_left_iff.mpr (List.forall₂_same.mpr fun field member =>
        ⟨rfl, inductionHypothesis field member⟩)

theorem Fits.distinct_ofJson {kind : Number → Prop} {depth : Nat} {value : Json}
    (fits : value.Fits kind depth) : (Tree.ofJson value).Distinct := by
  induction fits with
  | null => exact .null
  | bool _ held => exact .bool held
  | number _ _ => exact .number _
  | text _ held => exact .text held
  | array _ inductionHypothesis =>
      rw [Tree.ofJson, ofItems_eq_map]
      exact .array (List.forall_mem_map.mpr inductionHypothesis)
  | @object _ fields inOrder _ inductionHypothesis =>
      rw [Tree.ofJson, ofFields_eq_map]
      refine .object ?_ (List.forall_mem_map.mpr inductionHypothesis)
      rw [List.map_map]
      exact inOrder.distinct

end Json
end SignedGateway
