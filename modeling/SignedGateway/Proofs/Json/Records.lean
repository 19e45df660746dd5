import Mathlib.Data.List.Count
import SignedGateway.Json.Record
import SignedGateway.Proofs.Json.Denotation
import SignedGateway.Proofs.Result

namespace SignedGateway
namespace Json

/-!
# What records say

A record says something under a name when it has a field of that name, or an item in its place,
that is not `null`.  A reader of records takes just that, and so what is written of a value can be
compared with the record that the value was read from.  In the other direction a reader takes an
object for the value whose fields it denotes, in whatever order they stand.
-/

/-! ## What is said -/

/-- The fields of a record by name, whether it is an object or an array. -/
def Tree.recordFields (names : List String) : Tree → List (String × Tree)
  | .object fields => fields
  | .array items => names.zip items
  | _ => []

/-- Saying `null` is saying nothing. -/
def Tree.present? : Tree → Option Tree
  | .null => none
  | tree => some tree

/-- What a record says under a name. -/
def Tree.said? (names : List String) (tree : Tree) (name : String) : Option Tree :=
  ((tree.recordFields names).lookup name).bind Tree.present?

/-- The document shows a record of these parts: under the name of each part it holds what the
record says there, if anything, and it holds nothing else. -/
structure Shows (parts : List (String × (Tree → Json → Prop))) (tree : Tree) (document : Json) :
    Prop where
  known : ∀ part ∈ parts,
    Option.Rel part.2 (tree.said? (parts.map Prod.fst) part.1) (document.field? part.1)
  others : ∀ name, name ∉ parts.map Prod.fst → document.field? name = none

/-- What a record says stands within the record. -/
theorem Tree.Fits.said? {kind : Number → Prop} {depth : Nat} {tree said : Tree}
    (fits : tree.Fits kind (depth + 1)) {names : List String} {name : String}
    (found : tree.said? names name = some said) : said.Fits kind depth := by
  rcases Option.bind_eq_some_iff.mp found with ⟨held, stored, present⟩
  have same : held = said := by
    cases held <;> cases present <;> rfl
  subst same
  rcases List.lookup_eq_some_iff.mp stored with ⟨before, after, fields, _⟩
  have member : (name, held) ∈ tree.recordFields names := by
    rw [fields]
    exact List.mem_append_right _ List.mem_cons_self
  cases fits with
  | array each => exact each held (List.of_mem_zip member).2
  | object each => exact each (name, held) member
  | _ => cases member

variable {α : Type} {reader : Reader α}

namespace Reader

/-- The reader makes the value of the tree. -/
def Makes (reader : Reader α) (tree : Tree) (value : α) : Prop :=
  reader tree = .ok value

def RefusesNull (reader : Reader α) : Prop :=
  ∀ value, ¬reader.Makes .null value

theorem refusesNull_text : text.RefusesNull := by
  intro value made
  cases made

theorem denotes_of_text {tree : Tree} {value : String} (made : text.Makes tree value) :
    tree.Denotes (.text value) := by
  cases tree with
  | text held =>
      cases made
      rfl
  | _ => cases made

end Reader

/-! ## Reading a record -/

namespace Record

theorem fields_of_ofTree {names : List String} {tree : Tree} {record : Record}
    (read : ofTree names tree = .ok record) : record.fields = tree.recordFields names := by
  cases tree with
  | object fields =>
      rcases Result.bind_eq_ok_iff.mp read with ⟨_, _, made⟩
      cases made
      rfl
  | array items =>
      simp only [ofTree] at read
      split at read
      · cases read
      · cases read
        rfl
  | _ => cases read

theorem refusesNull_ofTree (names : List String) : Reader.RefusesNull (ofTree names) := by
  intro record made
  cases made

theorem nullable_eq (reader : Reader α) (tree : Tree) :
    nullable reader tree = (tree.present?.map reader).elim (.ok none) (Except.map some) := by
  cases tree <;> rfl

variable {names : List String} {tree : Tree} {record : Record} {name : String}

/-- A field that must be present is made of what the record says under its name. -/
theorem said_of_required (read : ofTree names tree = .ok record) (refuses : reader.RefusesNull)
    {value : α} (made : record.required name reader = .ok value) :
    Option.Rel reader.Makes (tree.said? names name) (some value) := by
  rw [Tree.said?, ← fields_of_ofTree read]
  unfold required at made
  split at made
  · next held found =>
      have present : held.present? = some held := by
        cases held with
        | null => exact absurd made (refuses value)
        | _ => rfl
      rw [found, Option.bind_some, present]
      exact .some made
  · cases made

/-- There is a value exactly if the record says something. -/
theorem said_of_optional (read : ofTree names tree = .ok record) {value : Option α}
    (made : record.optional name reader = .ok value) :
    Option.Rel reader.Makes (tree.said? names name) value := by
  rw [Tree.said?, ← fields_of_ofTree read]
  unfold optional withDefault at made
  split at made
  · next held found =>
      rw [nullable_eq] at made
      rw [found, Option.bind_some]
      cases present : held.present? with
      | none =>
          rw [present] at made
          cases made
          exact .none
      | some said =>
          rw [present] at made
          change (reader said).map some = _ at made
          cases taken : reader said with
          | error fault =>
              rw [taken] at made
              cases made
          | ok known =>
              rw [taken] at made
              cases made
              exact .some taken
  · next missing =>
      cases made
      rw [missing]
      exact .none

/-! ## Reading what is written -/

/-- An object that has no name twice passes for a record. -/
theorem ofTree_object {fields : List (String × Tree)} (distinct : (Tree.object fields).Distinct)
    (names : List String) : ofTree names (.object fields) = .ok ⟨false, fields⟩ := by
  cases distinct with
  | object nodup each =>
      have single (name : String) :
          (fields.filter fun field => field.1 == name).length ≤ 1 := by
        have count := List.nodup_iff_count_le_one.mp nodup name
        rwa [List.count, List.countP_map, List.countP_eq_length_filter] at count
      have passes : noDuplicates names fields = .ok () := by
        induction names with
        | nil => rfl
        | cons name rest inductionHypothesis =>
            rw [noDuplicates, if_neg (Nat.not_lt.mpr (single name)), inductionHypothesis]
      exact Result.bind_eq_ok_iff.mpr ⟨(), passes, rfl⟩

end Record

/-- The reader takes every tree that denotes what is written of the value for the value. -/
def Reader.TakesBack (reader : Reader α) (toJson : α → Json) (value : α) : Prop :=
  ∀ tree : Tree, tree.Distinct → tree.Denotes (toJson value) → reader.Makes tree value

theorem Reader.takesBack_text (value : String) : text.TakesBack .text value := by
  intro tree _ denotes
  cases tree with
  | text held =>
      cases denotes
      rfl
  | array items =>
      rcases denotes_array_iff.mp denotes with ⟨values, _, same⟩
      cases same
  | object fields =>
      rcases denotes_object_iff.mp denotes with ⟨shown, _, same⟩
      cases same
  | _ => cases denotes

theorem exists_object_of_denotes {tree : Tree} {shown : List (String × Json)}
    (denotes : tree.Denotes (ofFields shown)) : ∃ fields, tree = .object fields := by
  cases tree with
  | object fields => exact ⟨fields, rfl⟩
  | array items =>
      rcases denotes_array_iff.mp denotes with ⟨values, _, same⟩
      cases same
  | _ => cases denotes

section Objects

variable {fields : List (String × Tree)} {document : Json} {name : String} {toJson : α → Json}

/-- Where no name comes twice, each field denotes what the object holds under its name. -/
theorem rel_lookup_field? (distinct : (Tree.object fields).Distinct)
    (denotes : (Tree.object fields).Denotes document) (name : String) :
    Option.Rel (fun tree value => tree.Distinct ∧ tree.Denotes value) (fields.lookup name)
      (document.field? name) := by
  cases distinct with
  | object nodup each =>
      have shown := rel_field? denotes name
      rw [lookup_reverse nodup] at shown
      generalize document.field? name = held at shown ⊢
      cases found : fields.lookup name with
      | none =>
          rw [found] at shown
          cases shown
          exact .none
      | some tree =>
          rw [found] at shown
          cases shown with
          | some denoted =>
              rcases List.lookup_eq_some_iff.mp found with ⟨before, after, rfl, _⟩
              exact .some ⟨each (name, tree) (by simp), denoted⟩

theorem required_of_field? (distinct : (Tree.object fields).Distinct)
    (denotes : (Tree.object fields).Denotes document) {value : α}
    (held : document.field? name = some (toJson value))
    (takesBack : reader.TakesBack toJson value) :
    Record.required ⟨false, fields⟩ name reader = .ok value := by
  have shown := rel_lookup_field? distinct denotes name
  rw [held] at shown
  unfold Record.required
  cases found : fields.lookup name with
  | none =>
      rw [found] at shown
      cases shown
  | some tree =>
      rw [found] at shown
      cases shown with
      | some denoted => exact takesBack tree denoted.1 denoted.2

theorem optional_of_field? (distinct : (Tree.object fields).Distinct)
    (denotes : (Tree.object fields).Denotes document) {value : Option α}
    (held : document.field? name = value.map toJson) (refuses : reader.RefusesNull)
    (takesBack : ∀ known ∈ value, reader.TakesBack toJson known) :
    Record.optional ⟨false, fields⟩ name reader = .ok value := by
  have shown := rel_lookup_field? distinct denotes name
  rw [held] at shown
  unfold Record.optional Record.withDefault
  cases value with
  | none =>
      cases found : fields.lookup name with
      | none => rfl
      | some tree =>
          rw [found] at shown
          cases shown
  | some known =>
      cases found : fields.lookup name with
      | none =>
          rw [found] at shown
          cases shown
      | some tree =>
          rw [found] at shown
          cases shown with
          | some denoted =>
              have made := takesBack known rfl tree denoted.1 denoted.2
              have present : tree.present? = some tree := by
                cases tree with
                | null => exact absurd made (refuses known)
                | _ => rfl
              rw [Reader.Makes] at made
              dsimp only
              rw [Record.nullable_eq, present, Option.map_some, Option.elim_some, made]
              rfl

end Objects

end Json
end SignedGateway
