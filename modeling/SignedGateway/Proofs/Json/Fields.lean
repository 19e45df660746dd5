import Mathlib.Data.List.Nodup
import SignedGateway.Json.Basic
import SignedGateway.Proofs.MultiMap

namespace SignedGateway
namespace Json

/-!
# Fields of objects

An object is made by storing its fields one after another.  It keeps their names in order,
each of them once, so it is known by what stands under each name: two objects with the same
fields are the same object, whatever the order in which their fields were given.
-/

/-! ## Storing a field -/

section Insertion

variable {name other : String} {value : Json} {fields : List (String × Json)}

theorem lookup_insertField_self : (insertField name value fields).lookup name = some value := by
  induction fields with
  | nil => exact List.lookup_cons_self
  | cons field rest inductionHypothesis =>
      rcases field with ⟨key, held⟩
      rw [insertField]
      by_cases before : name < key
      · rw [if_pos before]
        exact List.lookup_cons_self
      · rw [if_neg before]
        by_cases same : name = key
        · rw [if_pos same]
          exact List.lookup_cons_self
        · rw [if_neg same, List.lookup_cons, beq_false_of_ne same]
          exact inductionHypothesis

theorem lookup_insertField_of_ne (different : other ≠ name) :
    (insertField name value fields).lookup other = fields.lookup other := by
  have skipped (rest : List (String × Json)) :
      ((name, value) :: rest).lookup other = rest.lookup other := by
    rw [List.lookup_cons, beq_false_of_ne different]
  induction fields with
  | nil => exact skipped []
  | cons field rest inductionHypothesis =>
      rcases field with ⟨key, held⟩
      rw [insertField]
      by_cases before : name < key
      · rw [if_pos before, skipped]
      · rw [if_neg before]
        by_cases same : name = key
        · rw [if_pos same, skipped, List.lookup_cons, beq_false_of_ne (same ▸ different)]
        · rw [if_neg same, List.lookup_cons, List.lookup_cons, inductionHypothesis]

/-- Whatever is asked for, the stored field answers to its own name. -/
theorem lookup_insertField (name other : String) (value : Json) (fields : List (String × Json)) :
    (insertField name value fields).lookup other = ((name, value) :: fields).lookup other := by
  by_cases same : other = name
  · rw [same, lookup_insertField_self, List.lookup_cons_self]
  · rw [lookup_insertField_of_ne same, List.lookup_cons, beq_false_of_ne same]

theorem mem_insertField {field : String × Json} (member : field ∈ insertField name value fields) :
    field = (name, value) ∨ field ∈ fields := by
  induction fields with
  | nil => exact Or.inl (List.mem_singleton.mp member)
  | cons head rest inductionHypothesis =>
      rcases head with ⟨key, held⟩
      rw [insertField] at member
      split_ifs at member with before same
      · exact List.mem_cons.mp member
      · exact (List.mem_cons.mp member).imp_right (List.mem_cons_of_mem _)
      · rcases List.mem_cons.mp member with kept | later
        · exact Or.inr (kept ▸ List.mem_cons_self)
        · exact (inductionHypothesis later).imp_right (List.mem_cons_of_mem _)

end Insertion

/-! ## The order of names -/

theorem lt_of_ne_of_not_lt {first second : String} (different : first ≠ second)
    (behind : ¬ first < second) : second < first := by
  by_contra ahead
  exact different (String.le_antisymm (String.not_lt.mp ahead) (String.not_lt.mp behind))

/-- Names stand in order, each of them once. -/
def InOrder (fields : List (String × Json)) : Prop :=
  fields.Pairwise fun first second => first.1 < second.1

theorem InOrder.insertField {fields : List (String × Json)} (inOrder : InOrder fields)
    (name : String) (value : Json) : InOrder (Json.insertField name value fields) := by
  induction fields with
  | nil => exact List.pairwise_singleton _ _
  | cons head rest inductionHypothesis =>
      rcases head with ⟨key, held⟩
      rcases List.pairwise_cons.mp inOrder with ⟨first, restInOrder⟩
      rw [Json.insertField]
      split_ifs with before same
      · apply List.pairwise_cons.mpr
        refine ⟨fun field member => ?_, inOrder⟩
        rcases List.mem_cons.mp member with rfl | later
        · exact before
        · exact String.lt_trans before (first field later)
      · subst same
        exact List.pairwise_cons.mpr ⟨first, restInOrder⟩
      · apply List.pairwise_cons.mpr
        refine ⟨fun field member => ?_, inductionHypothesis restInOrder⟩
        rcases mem_insertField member with rfl | later
        · exact lt_of_ne_of_not_lt same before
        · exact first field later

theorem InOrder.distinct {fields : List (String × Json)} (inOrder : InOrder fields) :
    (fields.map Prod.fst).Nodup := by
  apply List.pairwise_map.mpr
  apply List.Pairwise.imp _ inOrder
  intro first second before same
  rw [same] at before
  exact String.lt_irrefl _ before

/-- Fields in order are known by what stands under each name. -/
theorem InOrder.eq_of_lookup {left right : List (String × Json)} (leftInOrder : InOrder left)
    (rightInOrder : InOrder right) (same : ∀ name, left.lookup name = right.lookup name) :
    left = right := by
  have found {fields : List (String × Json)} (inOrder : InOrder fields) {field : String × Json} :
      field ∈ fields ↔ fields.lookup field.1 = some field.2 := by
    constructor
    · intro member
      exact MultiMap.lookup_of_mem inOrder.distinct member
    · intro stored
      rcases List.lookup_eq_some_iff.mp stored with ⟨before, after, rfl, _⟩
      exact List.mem_append_right _ List.mem_cons_self
  have perm : left.Perm right := by
    apply (List.perm_ext_iff_of_nodup leftInOrder.distinct.of_map rightInOrder.distinct.of_map).mpr
    intro field
    rw [found leftInOrder, found rightInOrder, same]
  apply perm.eq_of_pairwise ?_ leftInOrder rightInOrder
  intro first second _ _ before after
  exact absurd after (String.lt_asymm before)

/-! ## Objects made of fields -/

section Objects

/-- The fields that are held after some more have been stored in turn. -/
def storeFields (held fields : List (String × Json)) : List (String × Json) :=
  fields.foldl (fun held field => insertField field.1 field.2 held) held

theorem ofFields_eq (fields : List (String × Json)) :
    ofFields fields = .object (storeFields [] fields) := rfl

theorem InOrder.storeFields {held : List (String × Json)} (inOrder : InOrder held)
    (fields : List (String × Json)) : InOrder (Json.storeFields held fields) := by
  induction fields generalizing held with
  | nil => exact inOrder
  | cons field rest inductionHypothesis =>
      exact inductionHypothesis (inOrder.insertField field.1 field.2)

theorem lookup_storeFields (held fields : List (String × Json)) (name : String) :
    (storeFields held fields).lookup name = (fields.reverse ++ held).lookup name := by
  induction fields generalizing held with
  | nil => rfl
  | cons field rest inductionHypothesis =>
      change (storeFields (insertField field.1 field.2 held) rest).lookup name = _
      rw [inductionHypothesis, List.reverse_cons, List.append_assoc, List.lookup_append,
        List.lookup_append, lookup_insertField]
      rfl

/-- Under each name stands the last field that was given for it. -/
theorem field?_ofFields (name : String) (fields : List (String × Json)) :
    (ofFields fields).field? name = fields.reverse.lookup name := by
  have stored := lookup_storeFields [] fields name
  rwa [List.append_nil] at stored

/-- Objects are known by their fields. -/
theorem ofFields_eq_iff {left right : List (String × Json)} :
    ofFields left = ofFields right ↔
      ∀ name, left.reverse.lookup name = right.reverse.lookup name := by
  constructor
  · intro same name
    rw [← field?_ofFields, same, field?_ofFields]
  · intro same
    have inOrder (fields : List (String × Json)) : InOrder (storeFields [] fields) :=
      InOrder.storeFields List.Pairwise.nil fields
    rw [ofFields_eq, ofFields_eq]
    congr 1
    apply (inOrder left).eq_of_lookup (inOrder right)
    intro name
    rw [lookup_storeFields, lookup_storeFields, List.append_nil, List.append_nil, same]

/-- Where no name is given twice, it does not matter from which end one looks. -/
theorem lookup_reverse {α : Type} {fields : List (String × α)}
    (distinct : (fields.map Prod.fst).Nodup) (name : String) :
    fields.reverse.lookup name = fields.lookup name := by
  have reversed : (fields.reverse.map Prod.fst).Nodup := by
    rw [List.map_reverse]
    exact List.nodup_reverse.mpr distinct
  cases stored : fields.lookup name with
  | some value =>
      rcases List.lookup_eq_some_iff.mp stored with ⟨before, after, rfl, _⟩
      apply MultiMap.lookup_of_mem reversed
      simp
  | none =>
      rw [List.lookup_eq_none_iff] at stored ⊢
      intro field member
      exact stored field (List.mem_reverse.mp member)

/-- Two objects whose fields have the same names are the same if each field is. -/
theorem ofFields_inj {left right : List (String × Json)}
    (distinct : (left.map Prod.fst).Nodup) (names : left.map Prod.fst = right.map Prod.fst) :
    ofFields left = ofFields right ↔ left = right := by
  constructor
  · intro same
    have looked := ofFields_eq_iff.mp same
    have length : left.length = right.length := by
      simpa only [List.length_map] using congrArg List.length names
    apply List.ext_getElem length
    intro index leftBound rightBound
    have name : left[index].1 = right[index].1 := by
      simpa only [List.getElem?_map, List.getElem?_eq_getElem leftBound,
        List.getElem?_eq_getElem rightBound, Option.map_some, Option.some.injEq] using
        congrArg (fun list => list[index]?) names
    have leftHeld : left.lookup left[index].1 = some left[index].2 :=
      MultiMap.lookup_of_mem distinct (List.getElem_mem leftBound)
    have rightHeld : right.lookup right[index].1 = some right[index].2 :=
      MultiMap.lookup_of_mem (names ▸ distinct) (List.getElem_mem rightBound)
    have both := looked left[index].1
    rw [lookup_reverse distinct, lookup_reverse (names ▸ distinct), leftHeld, name,
      rightHeld] at both
    exact Prod.ext name (Option.some.inj both)
  · rintro rfl
    rfl

end Objects

end Json
end SignedGateway
