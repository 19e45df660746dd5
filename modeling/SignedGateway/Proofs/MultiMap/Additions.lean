import Mathlib.Data.List.Perm.Basic
import SignedGateway.Proofs.MultiMap.Selection

namespace SignedGateway
namespace MultiMap

/-!
# Maps made by adding fields

A field is a name with some values, perhaps none.  A map that is made by adding fields holds
under a key the values of all fields with that key, in the order of these fields.  Where they
stand among other fields plays no part in this, nor do the letters in which a header's name
is written.
-/

/-- The map after some fields have been added in turn. -/
def addFields (map : MultiMap) (fields : List (String × List String)) : MultiMap :=
  fields.foldl (fun map field => map.addAll field.1 field.2) map

/-- The map that results from adding the fields in turn. -/
def ofFields (caseSensitive : Bool) (fields : List (String × List String)) : MultiMap :=
  (empty caseSensitive).addFields fields

/-- The lists of values that fields have under a key. -/
def listsUnder (caseSensitive : Bool) (fields : List (String × List String)) (key : String) :
    List (List String) :=
  (fields.filter fun field => normalize caseSensitive field.1 == key).map Prod.snd

/-- All values that fields have under a key, if it is the key of any field. -/
def gathered (caseSensitive : Bool) (fields : List (String × List String)) (key : String) :
    Option (List String) :=
  if listsUnder caseSensitive fields key = [] then none
  else some (listsUnder caseSensitive fields key).flatten

theorem listsUnder_cons (caseSensitive : Bool) (field : String × List String)
    (rest : List (String × List String)) (key : String) :
    listsUnder caseSensitive (field :: rest) key =
      if normalize caseSensitive field.1 = key then field.2 :: listsUnder caseSensitive rest key
      else listsUnder caseSensitive rest key := by
  by_cases same : normalize caseSensitive field.1 = key
  · simp [listsUnder, same]
  · simp [listsUnder, same]

theorem listsUnder_append (caseSensitive : Bool) (before after : List (String × List String))
    (key : String) :
    listsUnder caseSensitive (before ++ after) key =
      listsUnder caseSensitive before key ++ listsUnder caseSensitive after key := by
  simp only [listsUnder, List.filter_append, List.map_append]

theorem listsUnder_eq_nil {caseSensitive : Bool} {fields : List (String × List String)}
    {key : String} (absent : ∀ field ∈ fields, normalize caseSensitive field.1 ≠ key) :
    listsUnder caseSensitive fields key = [] := by
  rw [listsUnder, List.map_eq_nil_iff, List.filter_eq_nil_iff]
  intro field member
  exact mt beq_iff_eq.mp (absent field member)

theorem addFields_caseSensitive (map : MultiMap) (fields : List (String × List String)) :
    (map.addFields fields).caseSensitive = map.caseSensitive := by
  induction fields generalizing map with
  | nil => rfl
  | cons field rest inductionHypothesis => exact inductionHypothesis (map.addAll field.1 field.2)

@[simp]
theorem ofFields_caseSensitive (caseSensitive : Bool) (fields : List (String × List String)) :
    (ofFields caseSensitive fields).caseSensitive = caseSensitive :=
  addFields_caseSensitive (empty caseSensitive) fields

/-- Added fields put their values after those that are stored under their keys. -/
theorem lookup_addFields (map : MultiMap) (fields : List (String × List String)) (key : String) :
    (map.addFields fields).entries.lookup key =
      if listsUnder map.caseSensitive fields key = [] then map.entries.lookup key
      else some ((map.entries.lookup key).getD [] ++
        (listsUnder map.caseSensitive fields key).flatten) := by
  induction fields generalizing map with
  | nil => rfl
  | cons field rest inductionHypothesis =>
      have step := inductionHypothesis (map.addAll field.1 field.2)
      change ((map.addAll field.1 field.2).addFields rest).entries.lookup key = _
      rw [step, addAll_caseSensitive]
      by_cases same : normalize map.caseSensitive field.1 = key
      · have stored : (map.addAll field.1 field.2).entries.lookup key =
            some ((map.entries.lookup key).getD [] ++ field.2) := by
          change (upsert (normalize map.caseSensitive field.1) _ _ map.entries).lookup key = _
          rw [same, lookup_upsert_self]
          cases map.entries.lookup key <;> rfl
        simp only [stored, listsUnder_cons, if_pos same, reduceCtorEq, if_false, Option.getD_some,
          List.flatten_cons, List.append_assoc]
        split_ifs with none
        · rw [none, List.flatten_nil, List.append_nil]
        · rfl
      · have stored : (map.addAll field.1 field.2).entries.lookup key = map.entries.lookup key :=
          lookup_upsert_of_ne (Ne.symm same) _ _ map.entries
        rw [stored, listsUnder_cons, if_neg same]

/-- A map made from fields holds under a key what its fields have there. -/
theorem lookup_ofFields (caseSensitive : Bool) (fields : List (String × List String))
    (key : String) :
    (ofFields caseSensitive fields).entries.lookup key = gathered caseSensitive fields key :=
  lookup_addFields (empty caseSensitive) fields key

/-! ## Fields in another order and in other letters -/

/-- Under a key there is nothing but its one field, if no two fields have the same key. -/
theorem gathered_eq_some {caseSensitive : Bool} {fields : List (String × List String)}
    (distinct : (fields.map fun field => normalize caseSensitive field.1).Nodup)
    {field : String × List String} (member : field ∈ fields) :
    gathered caseSensitive fields (normalize caseSensitive field.1) = some field.2 := by
  have alone : listsUnder caseSensitive fields (normalize caseSensitive field.1) = [field.2] := by
    rcases List.append_of_mem member with ⟨before, after, rfl⟩
    simp only [List.map_append, List.map_cons, List.nodup_append, List.nodup_cons] at distinct
    have noneBefore : listsUnder caseSensitive before (normalize caseSensitive field.1) = [] :=
      listsUnder_eq_nil fun other early =>
        distinct.2.2 _ (List.mem_map_of_mem early) _ List.mem_cons_self
    have noneAfter : listsUnder caseSensitive after (normalize caseSensitive field.1) = [] :=
      listsUnder_eq_nil fun other late same => distinct.2.1.1 (same ▸ List.mem_map_of_mem late)
    rw [listsUnder_append, noneBefore, listsUnder_cons, if_pos rfl, noneAfter, List.nil_append]
  simp only [gathered, alone, reduceCtorEq, if_false, List.flatten_cons, List.flatten_nil,
    List.append_nil]

theorem gathered_eq_none {caseSensitive : Bool} {fields : List (String × List String)}
    {key : String} (absent : key ∉ fields.map fun field => normalize caseSensitive field.1) :
    gathered caseSensitive fields key = none := by
  have none : listsUnder caseSensitive fields key = [] :=
    listsUnder_eq_nil fun field member same => absent (same ▸ List.mem_map_of_mem member)
  rw [gathered, if_pos none]

/-- Fields with distinct keys may be added in any order, and their names may be written in any
letters that make no difference to the map. -/
theorem gathered_eq_of_perm {caseSensitive : Bool} {left right : List (String × List String)}
    (distinct : (left.map fun field => normalize caseSensitive field.1).Nodup)
    (perm : (left.map (Prod.map (normalize caseSensitive) id)).Perm
      (right.map (Prod.map (normalize caseSensitive) id))) (key : String) :
    gathered caseSensitive left key = gathered caseSensitive right key := by
  have names : (left.map fun field => normalize caseSensitive field.1).Perm
      (right.map fun field => normalize caseSensitive field.1) := by
    have firsts := perm.map Prod.fst
    rwa [List.map_map, List.map_map] at firsts
  by_cases stored : key ∈ left.map fun field => normalize caseSensitive field.1
  · rcases List.mem_map.mp stored with ⟨field, member, rfl⟩
    have again : (normalize caseSensitive field.1, field.2) ∈
        right.map (Prod.map (normalize caseSensitive) id) :=
      perm.mem_iff.mp (List.mem_map_of_mem member)
    rcases List.mem_map.mp again with ⟨other, otherMember, same⟩
    rcases Prod.mk.inj same with ⟨sameName, sameValues⟩
    have found := gathered_eq_some (names.nodup_iff.mp distinct) otherMember
    rw [sameName] at found
    rw [gathered_eq_some distinct member, found]
    exact congrArg some sameValues.symm
  · rw [gathered_eq_none stored, gathered_eq_none (mt names.mem_iff.mpr stored)]

end MultiMap
end SignedGateway
