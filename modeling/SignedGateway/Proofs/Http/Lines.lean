import SignedGateway.Http.Message
import SignedGateway.Proofs.MultiMap

namespace SignedGateway
namespace Http
namespace Fields

/-!
# The lines of a message

Header fields that come from lines are tidy: no name stands twice, all names are in lower case and
none is without a value.  One value more, or one value in the place of all others, keeps them so and
touches the lines of no other name.
-/

/-- No name stands twice, all are in lower case, and none is without a value. -/
structure Tidy (fields : Fields) : Prop where
  distinct : (fields.map Prod.fst).Nodup
  lower : ∀ name ∈ fields.map Prod.fst, Text.lower name = name
  filled : ∀ field ∈ fields, field.2 ≠ []

theorem tidy_nil : Tidy [] :=
  ⟨List.nodup_nil, fun _ member => absurd member List.not_mem_nil,
    fun _ member => absurd member List.not_mem_nil⟩

theorem Tidy.of_cons {field : String × List (List UInt8)} {rest : Fields}
    (tidy : Tidy (field :: rest)) :
    Tidy rest ∧ field.1 ∉ rest.map Prod.fst ∧ Text.lower field.1 = field.1 ∧ field.2 ≠ [] := by
  have distinct := List.nodup_cons.mp tidy.distinct
  have lower := List.forall_mem_cons.mp tidy.lower
  have filled := List.forall_mem_cons.mp tidy.filled
  exact ⟨⟨distinct.2, lower.2, filled.2⟩, distinct.1, lower.1, filled.1⟩

theorem Tidy.cons {field : String × List (List UInt8)} {rest : Fields} (tidy : Tidy rest)
    (new : field.1 ∉ rest.map Prod.fst) (lower : Text.lower field.1 = field.1)
    (filled : field.2 ≠ []) : Tidy (field :: rest) :=
  ⟨List.nodup_cons.mpr ⟨new, tidy.distinct⟩, List.forall_mem_cons.mpr ⟨lower, tidy.lower⟩,
    List.forall_mem_cons.mpr ⟨filled, tidy.filled⟩⟩

theorem Tidy.filter {fields : Fields} (tidy : Tidy fields)
    (keep : String × List (List UInt8) → Bool) : Tidy (fields.filter keep) := by
  have fewer : (fields.filter keep).Sublist fields := List.filter_sublist
  exact ⟨tidy.distinct.sublist (fewer.map _),
    fun name member => tidy.lower name ((fewer.map _).subset member),
    fun field member => tidy.filled field (fewer.subset member)⟩

variable {name : String} {change : List (List UInt8) → List (List UInt8)}
  {fresh : List (List UInt8)}

/-! ## Values of one name -/

theorem mem_names_upsert {fields : Fields} {other : String} :
    other ∈ (upsert name change fresh fields).map Prod.fst ↔
      other ∈ fields.map Prod.fst ∨ other = name := by
  induction fields with
  | nil => simp [upsert]
  | cons field rest inductionHypothesis =>
      rcases field with ⟨held, values⟩
      rw [upsert]
      split_ifs with same
      · rw [List.map_cons, List.map_cons, same, List.mem_cons]
        tauto
      · rw [List.map_cons, List.map_cons, List.mem_cons, List.mem_cons, inductionHypothesis,
          or_assoc]

/-- A change that leaves some value to its name keeps fields tidy. -/
theorem Tidy.upsert {fields : Fields} (tidy : Tidy fields) (lower : Text.lower name = name)
    (freshFilled : fresh ≠ []) (changeFilled : ∀ values, change values ≠ []) :
    Tidy (upsert name change fresh fields) := by
  induction fields with
  | nil => exact tidy_nil.cons List.not_mem_nil lower freshFilled
  | cons field rest inductionHypothesis =>
      rcases field with ⟨held, values⟩
      rcases tidy.of_cons with ⟨restTidy, new, heldLower, filled⟩
      rw [Fields.upsert]
      split_ifs with same
      · exact restTidy.cons new heldLower (changeFilled values)
      · refine (inductionHypothesis restTidy).cons ?_ heldLower filled
        exact fun member => (mem_names_upsert.mp member).elim new same

theorem Tidy.append {fields : Fields} (tidy : Tidy fields) (name : String) (value : List UInt8) :
    Tidy (append fields name value) :=
  tidy.upsert (Text.lower_lower name) (List.cons_ne_nil value []) fun _ => List.concat_ne_nil _ _

theorem Tidy.insert {fields : Fields} (tidy : Tidy fields) (name : String) (value : List UInt8) :
    Tidy (insert fields name value) :=
  tidy.upsert (Text.lower_lower name) (List.cons_ne_nil value []) fun _ => List.cons_ne_nil _ _

/-- Fields that were made from lines are tidy. -/
theorem tidy_of_fieldsOfPairs {lines : List (String × List UInt8)} {fields : Fields}
    (made : fieldsOfPairs lines = some fields) : Tidy fields := by
  unfold fieldsOfPairs at made
  dsimp only at made
  split_ifs at made
  cases made
  refine List.foldlRecOn lines _ tidy_nil ?_
  intro fields tidy line _
  exact tidy.append line.1 line.2

/-- A change of one name keeps the fields of all others, in their order. -/
theorem filter_upsert_of_dropped (keep : String → Bool) (dropped : keep name = false)
    (fields : Fields) :
    (upsert name change fresh fields).filter (fun field => keep field.1) =
      fields.filter fun field => keep field.1 := by
  induction fields with
  | nil => simp [upsert, dropped]
  | cons field rest inductionHypothesis =>
      rcases field with ⟨held, values⟩
      rw [upsert]
      split_ifs with same
      · rw [List.filter_cons, List.filter_cons]
        dsimp only
        rw [same, dropped]
        rfl
      · rw [List.filter_cons, List.filter_cons, inductionHypothesis]

theorem filter_eq_nil_of_not_mem {fields : Fields} (absent : name ∉ fields.map Prod.fst) :
    fields.filter (fun field => field.1 == name) = [] := by
  rw [List.filter_eq_nil_iff]
  intro field member same
  exact absent (List.mem_map.mpr ⟨field, member, beq_iff_eq.mp same⟩)

theorem filter_insert_of_dropped (keep : String → Bool) (lower : Text.lower name = name)
    (dropped : keep name = false) (fields : Fields) (value : List UInt8) :
    (insert fields name value).filter (fun field => keep field.1) =
      fields.filter fun field => keep field.1 := by
  rw [insert, lower]
  exact filter_upsert_of_dropped keep dropped fields

/-- A value in the place of all others of its name is the only one, however many there were. -/
theorem filter_insert_self {fields : Fields} (tidy : Tidy fields) (lower : Text.lower name = name)
    (value : List UInt8) :
    (insert fields name value).filter (fun field => field.1 == name) = [(name, [value])] := by
  rw [insert, lower]
  induction fields with
  | nil => simp [Fields.upsert]
  | cons field rest inductionHypothesis =>
      rcases field with ⟨held, values⟩
      rcases tidy.of_cons with ⟨restTidy, new, _, _⟩
      rw [Fields.upsert]
      split_ifs with same
      · subst same
        rw [List.filter_cons, filter_eq_nil_of_not_mem new]
        exact if_pos (beq_self_eq_true _)
      · rw [List.filter_cons, inductionHypothesis restTidy]
        exact if_neg (ne_true_of_eq_false (beq_eq_false_iff_ne.mpr same))

/-! ## Lines -/

/-- The lines of the fields with some names are the lines with these names. -/
theorem pairs_filter (keep : String → Bool) (fields : Fields) :
    pairs (fields.filter fun field => keep field.1) =
      (pairs fields).filter fun line => keep line.1 := by
  induction fields with
  | nil => rfl
  | cons field rest inductionHypothesis =>
      have unfolded (fields : Fields) :
          pairs (field :: fields) = field.2.map (fun value => (field.1, value)) ++ pairs fields :=
        List.flatMap_cons
      have here : (field.2.map fun value => (field.1, value)).filter (fun line => keep line.1) =
          if keep field.1 then field.2.map (fun value => (field.1, value)) else [] := by
        rw [List.filter_map]
        split_ifs with kept
        · exact congrArg _ (List.filter_eq_self.mpr fun _ _ => kept)
        · exact congrArg _ (List.filter_eq_nil_iff.mpr fun _ _ => kept)
      rw [unfolded, List.filter_append, here, ← inductionHypothesis, List.filter_cons]
      split_ifs
      · exact unfolded _
      · rfl

/-- What stands under a name is what its lines say. -/
theorem get_filter (keep : String → Bool) {name : String} (kept : keep (Text.lower name) = true)
    (fields : Fields) : get (fields.filter fun field => keep field.1) name = get fields name := by
  rw [get, MultiMap.lookup_filter_of_kept keep kept, get]

end Fields
end Http
end SignedGateway
