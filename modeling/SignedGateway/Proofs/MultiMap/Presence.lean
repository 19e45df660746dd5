import SignedGateway.Proofs.MultiMap.History

namespace SignedGateway
namespace MultiMap

/-!
# Keys without a value

Whoever finds a value under a key also finds the key.  The converse holds but for one kind of
history.  A list of values may be empty, and adding it stores the key all the same.  A key that has
been given nothing but empty lists since it was last removed is therefore stored without a value:
it is among the keys, and no pair shows it.  One value makes up for that, and so does a removal.
-/

/-- The change stores its key and brings no value for it. -/
def Edit.bringsNothing : Edit → Bool
  | .addAll _ [] => true
  | _ => false

/-- The changes since the last removal, the latest first. -/
def sinceRemoval (history : List Edit) : List Edit :=
  history.reverse.takeWhile Edit.stores

/-- Since it was last removed, the key has been given empty lists and nothing else. -/
def Bare (caseSensitive : Bool) (history : List Edit) (key : String) : Prop :=
  sinceRemoval (history.filter (Edit.concerns caseSensitive key)) ≠ [] ∧
    ∀ edit ∈ sinceRemoval (history.filter (Edit.concerns caseSensitive key)),
      edit.bringsNothing = true

instance (caseSensitive : Bool) (history : List Edit) (key : String) :
    Decidable (Bare caseSensitive history key) :=
  inferInstanceAs (Decidable (_ ∧ _))

/-! ## What has happened since the last removal -/

theorem sinceRemoval_append_singleton (history : List Edit) (edit : Edit) :
    sinceRemoval (history ++ [edit]) =
      if edit.stores then edit :: sinceRemoval history else [] := by
  rw [sinceRemoval, List.reverse_concat, List.takeWhile_cons]
  rfl

theorem sinceRemoval_ne_nil_iff (history : List Edit) :
    sinceRemoval history ≠ [] ↔ history.getLast?.any Edit.stores = true := by
  induction history using List.reverseRecOn with
  | nil => decide
  | append_singleton history edit _ =>
      rw [sinceRemoval_append_singleton, List.getLast?_concat, Option.any_some]
      cases edit.stores <;> simp

/-- What a change leaves is empty if it brings nothing to nothing, or takes all away. -/
theorem Edit.revise_eq_nil_iff (edit : Edit) (values : List String) :
    edit.revise values = [] ↔
      edit.stores = false ∨ edit.bringsNothing = true ∧ values = [] := by
  cases edit with
  | add key value => simp [revise, stores, bringsNothing]
  | addAll key more =>
      cases more with
      | nil => simp [revise, stores, bringsNothing]
      | cons value others => simp [revise, stores, bringsNothing]
  | put key value => simp [revise, stores, bringsNothing]
  | remove key => simp [revise, stores]

theorem valuesAfter_append_singleton (history : List Edit) (edit : Edit) :
    valuesAfter (history ++ [edit]) = edit.revise (valuesAfter history) := by
  rw [valuesAfter, List.foldl_append]
  rfl

/-- No value is left exactly if none has been brought since the last removal. -/
theorem valuesAfter_eq_nil_iff (history : List Edit) :
    valuesAfter history = [] ↔ ∀ edit ∈ sinceRemoval history, edit.bringsNothing = true := by
  induction history using List.reverseRecOn with
  | nil => simp [valuesAfter, sinceRemoval]
  | append_singleton history edit inductionHypothesis =>
      rw [valuesAfter_append_singleton, Edit.revise_eq_nil_iff, inductionHypothesis,
        sinceRemoval_append_singleton]
      cases edit.stores <;> simp

/-! ## Stored keys and their values -/

section Presence

variable {map : MultiMap}

theorem contains_iff_mem_keys (key : String) :
    map.contains key = true ↔ normalize map.caseSensitive key ∈ map.keys := by
  rw [contains, find?_eq, Option.isSome_iff_ne_none, ne_eq, lookup_eq_none_iff_not_mem, not_not]
  rfl

theorem getFirst?_eq_none_iff (key : String) : map.getFirst? key = none ↔ map.get key = [] :=
  List.head?_eq_none_iff

/-- A pair shows a key exactly if a value is found under it. -/
theorem Keyed.exists_mem_pairs_iff (keyed : map.Keyed) {key : String}
    (normal : normalize map.caseSensitive key = key) :
    (∃ value, (key, value) ∈ map.pairs) ↔ map.get key ≠ [] := by
  constructor
  · rintro ⟨value, member⟩ empty
    rw [keyed.pairs_eq] at member
    rcases List.mem_flatMap.mp member with ⟨stored, _, isPair⟩
    rcases List.mem_map.mp isPair with ⟨other, found, same⟩
    rw [Prod.mk.injEq] at same
    rw [same.1, empty] at found
    exact List.not_mem_nil found
  · intro filled
    rcases List.exists_mem_of_ne_nil _ filled with ⟨value, found⟩
    refine ⟨value, ?_⟩
    rw [keyed.pairs_eq]
    exact List.mem_flatMap.mpr
      ⟨key, mem_keys_of_get normal filled, List.mem_map.mpr ⟨value, found, rfl⟩⟩

end Presence

theorem bare_iff (caseSensitive : Bool) (history : List Edit) (key : String) :
    Bare caseSensitive history key ↔
      normalize caseSensitive key ∈ (replay caseSensitive history).keys ∧
        (replay caseSensitive history).get key = [] := by
  rw [Bare, sinceRemoval_ne_nil_iff, ← valuesAfter_eq_nil_iff, mem_keys_replay, get_replay]
  rfl

/-- In every map that is made, whatever was kept and begun again in between, a key under which a
value is found is stored.  A stored key is without a value exactly if it has been given nothing but
empty lists since it was last removed; then no pair shows it, and otherwise one does. -/
theorem stored_without_value_iff (caseSensitive : Bool) (steps : List Step) :
    let map := (make caseSensitive steps).current
    let history := (recollect steps).current
    (∀ key value, map.getFirst? key = some value → map.contains key = true) ∧
      (∀ key, map.contains key = true ∧ map.getFirst? key = none ↔
        Bare caseSensitive history key) ∧
      ∀ key ∈ map.keys,
        (∃ value, (key, value) ∈ map.pairs) ↔ ¬ Bare caseSensitive history key := by
  intro map history
  have replayed : map = replay caseSensitive history :=
    congrArg Making.current (make_eq caseSensitive steps)
  have keyed : map.Keyed := replayed ▸ keyed_replay caseSensitive history
  have compares : map.caseSensitive = caseSensitive :=
    replayed ▸ replay_caseSensitive caseSensitive history
  have bare (key : String) : Bare caseSensitive history key ↔
      normalize caseSensitive key ∈ map.keys ∧ map.get key = [] :=
    replayed ▸ bare_iff caseSensitive history key
  refine ⟨fun key value first => contains_of_getFirst? first, fun key => ?_, fun key stored => ?_⟩
  · rw [contains_iff_mem_keys, getFirst?_eq_none_iff, compares, bare]
  · have normal := keyed.normalized key stored
    rw [keyed.exists_mem_pairs_iff normal, bare, ← compares, normal, and_iff_right stored]

/-- A key is emptied, taken up again with an empty list, and given a value in the end. -/
theorem stored_with_value_after_empty_list :
    let steps : List Step :=
      [.edit (.add "Host" "a"), .build, .edit (.remove "host"), .edit (.addAll "HOST" []),
        .edit (.add "host" "b")]
    let map := (make false steps).current
    map.contains "HOST" = true ∧ map.getFirst? "Host" ≠ none ∧ "host" ∈ map.keys ∧
      ∃ value, ("host", value) ∈ map.pairs := by
  intro steps map
  rcases stored_without_value_iff false steps with ⟨present, absent, shown⟩
  have filled : ¬ Bare false (recollect steps).current "Host" := by
    decide
  have stored : map.contains "Host" = true := by
    decide +kernel
  have found : map.getFirst? "Host" ≠ none := fun none => filled ((absent "Host").mp ⟨stored, none⟩)
  have isKey : "host" ∈ map.keys := (contains_iff_mem_keys "Host").mp stored
  exact ⟨stored, found, isKey, (shown "host" isKey).mpr filled⟩

/-- An empty list of values stores its key. -/
theorem stored_without_value_of_empty_list :
    let map := (make false [.edit (.addAll "Host" [])]).current
    map.contains "host" = true ∧ map.getFirst? "host" = none ∧ map.keys = ["host"] ∧
      map.pairs = [] := by
  decide +kernel

end MultiMap
end SignedGateway
