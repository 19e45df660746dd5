import SignedGateway.Proofs.MultiMap

namespace SignedGateway
namespace MultiMap

/-!
# The part of a map under some keys

A choice of keys cuts a part out of a map.  Cutting it out before a change and after
it comes to the same: a change under a key that is kept is made in the part as well,
and one under any other key leaves the part as it is.  Whatever looks only at kept
keys cannot tell the map from its part.

What stands under a single key is told for every change in the same way, also for maps
that hold a key without a value.  The choice that is made most is to leave out a few
names, all in lower case, which either comparison of keys takes as they are.
-/

/-- The part of a map whose keys are kept. -/
def restrict (keep : String → Bool) (map : MultiMap) : MultiMap :=
  { map with entries := map.entries.filter fun entry => keep entry.1 }

/-! ## Changes -/

theorem filter_upsert (keep : String → Bool) (key : String)
    (change : List String → List String) (fresh : List String)
    (entries : List (String × List String)) :
    (upsert key change fresh entries).filter (fun entry => keep entry.1) =
      if keep key then upsert key change fresh (entries.filter fun entry => keep entry.1)
      else entries.filter fun entry => keep entry.1 := by
  induction entries with
  | nil => cases kept : keep key <;> simp [upsert, kept]
  | cons entry rest inductionHypothesis =>
      rcases entry with ⟨name, values⟩
      rw [upsert]
      by_cases same : name = key
      · subst same
        cases kept : keep name <;> simp [upsert, kept]
      · rw [if_neg same, List.filter_cons, List.filter_cons, inductionHypothesis]
        cases keep key <;> cases keep name <;> simp [upsert, same]

theorem restrict_add (keep : String → Bool) (map : MultiMap) (key value : String) :
    (map.add key value).restrict keep =
      if keep (normalize map.caseSensitive key) then (map.restrict keep).add key value
      else map.restrict keep := by
  unfold restrict add addAll
  rw [filter_upsert]
  split <;> rfl

theorem restrict_put (keep : String → Bool) (map : MultiMap) (key value : String) :
    (map.put key value).restrict keep =
      if keep (normalize map.caseSensitive key) then (map.restrict keep).put key value
      else map.restrict keep := by
  unfold restrict put
  rw [filter_upsert]
  split <;> rfl

theorem restrict_addPairs (keep : String → Bool) (map : MultiMap)
    (pairs : List (String × String)) :
    (map.addPairs pairs).restrict keep =
      (map.restrict keep).addPairs
        (pairs.filter fun pair => keep (normalize map.caseSensitive pair.1)) := by
  induction pairs generalizing map with
  | nil => rfl
  | cons pair rest inductionHypothesis =>
      have later := inductionHypothesis (map.add pair.1 pair.2)
      change ((map.add pair.1 pair.2).addPairs rest).restrict keep = _
      rw [later, restrict_add, add_caseSensitive, List.filter_cons]
      cases keep (normalize map.caseSensitive pair.1) <;> rfl

/-- The part of a map that was made from pairs is made from the pairs that are kept. -/
theorem restrict_ofPairs (keep : String → Bool) (caseSensitive : Bool)
    (pairs : List (String × String)) :
    (ofPairs caseSensitive pairs).restrict keep =
      ofPairs caseSensitive (pairs.filter fun pair => keep (normalize caseSensitive pair.1)) :=
  restrict_addPairs keep (empty caseSensitive) pairs

/-! ## Looking at the part -/

theorem pairs_restrict (keep : String → Bool) (map : MultiMap) :
    (map.restrict keep).pairs = map.pairs.filter fun pair => keep pair.1 := by
  rcases map with ⟨caseSensitive, entries⟩
  induction entries with
  | nil => rfl
  | cons entry rest inductionHypothesis =>
      rw [pairs_cons, List.filter_append, ← inductionHypothesis, restrict, List.filter_cons,
        List.filter_map]
      cases kept : keep entry.1 with
      | true =>
          have all : ((fun pair => keep pair.1) ∘ fun value : String => (entry.1, value)) =
              fun _ => true := funext fun _ => kept
          rw [all, List.filter_true, if_pos rfl, pairs_cons]
          rfl
      | false =>
          have none : ((fun pair => keep pair.1) ∘ fun value : String => (entry.1, value)) =
              fun _ => false := funext fun _ => kept
          rw [none, List.filter_false]
          rfl

theorem keys_restrict (keep : String → Bool) (map : MultiMap) :
    (map.restrict keep).keys = map.keys.filter keep :=
  List.filter_map.symm

theorem lookup_restrict {keep : String → Bool} {key : String} (kept : keep key = true)
    (map : MultiMap) : (map.restrict keep).entries.lookup key = map.entries.lookup key :=
  lookup_filter_of_kept keep kept map.entries

section Kept

variable {keep : String → Bool} {map : MultiMap} {key : String}
  (kept : keep (normalize map.caseSensitive key) = true)

include kept

theorem find?_restrict : (map.restrict keep).find? key = map.find? key :=
  lookup_restrict kept map

theorem get_restrict : (map.restrict keep).get key = map.get key := by
  rw [get, find?_restrict kept, get]

theorem getFirst?_restrict : (map.restrict keep).getFirst? key = map.getFirst? key := by
  rw [getFirst?, get_restrict kept, getFirst?]

theorem contains_restrict : (map.restrict keep).contains key = map.contains key := by
  rw [contains, find?_restrict kept, contains]

end Kept

/-! ## The first pair -/

/-- A pair at the head stays there, whatever is added. -/
theorem head?_pairs_addPairs (caseSensitive : Bool) (name value : String) (values : List String)
    (rest : List (String × List String)) (added : List (String × String)) :
    ((MultiMap.mk caseSensitive ((name, value :: values) :: rest)).addPairs added).pairs.head? =
      some (name, value) := by
  induction added generalizing values rest with
  | nil => rfl
  | cons pair later inductionHypothesis =>
      change (((MultiMap.mk caseSensitive ((name, value :: values) :: rest)).add pair.1
        pair.2).addPairs later).pairs.head? = _
      unfold add addAll
      dsimp only
      rw [upsert]
      split_ifs
      · exact inductionHypothesis (values ++ [pair.2]) rest
      · exact inductionHypothesis values _

theorem head?_pairs_ofPairs (caseSensitive : Bool) (pairs : List (String × String)) :
    (ofPairs caseSensitive pairs).pairs.head? =
      pairs.head?.map fun pair => (normalize caseSensitive pair.1, pair.2) := by
  cases pairs with
  | nil => rfl
  | cons pair rest =>
      exact head?_pairs_addPairs caseSensitive (normalize caseSensitive pair.1) pair.2 [] [] rest

/-! ## What stands under a key -/

/-- The values of the pairs with a key are the values under that key. -/
theorem Keyed.valuesUnder_pairs {map : MultiMap} (keyed : map.Keyed) (key : String) :
    valuesUnder map.caseSensitive map.pairs key = (map.entries.lookup key).getD [] := by
  rcases map with ⟨caseSensitive, entries⟩
  induction entries with
  | nil => rfl
  | cons entry rest inductionHypothesis =>
      rcases entry with ⟨name, values⟩
      have distinct : name ∉ rest.map Prod.fst ∧ (rest.map Prod.fst).Nodup :=
        List.nodup_cons.mp keyed.distinct
      have normal : normalize caseSensitive name = name :=
        keyed.normalized name List.mem_cons_self
      have restKeyed : Keyed ⟨caseSensitive, rest⟩ :=
        ⟨distinct.2, fun other member => keyed.normalized other (List.mem_cons_of_mem name member)⟩
      have later := inductionHypothesis restKeyed
      dsimp only at later ⊢
      rw [pairs_cons, valuesUnder_append, later, List.lookup_cons]
      by_cases same : key = name
      · have absent : rest.lookup key = none :=
          lookup_eq_none_iff_not_mem.mpr (same ▸ distinct.1)
        rw [absent, same, valuesUnder_map normal, beq_self_eq_true]
        exact List.append_nil values
      · have none : valuesUnder caseSensitive (values.map fun value => (name, value)) key = [] := by
          apply valuesUnder_eq_nil
          intro pair member
          rcases List.mem_map.mp member with ⟨value, _, rfl⟩
          rw [normal]
          exact Ne.symm same
        rw [none, beq_eq_false_iff_ne.mpr same]
        rfl

theorem get_eq (map : MultiMap) (key : String) :
    map.get key = (map.entries.lookup (normalize map.caseSensitive key)).getD [] := rfl

/-- A map that is made from pairs holds under a key the values of its pairs. -/
theorem get_ofPairs (caseSensitive : Bool) (pairs : List (String × String)) (key : String) :
    (ofPairs caseSensitive pairs).get key =
      valuesUnder caseSensitive pairs (normalize caseSensitive key) := by
  rw [get_eq, ofPairs_caseSensitive, lookup_ofPairs]
  split_ifs with none
  · exact none.symm
  · rfl

/-- What is made from the pairs that are kept holds under a key what the map holds, if
the key is kept. -/
theorem Keyed.get_ofPairs_filter {map : MultiMap} (keyed : map.Keyed) (keep : String → Bool)
    (key : String) :
    (ofPairs map.caseSensitive (map.pairs.filter fun pair => keep pair.1)).get key =
      if keep (normalize map.caseSensitive key) then map.get key else [] := by
  rw [get_ofPairs, valuesUnder_filter map.caseSensitive keyed.normalized_pairs,
    keyed.valuesUnder_pairs, get_eq]

/-- Either comparison of keys takes a key in lower case as it is. -/
theorem normalize_of_lower (caseSensitive : Bool) {key : String} (lower : Text.lower key = key) :
    normalize caseSensitive key = key := by
  unfold normalize
  split_ifs
  · rfl
  · exact lower

theorem get_put (map : MultiMap) (key value other : String) :
    (map.put key value).get other =
      if normalize map.caseSensitive other = normalize map.caseSensitive key then [value]
      else map.get other := by
  split_ifs with same
  · have found := find?_put_self map key value
    rw [find?_eq, put_caseSensitive] at found
    rw [get_eq, put_caseSensitive, same, found]
    rfl
  · rw [get, find?_put_of_ne map same, get]

theorem get_put_of_lower (map : MultiMap) {key other : String} (lower : Text.lower key = key)
    (otherLower : Text.lower other = other) (value : String) :
    (map.put key value).get other = if other = key then [value] else map.get other := by
  rw [get_put, normalize_of_lower map.caseSensitive lower,
    normalize_of_lower map.caseSensitive otherLower]

theorem contains_put {map : MultiMap} {key : String} (held : map.contains key = true)
    (name value : String) : (map.put name value).contains key = true := by
  by_cases same : normalize map.caseSensitive key = normalize map.caseSensitive name
  · have found := find?_put_self map name value
    rw [find?_eq, put_caseSensitive] at found
    rw [contains, find?_eq, put_caseSensitive, same, found]
    rfl
  · rw [contains, find?_put_of_ne map same]
    exact held

theorem mem_keys_put {map : MultiMap} {key value name : String}
    (stored : name ∈ (map.put key value).keys) :
    name = normalize map.caseSensitive key ∨ name ∈ map.keys := by
  rw [keys, put, keys_upsert] at stored
  split_ifs at stored
  · exact Or.inr stored
  · rcases List.mem_append.mp stored with old | new
    · exact Or.inr old
    · exact Or.inl (List.mem_singleton.mp new)

theorem lookup_erase_self {key : String} {entries : List (String × List String)}
    (distinct : (entries.map Prod.fst).Nodup) : (erase key entries).lookup key = none := by
  rw [lookup_eq_none_iff_not_mem]
  induction entries with
  | nil => exact List.not_mem_nil
  | cons entry rest inductionHypothesis =>
      rcases entry with ⟨name, values⟩
      rw [List.map_cons, List.nodup_cons] at distinct
      rw [erase]
      split_ifs with same
      · exact same ▸ distinct.1
      · rw [List.map_cons, List.mem_cons, not_or]
        exact ⟨Ne.symm same, inductionHypothesis distinct.2⟩

theorem Keyed.get_remove {map : MultiMap} (keyed : map.Keyed) (key other : String) :
    (map.remove key).get other =
      if normalize map.caseSensitive other = normalize map.caseSensitive key then []
      else map.get other := by
  split_ifs with same
  · rw [get_eq, remove_caseSensitive, same]
    exact congrArg (Option.getD · []) (lookup_erase_self keyed.distinct)
  · rw [get, find?_remove_of_ne map same, get]

theorem Tidy.get_remove_of_lower {map : MultiMap} (tidy : map.Tidy) {key other : String}
    (lower : Text.lower key = key) (otherLower : Text.lower other = other) :
    (map.remove key).get other = if other = key then [] else map.get other := by
  rw [tidy.keyed.get_remove, normalize_of_lower map.caseSensitive lower,
    normalize_of_lower map.caseSensitive otherLower]

/-- The entries of a tidy map are the normal keys with their values, where there are any. -/
theorem Tidy.mem_entries_iff {map : MultiMap} (tidy : map.Tidy) {key : String}
    {values : List String} :
    (key, values) ∈ map.entries ↔
      normalize map.caseSensitive key = key ∧ values ≠ [] ∧ map.get key = values := by
  constructor
  · intro member
    have normal := tidy.normalized key (List.mem_map_of_mem member)
    refine ⟨normal, tidy.filled (key, values) member, ?_⟩
    rw [get_eq, normal, lookup_of_mem tidy.distinct member]
    rfl
  · rintro ⟨normal, filled, rfl⟩
    rw [get_eq, normal] at filled ⊢
    cases found : map.entries.lookup key with
    | none =>
        rw [found] at filled
        exact absurd rfl filled
    | some values =>
        rcases List.lookup_eq_some_iff.mp found with ⟨before, after, whole, _⟩
        rw [whole]
        exact List.mem_append_right before List.mem_cons_self

/-! ## Leaving out keys -/

/-- The map without some keys. -/
def without (names : List String) (map : MultiMap) : MultiMap :=
  map.restrict fun key => !names.contains key

section Without

variable {names : List String} (map : MultiMap)

theorem keeps_of_lower {key : String} (lower : Text.lower key = key) (free : key ∉ names) :
    (!names.contains (normalize map.caseSensitive key)) = true := by
  rw [normalize_of_lower map.caseSensitive lower, Bool.not_eq_true', ← Bool.not_eq_true,
    List.contains_iff_mem]
  exact free

theorem get_without {key : String} (lower : Text.lower key = key) (free : key ∉ names) :
    (map.without names).get key = map.get key :=
  get_restrict (map.keeps_of_lower lower free)

theorem getFirst?_without {key : String} (lower : Text.lower key = key) (free : key ∉ names) :
    (map.without names).getFirst? key = map.getFirst? key :=
  getFirst?_restrict (map.keeps_of_lower lower free)

theorem contains_without {key : String} (lower : Text.lower key = key) (free : key ∉ names) :
    (map.without names).contains key = map.contains key :=
  contains_restrict (map.keeps_of_lower lower free)

theorem put_without {key : String} (lower : Text.lower key = key) (free : key ∉ names)
    (value : String) : (map.put key value).without names = (map.without names).put key value := by
  rw [without, restrict_put, if_pos (map.keeps_of_lower lower free)]
  rfl

theorem put_without_of_mem {key : String} (lower : Text.lower key = key) (secret : key ∈ names)
    (value : String) : (map.put key value).without names = map.without names := by
  rw [without, restrict_put, normalize_of_lower map.caseSensitive lower,
    List.contains_iff_mem.mpr secret]
  rfl

/-- Where the keys are left out anyway, leaving them out first changes nothing. -/
theorem filter_pairs_without {dropped : List String} (covers : ∀ name ∈ names, name ∈ dropped) :
    ((map.without names).pairs.filter fun pair => !dropped.contains pair.1) =
      map.pairs.filter fun pair => !dropped.contains pair.1 := by
  rw [without, pairs_restrict, List.filter_filter]
  congr 1
  funext pair
  by_cases secret : pair.1 ∈ names
  · rw [List.contains_iff_mem.mpr (covers pair.1 secret)]
    rfl
  · rw [Bool.not_eq_true _ |>.mp (mt List.contains_iff_mem.mp secret), Bool.not_false,
      Bool.and_true]

/-- What holds of the keys that are left out need only be asked of the others. -/
theorem all_keys_without {holds : String → Bool} (spared : ∀ name ∈ names, holds name = true) :
    (map.without names).keys.all holds = map.keys.all holds := by
  rw [without, keys_restrict, List.all_filter]
  congr 1
  funext key
  by_cases secret : key ∈ names
  · rw [spared key secret, Bool.or_true]
  · rw [Bool.not_eq_true _ |>.mp (mt List.contains_iff_mem.mp secret)]
    rfl

end Without

end MultiMap
end SignedGateway
