import Mathlib.Data.List.Nodup
import SignedGateway.MultiMap
import SignedGateway.Proofs.Text.Ascii

namespace SignedGateway
namespace MultiMap

/-!
# What a map holds

A map is known by what is stored under each key.  Every change of a map is
described through that view, and a map that is made from pairs stores under a key
the values of the pairs with that key, in their order.  Such a map is tidy: its
keys are distinct and in the form in which they are looked up, and none is without
a value.  A tidy map is made again from its own pairs.
-/

/-! ## Entries -/

theorem lookup_upsert_self (key : String) (change : List String → List String)
    (fresh : List String) (entries : List (String × List String)) :
    (upsert key change fresh entries).lookup key =
      some ((entries.lookup key).elim fresh change) := by
  induction entries with
  | nil => simp [upsert]
  | cons entry rest inductionHypothesis =>
      rcases entry with ⟨name, values⟩
      rw [upsert]
      by_cases same : name = key
      · rw [if_pos same, same, List.lookup_cons_self, List.lookup_cons_self]
        rfl
      · rw [if_neg same, List.lookup_cons, List.lookup_cons, beq_eq_false_iff_ne.mpr (Ne.symm same)]
        exact inductionHypothesis

theorem lookup_upsert_of_ne {key other : String} (different : other ≠ key)
    (change : List String → List String) (fresh : List String)
    (entries : List (String × List String)) :
    (upsert key change fresh entries).lookup other = entries.lookup other := by
  induction entries with
  | nil => rw [upsert, List.lookup_cons, beq_eq_false_iff_ne.mpr different]
  | cons entry rest inductionHypothesis =>
      rcases entry with ⟨name, values⟩
      rw [upsert]
      by_cases same : name = key
      · rw [if_pos same, same, List.lookup_cons, List.lookup_cons,
          beq_eq_false_iff_ne.mpr different]
      · rw [if_neg same, List.lookup_cons, List.lookup_cons, inductionHypothesis]

/-- A key that is already stored keeps its place, and any other one goes to the end. -/
theorem keys_upsert (key : String) (change : List String → List String) (fresh : List String)
    (entries : List (String × List String)) :
    (upsert key change fresh entries).map Prod.fst =
      if key ∈ entries.map Prod.fst then entries.map Prod.fst else entries.map Prod.fst ++ [key] := by
  induction entries with
  | nil => rfl
  | cons entry rest inductionHypothesis =>
      rcases entry with ⟨name, values⟩
      rw [upsert]
      by_cases same : name = key
      · simp [same]
      · rw [if_neg same, List.map_cons, inductionHypothesis, List.map_cons]
        by_cases stored : key ∈ rest.map Prod.fst
        · rw [if_pos stored, if_pos (List.mem_cons_of_mem name stored)]
        · have absent : key ∉ name :: rest.map Prod.fst :=
            mt List.mem_cons.mp (not_or.mpr ⟨Ne.symm same, stored⟩)
          rw [if_neg stored, if_neg absent]
          rfl

theorem upsert_of_not_mem {key : String} {entries : List (String × List String)}
    (absent : key ∉ entries.map Prod.fst) (change : List String → List String)
    (fresh : List String) : upsert key change fresh entries = entries ++ [(key, fresh)] := by
  induction entries with
  | nil => rfl
  | cons entry rest inductionHypothesis =>
      rcases entry with ⟨name, values⟩
      rw [List.map_cons, List.mem_cons, not_or] at absent
      rw [upsert, if_neg (Ne.symm absent.1), inductionHypothesis absent.2, List.cons_append]

theorem mem_upsert {key : String} {change : List String → List String} {fresh : List String}
    {entries : List (String × List String)} {entry : String × List String}
    (member : entry ∈ upsert key change fresh entries) :
    entry ∈ entries ∨ entry = (key, fresh) ∨ ∃ values, (key, values) ∈ entries ∧
      entry = (key, change values) := by
  induction entries with
  | nil => exact Or.inr (Or.inl (List.mem_singleton.mp member))
  | cons head rest inductionHypothesis =>
      rcases head with ⟨name, values⟩
      rw [upsert] at member
      by_cases same : name = key
      · rw [if_pos same] at member
        rcases List.mem_cons.mp member with changed | old
        · subst same
          exact Or.inr (Or.inr ⟨values, List.mem_cons_self, changed⟩)
        · exact Or.inl (List.mem_cons_of_mem _ old)
      · rw [if_neg same] at member
        rcases List.mem_cons.mp member with kept | later
        · rw [kept]
          exact Or.inl List.mem_cons_self
        · rcases inductionHypothesis later with old | new | ⟨held, stored, changed⟩
          · exact Or.inl (List.mem_cons_of_mem _ old)
          · exact Or.inr (Or.inl new)
          · exact Or.inr (Or.inr ⟨held, List.mem_cons_of_mem _ stored, changed⟩)

theorem erase_sublist (key : String) (entries : List (String × List String)) :
    (erase key entries).Sublist entries := by
  induction entries with
  | nil => exact List.Sublist.slnil
  | cons entry rest inductionHypothesis =>
      rcases entry with ⟨name, values⟩
      rw [erase]
      split
      · exact List.sublist_cons_self _ rest
      · exact inductionHypothesis.cons_cons _

theorem lookup_erase_of_ne {key other : String} (different : other ≠ key)
    (entries : List (String × List String)) :
    (erase key entries).lookup other = entries.lookup other := by
  induction entries with
  | nil => rfl
  | cons entry rest inductionHypothesis =>
      rcases entry with ⟨name, values⟩
      rw [erase]
      by_cases same : name = key
      · rw [if_pos same, same, List.lookup_cons, beq_eq_false_iff_ne.mpr different]
      · rw [if_neg same, List.lookup_cons, List.lookup_cons, inductionHypothesis]

theorem lookup_eq_none_iff_not_mem {α : Type} {key : String} {entries : List (String × α)} :
    entries.lookup key = none ↔ key ∉ entries.map Prod.fst := by
  rw [List.lookup_eq_none_iff, List.mem_map]
  constructor
  · rintro different ⟨entry, member, rfl⟩
    exact absurd (different entry member) (by simp)
  · intro absent entry member
    apply bne_iff_ne.mpr
    rintro rfl
    exact absent ⟨entry, member, rfl⟩

/-- Where no key stands twice, what stands under a key is found. -/
theorem lookup_of_mem {α : Type} {entries : List (String × α)}
    (distinct : (entries.map Prod.fst).Nodup) {key : String} {value : α}
    (member : (key, value) ∈ entries) : entries.lookup key = some value := by
  rcases List.append_of_mem member with ⟨before, after, rfl⟩
  rw [List.lookup_eq_some_iff]
  refine ⟨before, after, rfl, fun entry early => bne_iff_ne.mpr ?_⟩
  rintro rfl
  rw [List.map_append, List.map_cons, List.nodup_append] at distinct
  exact distinct.2.2 entry.1 (List.mem_map_of_mem early) entry.1 List.mem_cons_self rfl

/-- A key that is kept is found among what is kept as it is found among all. -/
theorem lookup_filter_of_kept {α : Type} (keep : String → Bool) {key : String}
    (kept : keep key = true) (entries : List (String × α)) :
    (entries.filter fun entry => keep entry.1).lookup key = entries.lookup key := by
  induction entries with
  | nil => rfl
  | cons entry rest inductionHypothesis =>
      rcases entry with ⟨name, value⟩
      rw [List.filter_cons, List.lookup_cons]
      by_cases same : key = name
      · subst same
        rw [if_pos kept, List.lookup_cons_self, beq_self_eq_true]
      · rw [beq_eq_false_iff_ne.mpr same, ← inductionHypothesis]
        split
        · rw [List.lookup_cons, beq_eq_false_iff_ne.mpr same]
        · rfl

/-! ## Tidy maps -/

/-- Keys are distinct and normalized, and none is without a value. -/
structure Tidy (map : MultiMap) : Prop where
  distinct : map.keys.Nodup
  normalized : ∀ key ∈ map.keys, normalize map.caseSensitive key = key
  filled : ∀ entry ∈ map.entries, entry.2 ≠ []

/-- Keys are distinct and in the form in which they are looked up.  Some may be without
a value. -/
structure Keyed (map : MultiMap) : Prop where
  distinct : map.keys.Nodup
  normalized : ∀ key ∈ map.keys, normalize map.caseSensitive key = key

theorem Tidy.keyed {map : MultiMap} (tidy : map.Tidy) : map.Keyed :=
  ⟨tidy.distinct, tidy.normalized⟩

theorem normalize_idempotent (caseSensitive : Bool) (key : String) :
    normalize caseSensitive (normalize caseSensitive key) = normalize caseSensitive key := by
  cases caseSensitive with
  | true => rfl
  | false => exact Text.lower_lower key

theorem tidy_empty (caseSensitive : Bool) : Tidy (empty caseSensitive) :=
  ⟨List.nodup_nil, fun _ member => absurd member List.not_mem_nil,
    fun _ member => absurd member List.not_mem_nil⟩

/-- Whatever is stored under a key, keys stay distinct and normalized. -/
theorem Keyed.upsert {map : MultiMap} (keyed : map.Keyed) (key : String)
    (change : List String → List String) (fresh : List String) :
    Keyed { map with
      entries := MultiMap.upsert (normalize map.caseSensitive key) change fresh map.entries } := by
  refine ⟨?_, ?_⟩
  · unfold keys
    rw [keys_upsert]
    split_ifs with stored
    · exact keyed.distinct
    · exact List.nodup_append.mpr ⟨keyed.distinct, List.nodup_singleton _, by
        intro old oldMember new newMember
        rw [List.mem_singleton] at newMember
        rintro rfl
        exact stored (newMember ▸ oldMember)⟩
  · intro stored member
    unfold keys at member
    rw [keys_upsert] at member
    split_ifs at member with known
    · exact keyed.normalized stored member
    · rcases List.mem_append.mp member with old | new
      · exact keyed.normalized stored old
      · rw [List.mem_singleton.mp new]
        exact normalize_idempotent map.caseSensitive key

theorem Keyed.remove {map : MultiMap} (keyed : map.Keyed) (key : String) :
    (map.remove key).Keyed := by
  have shorter := (erase_sublist (normalize map.caseSensitive key) map.entries).map Prod.fst
  exact ⟨keyed.distinct.sublist shorter,
    fun stored member => keyed.normalized stored (shorter.subset member)⟩

/-- A change that leaves some value under its key leaves the map tidy. -/
theorem Tidy.upsert {map : MultiMap} (tidy : map.Tidy) (key : String)
    {change : List String → List String} {fresh : List String} (freshFilled : fresh ≠ [])
    (changeFilled : ∀ values, change values ≠ []) :
    Tidy { map with
      entries := MultiMap.upsert (normalize map.caseSensitive key) change fresh map.entries } := by
  have keyed := tidy.keyed.upsert key change fresh
  refine ⟨keyed.distinct, keyed.normalized, ?_⟩
  intro entry member
  rcases mem_upsert member with old | new | ⟨values, _, changed⟩
  · exact tidy.filled entry old
  · rw [new]
    exact freshFilled
  · rw [changed]
    exact changeFilled values

theorem Tidy.add {map : MultiMap} (tidy : map.Tidy) (key value : String) : (map.add key value).Tidy :=
  tidy.upsert key (List.cons_ne_nil value []) fun values => by simp

theorem Tidy.put {map : MultiMap} (tidy : map.Tidy) (key value : String) : (map.put key value).Tidy :=
  tidy.upsert key (List.cons_ne_nil value []) fun _ => List.cons_ne_nil value []

theorem Tidy.remove {map : MultiMap} (tidy : map.Tidy) (key : String) : (map.remove key).Tidy := by
  have keyed := tidy.keyed.remove key
  refine ⟨keyed.distinct, keyed.normalized, ?_⟩
  intro entry member
  exact tidy.filled entry ((erase_sublist (normalize map.caseSensitive key) map.entries).subset member)

/-! ## Maps made from pairs -/

/-- The values of the pairs whose key has a given normal form. -/
def valuesUnder (caseSensitive : Bool) (pairs : List (String × String)) (key : String) :
    List String :=
  (pairs.filter fun pair => normalize caseSensitive pair.1 == key).map Prod.snd

/-- The map after the pairs have been added in turn. -/
def addPairs (map : MultiMap) (pairs : List (String × String)) : MultiMap :=
  pairs.foldl (fun map pair => map.add pair.1 pair.2) map

@[simp]
theorem add_caseSensitive (map : MultiMap) (key value : String) :
    (map.add key value).caseSensitive = map.caseSensitive := rfl

@[simp]
theorem addPairs_caseSensitive (map : MultiMap) (pairs : List (String × String)) :
    (map.addPairs pairs).caseSensitive = map.caseSensitive := by
  induction pairs generalizing map with
  | nil => rfl
  | cons pair rest inductionHypothesis => exact inductionHypothesis (map.add pair.1 pair.2)

@[simp]
theorem ofPairs_caseSensitive (caseSensitive : Bool) (pairs : List (String × String)) :
    (ofPairs caseSensitive pairs).caseSensitive = caseSensitive :=
  addPairs_caseSensitive (empty caseSensitive) pairs

theorem Tidy.addPairs {map : MultiMap} (tidy : map.Tidy) (pairs : List (String × String)) :
    (map.addPairs pairs).Tidy := by
  induction pairs generalizing map with
  | nil => exact tidy
  | cons pair rest inductionHypothesis => exact inductionHypothesis (tidy.add pair.1 pair.2)

theorem tidy_ofPairs (caseSensitive : Bool) (pairs : List (String × String)) :
    (ofPairs caseSensitive pairs).Tidy :=
  (tidy_empty caseSensitive).addPairs pairs

/-- Added pairs put their values after those that are stored under their keys. -/
theorem lookup_addPairs (map : MultiMap) (pairs : List (String × String)) (key : String) :
    (map.addPairs pairs).entries.lookup key =
      if valuesUnder map.caseSensitive pairs key = [] then map.entries.lookup key
      else some ((map.entries.lookup key).getD [] ++ valuesUnder map.caseSensitive pairs key) := by
  induction pairs generalizing map with
  | nil => rfl
  | cons pair rest inductionHypothesis =>
      have step := inductionHypothesis (map.add pair.1 pair.2)
      change ((map.add pair.1 pair.2).addPairs rest).entries.lookup key = _
      rw [step, add_caseSensitive]
      by_cases same : normalize map.caseSensitive pair.1 = key
      · have stored : (map.add pair.1 pair.2).entries.lookup key =
            some ((map.entries.lookup key).getD [] ++ [pair.2]) := by
          change (MultiMap.upsert (normalize map.caseSensitive pair.1) _ _ map.entries).lookup key = _
          rw [same, lookup_upsert_self]
          cases map.entries.lookup key <;> rfl
        have values : valuesUnder map.caseSensitive (pair :: rest) key =
            pair.2 :: valuesUnder map.caseSensitive rest key := by
          rw [valuesUnder, List.filter_cons_of_pos (by simpa using same)]
          rfl
        rw [stored, values, if_neg (List.cons_ne_nil _ _), Option.getD_some, List.append_assoc,
          List.singleton_append]
        split_ifs with none
        · rw [none]
        · rfl
      · have stored : (map.add pair.1 pair.2).entries.lookup key = map.entries.lookup key :=
          lookup_upsert_of_ne (Ne.symm same) _ _ map.entries
        have values : valuesUnder map.caseSensitive (pair :: rest) key =
            valuesUnder map.caseSensitive rest key := by
          rw [valuesUnder, List.filter_cons_of_neg (by simpa using same)]
          rfl
        rw [stored, values]

/-- A map made from pairs holds under a key the values of the pairs with that key. -/
theorem lookup_ofPairs (caseSensitive : Bool) (pairs : List (String × String)) (key : String) :
    (ofPairs caseSensitive pairs).entries.lookup key =
      if valuesUnder caseSensitive pairs key = [] then none
      else some (valuesUnder caseSensitive pairs key) :=
  lookup_addPairs (empty caseSensitive) pairs key

/-! ## Pairs of a map -/

theorem pairs_cons (caseSensitive : Bool) (entry : String × List String)
    (rest : List (String × List String)) :
    pairs ⟨caseSensitive, entry :: rest⟩ =
      entry.2.map (fun value => (entry.1, value)) ++ pairs ⟨caseSensitive, rest⟩ :=
  List.flatMap_cons

theorem add_last {caseSensitive : Bool} {entries : List (String × List String)} {key : String}
    (normal : normalize caseSensitive key = key) (absent : key ∉ entries.map Prod.fst)
    (values : List String) (value : String) :
    (MultiMap.mk caseSensitive (entries ++ [(key, values)])).add key value =
      ⟨caseSensitive, entries ++ [(key, values ++ [value])]⟩ := by
  change MultiMap.mk caseSensitive
    (MultiMap.upsert (normalize caseSensitive key) _ _ (entries ++ [(key, values)])) = _
  rw [normal]
  congr 1
  induction entries with
  | nil => rw [List.nil_append, MultiMap.upsert, if_pos rfl]; rfl
  | cons entry rest inductionHypothesis =>
      rcases entry with ⟨name, held⟩
      rw [List.map_cons, List.mem_cons, not_or] at absent
      rw [List.cons_append, MultiMap.upsert, if_neg (Ne.symm absent.1), inductionHypothesis absent.2,
        List.cons_append]

theorem addPairs_last {caseSensitive : Bool} {entries : List (String × List String)} {key : String}
    (normal : normalize caseSensitive key = key) (absent : key ∉ entries.map Prod.fst)
    (values more : List String) :
    (MultiMap.mk caseSensitive (entries ++ [(key, values)])).addPairs
        (more.map fun value => (key, value)) =
      ⟨caseSensitive, entries ++ [(key, values ++ more)]⟩ := by
  induction more generalizing values with
  | nil => rw [List.append_nil]; rfl
  | cons value rest inductionHypothesis =>
      change ((MultiMap.mk caseSensitive (entries ++ [(key, values)])).add key value).addPairs _ = _
      rw [add_last normal absent, inductionHypothesis, List.append_assoc, List.singleton_append]

/-- Adding all pairs of an entry stores the entry. -/
theorem addPairs_entry {caseSensitive : Bool} {entries : List (String × List String)} {key : String}
    (normal : normalize caseSensitive key = key) (absent : key ∉ entries.map Prod.fst)
    {values : List String} (filled : values ≠ []) :
    (MultiMap.mk caseSensitive entries).addPairs (values.map fun value => (key, value)) =
      ⟨caseSensitive, entries ++ [(key, values)]⟩ := by
  cases values with
  | nil => exact absurd rfl filled
  | cons value rest =>
      have first : (MultiMap.mk caseSensitive entries).add key value =
          ⟨caseSensitive, entries ++ [(key, [value])]⟩ := by
        change MultiMap.mk caseSensitive
          (MultiMap.upsert (normalize caseSensitive key) _ _ entries) = _
        rw [normal, upsert_of_not_mem absent]
      change ((MultiMap.mk caseSensitive entries).add key value).addPairs _ = _
      rw [first, addPairs_last normal absent]
      rfl

/-- A tidy map is made again from its own pairs. -/
theorem Tidy.ofPairs_pairs {map : MultiMap} (tidy : map.Tidy) :
    ofPairs map.caseSensitive map.pairs = map := by
  rcases map with ⟨caseSensitive, entries⟩
  -- The entries that have been gone through are stored; each further one is new to them.
  have whole : ∀ (later earlier : List (String × List String)),
      Tidy ⟨caseSensitive, earlier ++ later⟩ →
        (MultiMap.mk caseSensitive earlier).addPairs (pairs ⟨caseSensitive, later⟩) =
          ⟨caseSensitive, earlier ++ later⟩ := by
    intro later
    induction later with
    | nil =>
        intro earlier _
        rw [List.append_nil]
        rfl
    | cons entry rest inductionHypothesis =>
        intro earlier tidy
        have member : entry ∈ earlier ++ entry :: rest :=
          List.mem_append_right earlier List.mem_cons_self
        have normal := tidy.normalized entry.1 (List.mem_map_of_mem member)
        have absent : entry.1 ∉ earlier.map Prod.fst := by
          have distinct := tidy.distinct
          change ((earlier ++ entry :: rest).map Prod.fst).Nodup at distinct
          rw [List.map_append, List.map_cons, List.nodup_append] at distinct
          intro early
          exact distinct.2.2 entry.1 early entry.1 List.mem_cons_self rfl
        rw [pairs_cons, MultiMap.addPairs, List.foldl_append]
        change ((MultiMap.mk caseSensitive earlier).addPairs
          (entry.2.map fun value => (entry.1, value))).addPairs _ = _
        rw [addPairs_entry normal absent (tidy.filled entry member)]
        have more := inductionHypothesis (earlier ++ [entry]) (by simpa using tidy)
        rw [more, List.append_assoc, List.singleton_append]
  exact whole entries [] tidy

/-- A changed map holds one pair more. -/
theorem perm_pairs_add (map : MultiMap) (key value : String) :
    (map.add key value).pairs.Perm ((normalize map.caseSensitive key, value) :: map.pairs) := by
  rcases map with ⟨caseSensitive, entries⟩
  change (pairs ⟨caseSensitive,
    MultiMap.upsert (normalize caseSensitive key) (· ++ [value]) [value] entries⟩).Perm _
  generalize normalize caseSensitive key = normal
  induction entries with
  | nil => exact List.Perm.refl _
  | cons entry rest inductionHypothesis =>
      rcases entry with ⟨name, values⟩
      rw [MultiMap.upsert]
      by_cases same : name = normal
      · rw [if_pos same, pairs_cons, pairs_cons, List.map_append, same]
        exact (List.perm_append_singleton _ _).append_right _
      · rw [if_neg same, pairs_cons, pairs_cons]
        exact (inductionHypothesis.append_left _).trans List.perm_middle

theorem perm_pairs_addPairs (map : MultiMap) (added : List (String × String)) :
    (map.addPairs added).pairs.Perm
      (map.pairs ++ added.map fun pair => (normalize map.caseSensitive pair.1, pair.2)) := by
  induction added generalizing map with
  | nil =>
      rw [List.map_nil, List.append_nil]
      exact List.Perm.refl _
  | cons pair rest inductionHypothesis =>
      have later := inductionHypothesis (map.add pair.1 pair.2)
      rw [add_caseSensitive] at later
      rw [List.map_cons]
      exact later.trans
        (((perm_pairs_add map pair.1 pair.2).append_right _).trans List.perm_middle.symm)

/-- A map that is made from pairs holds these pairs, in some order. -/
theorem perm_pairs_ofPairs (caseSensitive : Bool) (added : List (String × String)) :
    (ofPairs caseSensitive added).pairs.Perm
      (added.map fun pair => (normalize caseSensitive pair.1, pair.2)) :=
  perm_pairs_addPairs (empty caseSensitive) added

/-- Where the case of a key counts, the pairs are stored as they are. -/
theorem perm_pairs_ofPairs_of_sensitive (added : List (String × String)) :
    (ofPairs true added).pairs.Perm added := by
  have stored := perm_pairs_ofPairs true added
  have same : (fun pair : String × String => (normalize true pair.1, pair.2)) = id := rfl
  rwa [same, List.map_id] at stored

/-! ## Looking up -/

theorem Tidy.lookup_eq {map : MultiMap} (tidy : map.Tidy) (key : String) :
    map.entries.lookup key =
      if valuesUnder map.caseSensitive map.pairs key = [] then none
      else some (valuesUnder map.caseSensitive map.pairs key) := by
  have stored := lookup_ofPairs map.caseSensitive map.pairs key
  rwa [tidy.ofPairs_pairs] at stored

theorem valuesUnder_filter (caseSensitive : Bool) {pairs : List (String × String)}
    {keep : String → Bool} {key : String}
    (normalized : ∀ pair ∈ pairs, normalize caseSensitive pair.1 = pair.1) :
    valuesUnder caseSensitive (pairs.filter fun pair => keep pair.1) key =
      if keep key then valuesUnder caseSensitive pairs key else [] := by
  unfold valuesUnder
  rw [List.filter_filter]
  by_cases kept : keep key = true
  · rw [if_pos kept]
    congr 1
    apply List.filter_congr
    intro pair member
    rw [normalized pair member]
    by_cases same : pair.1 = key
    · rw [same, kept, Bool.and_true]
    · rw [beq_eq_false_iff_ne.mpr same, Bool.false_and]
  · rw [if_neg kept, List.map_eq_nil_iff, List.filter_eq_nil_iff]
    intro pair member
    rw [normalized pair member, Bool.and_eq_true, beq_iff_eq]
    rintro ⟨rfl, keeps⟩
    exact kept keeps

theorem Keyed.normalized_pairs {map : MultiMap} (keyed : map.Keyed) :
    ∀ pair ∈ map.pairs, normalize map.caseSensitive pair.1 = pair.1 := by
  intro pair member
  rcases List.mem_flatMap.mp member with ⟨entry, isEntry, inEntry⟩
  rcases List.mem_map.mp inEntry with ⟨value, _, rfl⟩
  exact keyed.normalized entry.1 (List.mem_map_of_mem isEntry)

/-- Of a tidy map the kept keys hold what they held, and the others are gone. -/
theorem Tidy.lookup_filter {map : MultiMap} (tidy : map.Tidy) (keep : String → Bool)
    (key : String) :
    (ofPairs map.caseSensitive (map.pairs.filter fun pair => keep pair.1)).entries.lookup key =
      if keep key then map.entries.lookup key else none := by
  rw [lookup_ofPairs, valuesUnder_filter map.caseSensitive tidy.keyed.normalized_pairs,
    tidy.lookup_eq]
  by_cases kept : keep key = true
  · rw [if_pos kept, if_pos kept]
  · rw [if_neg kept, if_neg kept, if_pos rfl]

theorem find?_eq (map : MultiMap) (key : String) :
    map.find? key = map.entries.lookup (normalize map.caseSensitive key) := rfl

theorem find?_put_self (map : MultiMap) (key value : String) :
    (map.put key value).find? key = some [value] := by
  rw [find?_eq, put_caseSensitive]
  change (MultiMap.upsert _ _ _ map.entries).lookup _ = _
  rw [lookup_upsert_self]
  cases map.entries.lookup (normalize map.caseSensitive key) <;> rfl

theorem find?_put_of_ne (map : MultiMap) {key other : String}
    (different : normalize map.caseSensitive other ≠ normalize map.caseSensitive key)
    (value : String) : (map.put key value).find? other = map.find? other :=
  lookup_upsert_of_ne different _ _ map.entries

theorem getFirst?_put_self (map : MultiMap) (key value : String) :
    (map.put key value).getFirst? key = some value := by
  rw [getFirst?, get, find?_put_self]
  rfl

theorem getFirst?_put_of_ne {map : MultiMap} (insensitive : map.caseSensitive = false)
    {key other : String} (different : Text.lower other ≠ Text.lower key) (value : String) :
    (map.put key value).getFirst? other = map.getFirst? other := by
  have distinct : normalize map.caseSensitive other ≠ normalize map.caseSensitive key := by
    rw [insensitive]
    exact different
  rw [getFirst?, get, find?_put_of_ne map distinct]
  rfl

theorem contains_of_getFirst? {map : MultiMap} {key value : String}
    (first : map.getFirst? key = some value) : map.contains key = true := by
  rw [getFirst?, get] at first
  rw [contains]
  cases stored : map.find? key with
  | none =>
      rw [stored] at first
      cases first
  | some values => rfl

theorem find?_remove_of_ne (map : MultiMap) {key other : String}
    (different : normalize map.caseSensitive other ≠ normalize map.caseSensitive key) :
    (map.remove key).find? other = map.find? other :=
  lookup_erase_of_ne different map.entries

theorem mem_keys_iff {map : MultiMap} {key : String}
    (normal : normalize map.caseSensitive key = key) :
    key ∈ map.keys ↔ map.find? key ≠ none := by
  rw [find?_eq, normal, ne_eq, lookup_eq_none_iff_not_mem, not_not]
  rfl

theorem mem_keys_of_get {map : MultiMap} {key : String}
    (normal : normalize map.caseSensitive key = key) (filled : map.get key ≠ []) :
    key ∈ map.keys := by
  rw [mem_keys_iff normal]
  intro absent
  rw [get, absent] at filled
  exact filled rfl

/-- A key of a tidy map has some value. -/
theorem Tidy.get_ne_nil {map : MultiMap} (tidy : map.Tidy) {key : String} (stored : key ∈ map.keys) :
    map.get key ≠ [] := by
  have normal := tidy.normalized key stored
  have found := (mem_keys_iff normal).mp stored
  rw [find?_eq, normal, tidy.lookup_eq] at found
  rw [get, find?_eq, normal, tidy.lookup_eq]
  split_ifs at found ⊢ with empty
  · exact absurd rfl found
  · exact empty

theorem mem_keys_of_mem_pairs {map : MultiMap} {pair : String × String} (member : pair ∈ map.pairs) :
    pair.1 ∈ map.keys := by
  rcases List.mem_flatMap.mp member with ⟨entry, isEntry, inEntry⟩
  rcases List.mem_map.mp inEntry with ⟨value, _, rfl⟩
  exact List.mem_map_of_mem isEntry

theorem Tidy.exists_mem_pairs {map : MultiMap} (tidy : map.Tidy) {key : String}
    (stored : key ∈ map.keys) : ∃ value, (key, value) ∈ map.pairs := by
  rcases List.mem_map.mp stored with ⟨entry, isEntry, rfl⟩
  rcases List.exists_mem_of_ne_nil _ (tidy.filled entry isEntry) with ⟨value, isValue⟩
  exact ⟨value, List.mem_flatMap.mpr ⟨entry, isEntry, List.mem_map_of_mem isValue⟩⟩

theorem valuesUnder_append (caseSensitive : Bool) (before after : List (String × String))
    (key : String) :
    valuesUnder caseSensitive (before ++ after) key =
      valuesUnder caseSensitive before key ++ valuesUnder caseSensitive after key := by
  rw [valuesUnder, List.filter_append, List.map_append]
  rfl

theorem valuesUnder_eq_nil {caseSensitive : Bool} {pairs : List (String × String)} {key : String}
    (absent : ∀ pair ∈ pairs, normalize caseSensitive pair.1 ≠ key) :
    valuesUnder caseSensitive pairs key = [] := by
  rw [valuesUnder, List.map_eq_nil_iff, List.filter_eq_nil_iff]
  intro pair member
  exact mt beq_iff_eq.mp (absent pair member)

theorem valuesUnder_map {caseSensitive : Bool} {key : String}
    (normal : normalize caseSensitive key = key) (values : List String) :
    valuesUnder caseSensitive (values.map fun value => (key, value)) key = values := by
  have kept : (values.map fun value => (key, value)).filter
      (fun pair => normalize caseSensitive pair.1 == key) = values.map fun value => (key, value) := by
    rw [List.filter_eq_self]
    intro pair member
    rcases List.mem_map.mp member with ⟨value, _, rfl⟩
    rw [normal, beq_self_eq_true]
  rw [valuesUnder, kept, List.map_map]
  exact List.map_id _

/-- Each of distinct keys has the values that were listed for it. -/
theorem valuesUnder_flatMap {caseSensitive : Bool} {keys : List String} (distinct : keys.Nodup)
    (normal : ∀ key ∈ keys, normalize caseSensitive key = key) (values : String → List String)
    {key : String} (member : key ∈ keys) :
    valuesUnder caseSensitive (keys.flatMap fun name => (values name).map fun value => (name, value))
        key = values key := by
  induction keys with
  | nil => exact absurd member List.not_mem_nil
  | cons first rest inductionHypothesis =>
      rw [List.nodup_cons] at distinct
      have firstNormal := normal first List.mem_cons_self
      have restNormal := fun name inRest => normal name (List.mem_cons_of_mem first inRest)
      rw [List.flatMap_cons, valuesUnder_append]
      by_cases isFirst : key = first
      · have others : valuesUnder caseSensitive
            (rest.flatMap fun name => (values name).map fun value => (name, value)) key = [] := by
          apply valuesUnder_eq_nil
          intro pair isPair
          rcases List.mem_flatMap.mp isPair with ⟨name, isName, inName⟩
          rcases List.mem_map.mp inName with ⟨value, _, rfl⟩
          rw [restNormal name isName, isFirst]
          rintro rfl
          exact distinct.1 isName
        rw [others, List.append_nil, isFirst]
        exact valuesUnder_map firstNormal (values first)
      · have before : valuesUnder caseSensitive
            ((values first).map fun value => (first, value)) key = [] := by
          apply valuesUnder_eq_nil
          intro pair isPair
          rcases List.mem_map.mp isPair with ⟨value, _, rfl⟩
          rw [firstNormal]
          exact Ne.symm isFirst
        rw [before, List.nil_append]
        exact inductionHypothesis distinct.2 restNormal (List.mem_of_ne_of_mem isFirst member)

end MultiMap
end SignedGateway
