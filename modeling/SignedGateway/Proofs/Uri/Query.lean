import SignedGateway.Proofs.MultiMap.Selection
import SignedGateway.Proofs.Uri.Percent
import SignedGateway.Uri.Query

namespace SignedGateway
namespace Uri
namespace Query

/-!
# A query is read back

A query that was written for parameters is read as these parameters.  The one thing
that is lost is a parameter with neither a name nor a value, for which nothing is
written.
-/

theorem splitOnce_encode (text : String) : Text.splitOnce '=' (Percent.encode text) = none :=
  Text.splitOnce_of_not_mem (Percent.not_mem_encode (by decide) text)

theorem parsePair_renderPair (pair : String × String) : parsePair (renderPair pair) = pair := by
  rcases pair with ⟨name, value⟩
  unfold renderPair parsePair
  by_cases empty : value = ""
  · rw [if_pos empty, splitOnce_encode]
    simp only [Percent.decode_encode, empty]
  · rw [if_neg empty, Text.splitOnce_append Text.toList_equals
      (Percent.not_mem_encode (by decide) name)]
    simp only [Percent.decode_encode]

theorem renderPair_eq_empty_iff {pair : String × String} :
    renderPair pair = "" ↔ pair = ("", "") := by
  constructor
  · intro empty
    rw [← parsePair_renderPair pair, empty]
    rfl
  · rintro rfl
    rfl

/-- Only a lone equals sign is read as a parameter without a name and a value. -/
theorem parsePair_eq_empty_iff {token : String} (nonempty : token ≠ "") :
    parsePair token = ("", "") ↔ token = "=" := by
  constructor
  · intro empty
    unfold parsePair at empty
    split at empty
    · next name value cut =>
        rw [Prod.mk.injEq] at empty
        rw [(Text.splitOnce_eq_some Text.toList_equals cut).1,
          Percent.decode_eq_empty empty.1, Percent.decode_eq_empty empty.2]
        rfl
    · rw [Prod.mk.injEq] at empty
      exact absurd (Percent.decode_eq_empty empty.1) nonempty
  · rintro rfl
    rfl

/-- What holds of coded characters and of the equals sign holds of a written pair. -/
theorem holds_of_mem_renderPair (holds : Char → Bool)
    (every : ∀ value, value < 256 →
      (Percent.encodeByte Percent.isUnreserved (UInt8.ofNat value)).all holds = true)
    (equals : holds '=' = true) {pair : String × String} {c : Char}
    (member : c ∈ (renderPair pair).toList) : holds c = true := by
  unfold renderPair at member
  split_ifs at member with empty
  · exact Percent.holds_of_mem_encode holds every member
  · rw [String.toList_append, String.toList_append, List.mem_append, List.mem_append] at member
    rcases member with (inName | isEquals) | inValue
    · exact Percent.holds_of_mem_encode holds every inName
    · rw [List.mem_singleton.mp isEquals]
      exact equals
    · exact Percent.holds_of_mem_encode holds every inValue

theorem ampersand_not_mem_renderPair (pair : String × String) : '&' ∉ (renderPair pair).toList := by
  intro member
  have other := holds_of_mem_renderPair (· != '&') (by decide +kernel) (by decide) member
  exact bne_iff_ne.mp other rfl

/-- The pairs of a query, as they are written. -/
def renderPairs (pairs : List (String × String)) : String :=
  Text.joinWith "&" (pairs.map renderPair)

/-- The pairs with a name or a value, for which something is written. -/
def visible (pairs : List (String × String)) : List (String × String) :=
  pairs.filter (· != ("", ""))

theorem visible_eq_self {pairs : List (String × String)} (filled : ("", "") ∉ pairs) :
    visible pairs = pairs := by
  rw [visible, List.filter_eq_self]
  intro pair member
  rw [bne_iff_ne]
  rintro rfl
  exact filled member

theorem not_mem_visible (pairs : List (String × String)) : ("", "") ∉ visible pairs := by
  intro member
  exact bne_iff_ne.mp (List.mem_filter.mp member).2 rfl

/-- Under a name that is not empty nothing is invisible. -/
theorem get_ofPairs_visible {parameters : MultiMap} (keyed : parameters.Keyed)
    (sensitive : parameters.caseSensitive = true) {name : String} (named : name ≠ "") :
    (MultiMap.ofPairs true (visible parameters.pairs)).get name = parameters.get name := by
  have seen : MultiMap.valuesUnder true (visible parameters.pairs) name =
      MultiMap.valuesUnder true parameters.pairs name := by
    rw [MultiMap.valuesUnder, MultiMap.valuesUnder, visible, List.filter_filter]
    congr 1
    apply List.filter_congr
    intro pair _
    by_cases same : pair.1 = name
    · have shown : pair ≠ ("", "") := fun empty => named (same ▸ congrArg Prod.fst empty)
      rw [bne_iff_ne.mpr shown, Bool.and_true]
    · have other : (MultiMap.normalize true pair.1 == name) = false := beq_eq_false_iff_ne.mpr same
      rw [other, Bool.false_and]
  have values := keyed.valuesUnder_pairs name
  rw [sensitive] at values
  rw [MultiMap.get_ofPairs, MultiMap.get_eq, sensitive]
  exact seen.trans values

theorem filter_map_renderPair (pairs : List (String × String)) :
    (pairs.map renderPair).filter (· != "") = (visible pairs).map renderPair := by
  have written : ((· != "") ∘ renderPair) = (· != ("", "")) := by
    funext pair
    rw [Function.comp, Bool.eq_iff_iff, bne_iff_ne, bne_iff_ne, ne_eq, ne_eq,
      renderPair_eq_empty_iff]
  rw [List.filter_map, written, visible]

theorem splitOn_renderPairs {pairs : List (String × String)} (nonempty : pairs ≠ []) :
    Text.splitOn '&' (renderPairs pairs) = pairs.map renderPair := by
  apply Text.splitOn_joinWith Text.toList_ampersand
  · exact mt List.map_eq_nil_iff.mp nonempty
  · intro text member
    rcases List.mem_map.mp member with ⟨pair, _, rfl⟩
    exact ampersand_not_mem_renderPair pair

theorem map_parsePair_renderPair (pairs : List (String × String)) :
    (pairs.map renderPair).map parsePair = pairs := by
  rw [List.map_map]
  have inverse : parsePair ∘ renderPair = id := funext parsePair_renderPair
  rw [inverse, List.map_id]

/-- All pairs are read back for which something is written. -/
theorem parsePairs_renderPairs (pairs : List (String × String)) :
    parsePairs (renderPairs pairs) = visible pairs := by
  by_cases none : pairs = []
  · rw [none]
    rfl
  · rw [parsePairs, splitOn_renderPairs none, filter_map_renderPair, map_parsePair_renderPair]

theorem holds_of_mem_renderPairs (holds : Char → Bool)
    (every : ∀ value, value < 256 →
      (Percent.encodeByte Percent.isUnreserved (UInt8.ofNat value)).all holds = true)
    (equals : holds '=' = true) (ampersand : holds '&' = true) {pairs : List (String × String)}
    {c : Char} (member : c ∈ (renderPairs pairs).toList) : holds c = true := by
  rcases Text.mem_joinWith member with inMark | ⟨text, isText, inText⟩
  · rw [List.mem_singleton.mp inMark]
    exact ampersand
  · rcases List.mem_map.mp isText with ⟨pair, _, rfl⟩
    exact holds_of_mem_renderPair holds every equals inText

/-- An empty query is read like none. -/
theorem parse_getD_filter (query : Option String) :
    parse ((query.filter (· != "")).getD "") = parse (query.getD "") := by
  cases query with
  | none => rfl
  | some text =>
      by_cases empty : text = ""
      · rw [empty]
        rfl
      · rw [Option.filter_some, if_pos (bne_iff_ne.mpr empty)]

/-- From the query that is sent for parameters all are read for which something is written. -/
theorem parse_render? (parameters : MultiMap) :
    parse ((render? parameters).getD "") = MultiMap.ofPairs true (visible parameters.pairs) := by
  unfold render?
  by_cases none : parameters.entries.isEmpty = true
  · have noPairs : parameters.pairs = [] := by
      rw [MultiMap.pairs, List.isEmpty_iff.mp none]
      rfl
    rw [if_pos none, noPairs]
    rfl
  · rw [if_neg none, Option.getD_some]
    change parse (renderPairs parameters.pairs) = _
    rw [parse, parsePairs_renderPairs]

end Query
end Uri
end SignedGateway
