import SignedGateway.Gateway.Outbound
import SignedGateway.Proofs.MultiMap.Selection
import SignedGateway.Proofs.Policy.Action
import SignedGateway.Proofs.Store.Addressing

namespace SignedGateway
namespace Outbound

/-!
# The parameters that are sent

All parameters of a request are sent but those that presign it.  They are read from the
query and written anew, so the query of the request for the store begins with the first
token that is sent, in the spelling that the gateway has for it.  The parameters are read
again from that query unless one of them has neither a name nor a value.
-/

section Parameters

variable (query : MultiMap)

theorem tidy_parameters : (parameters query).Tidy :=
  MultiMap.tidy_ofPairs true _

theorem parameters_caseSensitive : (parameters query).caseSensitive = true :=
  MultiMap.ofPairs_caseSensitive true _

variable {query}

theorem render?_of_no_pairs (bare : (parameters query).pairs = []) :
    Uri.Query.render? (parameters query) = none := by
  have whole := (tidy_parameters query).ofPairs_pairs
  rw [bare] at whole
  rw [← whole]
  rfl

theorem render?_of_pairs (queried : (parameters query).pairs ≠ []) :
    Uri.Query.render? (parameters query) =
      some (Uri.Query.renderPairs (parameters query).pairs) := by
  have filled : (parameters query).entries.isEmpty ≠ true := by
    intro empty
    rw [MultiMap.pairs, List.isEmpty_iff.mp empty] at queried
    exact queried rfl
  rw [Uri.Query.render?, if_neg filled]
  rfl

end Parameters

/-- The query that goes with a target is coded. -/
theorem isQueryChar_of_mem_targetOf (request : StoreRequest) :
    ∀ text ∈ (targetOf request).query, ∀ c ∈ text.toList, Uri.isQueryChar c = true := by
  intro text given c member
  unfold targetOf at given
  dsimp only at given
  by_cases bare : (parameters request.query).pairs = []
  · rw [render?_of_no_pairs bare] at given
    cases given
  · rw [render?_of_pairs bare, Option.mem_some_iff] at given
    rw [← given] at member
    exact Addressing.isQueryChar_of_mem_renderPairs member

/-! ## The first token that is sent -/

/-- The tokens of a query that are sent on. -/
def sentTokens (query : String) : List String :=
  ((Text.splitOn '&' query).filter (· != "")).filter fun token =>
    !Authorization.presignedParameters.contains (Uri.Query.parsePair token).1

/-- What is sent of a query is the query without what presigns it, in the same order. -/
theorem parameters_of_tidy {query : MultiMap} (tidy : query.Tidy)
    (sensitive : query.caseSensitive = true) :
    parameters query = query.without Authorization.presignedParameters := by
  have whole := tidy.ofPairs_pairs
  rw [sensitive] at whole
  calc parameters query
      = MultiMap.ofPairs true (query.pairs.filter fun pair =>
          !Authorization.presignedParameters.contains (MultiMap.normalize true pair.1)) := rfl
    _ = (MultiMap.ofPairs true query.pairs).without Authorization.presignedParameters :=
          (MultiMap.restrict_ofPairs
            (fun name => !Authorization.presignedParameters.contains name) true query.pairs).symm
    _ = query.without Authorization.presignedParameters := by rw [whole]

theorem parameters_eq_without (query : String) :
    parameters (Uri.Query.parse query) =
      (Uri.Query.parse query).without Authorization.presignedParameters :=
  parameters_of_tidy (MultiMap.tidy_ofPairs true _) (MultiMap.ofPairs_caseSensitive true _)

/-- The parameters that are sent are those of the tokens that are sent. -/
theorem parameters_parse (query : String) :
    parameters (Uri.Query.parse query) =
      MultiMap.ofPairs true ((sentTokens query).map Uri.Query.parsePair) := by
  have tokens : (Uri.Query.parsePairs query).filter
      (fun pair => !Authorization.presignedParameters.contains pair.1) =
        (sentTokens query).map Uri.Query.parsePair := List.filter_map
  rw [parameters_eq_without, MultiMap.without, Uri.Query.parse, MultiMap.restrict_ofPairs, ← tokens]
  rfl

/-- A parameter without a name and a value is sent exactly if the client has written a
lone equals sign. -/
theorem mem_pairs_parameters_parse_iff (query : String) :
    ("", "") ∈ (parameters (Uri.Query.parse query)).pairs ↔ "=" ∈ Text.splitOn '&' query := by
  rw [parameters_parse, (MultiMap.perm_pairs_ofPairs_of_sensitive _).mem_iff, List.mem_map]
  constructor
  · rintro ⟨token, sent, empty⟩
    rw [sentTokens, List.mem_filter, List.mem_filter, bne_iff_ne] at sent
    rcases sent with ⟨⟨written, nonempty⟩, _⟩
    rwa [(Uri.Query.parsePair_eq_empty_iff nonempty).mp empty] at written
  · intro written
    refine ⟨"=", ?_, by decide +kernel⟩
    rw [sentTokens, List.mem_filter, List.mem_filter]
    exact ⟨⟨written, by decide⟩, by decide +kernel⟩

/-- The action of what is sent is the word of the first token that is sent, as the
gateway spells it. -/
theorem actionOf_targetOf {request : StoreRequest} {query : String}
    (read : request.query = Uri.Query.parse query) :
    Policy.actionOf (targetOf request).query =
      (sentTokens query).head?.bind fun token => Policy.wordOf (Policy.respell token) := by
  have same : (fun pair : String × String => (MultiMap.normalize true pair.1, pair.2)) = id := rfl
  unfold targetOf
  dsimp only
  rw [Policy.actionOf_render?, read, parameters_parse, MultiMap.head?_pairs_ofPairs, same,
    Option.map_id, id, List.head?_map, Option.bind_map]
  rfl

/-! ## The query in the URI -/

section Placed

variable {addressing : Addressing} {request : StoreRequest} {uri : Uri}
  (placed : addressing.endpoint (targetOf request) = .ok uri)

include placed

/-- All parameters are read for which something is written. -/
theorem parse_query :
    Uri.Query.parse (uri.query.getD "") =
      MultiMap.ofPairs true (Uri.Query.visible (parameters request.query).pairs) := by
  rw [Addressing.query_of_endpoint (isQueryChar_of_mem_targetOf request) placed,
    Uri.Query.parse_getD_filter]
  exact Uri.Query.parse_render? (parameters request.query)

/-- Whatever is written, nothing without a name and a value is read from it. -/
theorem not_mem_pairs_parse_query : ("", "") ∉ (Uri.Query.parse (uri.query.getD "")).pairs := by
  rw [parse_query placed, (MultiMap.perm_pairs_ofPairs_of_sensitive _).mem_iff]
  exact Uri.Query.not_mem_visible _

/-- The parameters that are sent are read again exactly if each of them has a name or a
value. -/
theorem parse_query_eq_iff :
    Uri.Query.parse (uri.query.getD "") = parameters request.query ↔
      ("", "") ∉ (parameters request.query).pairs := by
  constructor
  · intro same
    have filled := not_mem_pairs_parse_query placed
    rwa [same] at filled
  · intro filled
    have whole := (tidy_parameters request.query).ofPairs_pairs
    rw [parameters_caseSensitive] at whole
    rw [parse_query placed, Uri.Query.visible_eq_self filled, whole]

end Placed

end Outbound
end SignedGateway
