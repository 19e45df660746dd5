import SignedGateway.Gateway.Outbound
import SignedGateway.Incoming.Request
import SignedGateway.Proofs.MultiMap
import SignedGateway.Proofs.Text.Utf8

namespace SignedGateway
namespace Http
namespace Fields

/-!
# Headers as fields of a message

A map of headers goes into a message field by field and value by value.  The reader
of a message builds the same map again, because it compares names in the same way
and because text survives its way through bytes.
-/

/-- An entry of a map as a field. -/
def ofEntry (entry : String × List String) : String × List (List UInt8) :=
  (entry.1, entry.2.map Utf8.bytesOf)

/-- The fields that carry the values of a map. -/
def ofMap (map : MultiMap) : Fields :=
  map.entries.map ofEntry

theorem upsert_map_ofEntry (name : String) {change : List (List UInt8) → List (List UInt8)}
    {textChange : List String → List String}
    (agrees : ∀ values, change (values.map Utf8.bytesOf) = (textChange values).map Utf8.bytesOf)
    (fresh : List String) (entries : List (String × List String)) :
    upsert name change (fresh.map Utf8.bytesOf) (entries.map ofEntry) =
      (MultiMap.upsert name textChange fresh entries).map ofEntry := by
  induction entries with
  | nil => rfl
  | cons entry rest inductionHypothesis =>
      rcases entry with ⟨other, values⟩
      rw [List.map_cons, ofEntry, upsert, MultiMap.upsert]
      by_cases same : other = name
      · rw [if_pos same, if_pos same, List.map_cons, ofEntry, agrees]
      · rw [if_neg same, if_neg same, List.map_cons, ofEntry, inductionHypothesis]

theorem get_insert_self (fields : Fields) (name : String) (value : List UInt8) :
    get (insert fields name value) name = [value] := by
  have stored (entries : Fields) :
      (upsert (Text.lower name) (fun _ => [value]) [value] entries).lookup (Text.lower name) =
        some [value] := by
    induction entries with
    | nil => exact List.lookup_cons_self
    | cons entry rest inductionHypothesis =>
        rcases entry with ⟨other, values⟩
        rw [upsert]
        by_cases same : other = Text.lower name
        · rw [if_pos same, same]
          exact List.lookup_cons_self
        · rw [if_neg same, List.lookup_cons, beq_false_of_ne (Ne.symm same)]
          exact inductionHypothesis
  rw [get, insert, stored]
  rfl

theorem get_insert_of_ne {name other : String} (different : Text.lower other ≠ Text.lower name)
    (fields : Fields) (value : List UInt8) :
    get (insert fields name value) other = get fields other := by
  have kept (entries : Fields) :
      (upsert (Text.lower name) (fun _ => [value]) [value] entries).lookup (Text.lower other) =
        entries.lookup (Text.lower other) := by
    induction entries with
    | nil => rw [upsert, List.lookup_cons, beq_false_of_ne different]
    | cons entry rest inductionHypothesis =>
        rcases entry with ⟨key, values⟩
        rw [upsert]
        by_cases same : key = Text.lower name
        · rw [if_pos same, same, List.lookup_cons, List.lookup_cons, beq_false_of_ne different]
        · rw [if_neg same, List.lookup_cons, List.lookup_cons, inductionHypothesis]
  rw [get, insert, kept, get]

theorem append_ofMap {map : MultiMap} (insensitive : map.caseSensitive = false)
    (name value : String) :
    append (ofMap map) name (Utf8.bytesOf value) = ofMap (map.add name value) := by
  have agrees (values : List String) : values.map Utf8.bytesOf ++ [Utf8.bytesOf value] =
      (values ++ [value]).map Utf8.bytesOf := by
    rw [List.map_append, List.map_singleton]
  unfold ofMap MultiMap.add MultiMap.addAll
  rw [insensitive]
  exact upsert_map_ofEntry (Text.lower name) agrees [value] map.entries

theorem insert_ofMap {map : MultiMap} (insensitive : map.caseSensitive = false)
    (name value : String) :
    insert (ofMap map) name (Utf8.bytesOf value) = ofMap (map.put name value) := by
  have agrees (_ : List String) : [Utf8.bytesOf value] = [value].map Utf8.bytesOf := rfl
  unfold ofMap MultiMap.put
  rw [insensitive]
  exact upsert_map_ofEntry (Text.lower name) agrees [value] map.entries

theorem pairs_ofMap (map : MultiMap) :
    pairs (ofMap map) = map.pairs.map fun pair => (pair.1, Utf8.bytesOf pair.2) := by
  unfold pairs ofMap MultiMap.pairs
  rw [List.flatMap_map, List.map_flatMap]
  congr 1
  funext entry
  rw [ofEntry, List.map_map, List.map_map]
  rfl

/-- The text of the pairs of the fields is the pairs of the map. -/
theorem map_pairs_ofMap (map : MultiMap) :
    (pairs (ofMap map)).map (fun pair => (pair.1, Utf8.decodeLossy pair.2)) = map.pairs := by
  rw [pairs_ofMap, List.map_map]
  refine (List.map_congr_left fun pair _ => ?_).trans (List.map_id _)
  rw [Function.comp_apply, Utf8.decodeLossy_bytesOf, id]

end Fields

theorem isFieldValue_append (left right : String) :
    isFieldValue (Utf8.bytesOf (left ++ right)) =
      (isFieldValue (Utf8.bytesOf left) && isFieldValue (Utf8.bytesOf right)) := by
  rw [Utf8.bytesOf_append]
  exact List.all_append

end Http

/-! ## Writing and reading the fields -/

namespace Outbound

theorem fieldsFrom_eq {map : MultiMap} (insensitive : map.caseSensitive = false)
    {pairs : List (String × String)} {fields : Http.Fields}
    (made : fieldsFrom (Http.Fields.ofMap map) pairs = .ok fields) :
    fields = Http.Fields.ofMap (map.addPairs pairs) ∧
      ∀ pair ∈ pairs, Http.isFieldName pair.1 = true := by
  induction pairs generalizing map with
  | nil =>
      cases made
      exact ⟨rfl, fun _ member => absurd member List.not_mem_nil⟩
  | cons pair rest inductionHypothesis =>
      rcases pair with ⟨name, value⟩
      rw [fieldsFrom] at made
      split_ifs at made with badName badValue
      rw [Http.Fields.append_ofMap insensitive] at made
      have later := insensitive
      rw [← MultiMap.add_caseSensitive map name value] at later
      rcases inductionHypothesis later made with ⟨same, names⟩
      rw [Bool.not_eq_true', Bool.not_eq_false] at badName
      exact ⟨same, List.forall_mem_cons.mpr ⟨badName, names⟩⟩

/-- The fields of a signed message carry the headers and the signature. -/
theorem signedFields_eq {headers : MultiMap} (tidy : headers.Tidy)
    (insensitive : headers.caseSensitive = false) {authorization : String} {fields : Http.Fields}
    (made : signedFields headers authorization = .ok fields) :
    fields = Http.Fields.ofMap (headers.put "authorization" authorization) ∧
      ∀ pair ∈ headers.pairs, Http.isFieldName pair.1 = true := by
  unfold signedFields at made
  cases plain : fieldsFrom [] headers.pairs with
  | error error =>
      rw [plain] at made
      cases made
  | ok written =>
      have emptyInsensitive : (MultiMap.empty false).caseSensitive = false := rfl
      rcases fieldsFrom_eq emptyInsensitive plain with ⟨same, names⟩
      have whole := tidy.ofPairs_pairs
      rw [insensitive] at whole
      change written = Http.Fields.ofMap (MultiMap.ofPairs false headers.pairs) at same
      rw [whole] at same
      rw [plain] at made
      change (if _ then _ else _) = _ at made
      split_ifs at made with valid
      cases made
      rw [same]
      exact ⟨Http.Fields.insert_ofMap insensitive "authorization" authorization, names⟩

end Outbound

namespace Incoming

/-- A message that carries a map of headers with a host is read as that map. -/
theorem headersOf_ofMap {map : MultiMap} (tidy : map.Tidy)
    (insensitive : map.caseSensitive = false) (hosted : map.contains "host" = true)
    (method : String) (uri : Uri) (body : List UInt8) :
    headersOf ⟨method, uri, Http.Fields.ofMap map, body⟩ = map := by
  have whole := tidy.ofPairs_pairs
  rw [insensitive] at whole
  unfold headersOf
  dsimp only
  rw [Http.Fields.map_pairs_ofMap, whole, if_pos hosted]

end Incoming
end SignedGateway
