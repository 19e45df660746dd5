import SignedGateway.Proofs.MultiMap
import SignedGateway.Proofs.Text.Order
import SignedGateway.Proofs.Text.Words
import SignedGateway.Signature.Canonical

namespace SignedGateway
namespace Canonical

/-!
# The lines of signed headers

A canonical request has one line for each signed name that some header has, in the order of the
names and as often as the name is signed.  Behind the name stand the values of all headers with
that name, in the order in which they came, each of them as its words with one space between
neighbours.  Headers are looked up in a map that has lost the case of their names; as signed
names are in lower case, they find exactly the headers that have their letters.
-/

/-- The headers with a given name, in whatever case their letters are. -/
def headersNamed (pairs : List (String × String)) (name : String) : List (String × String) :=
  pairs.filter fun pair => Text.sameLetters pair.1 name

/-- The words of a value with one space between neighbours. -/
def wordedValue (value : String) : String :=
  Text.joinWith " " (Text.wordsOf value)

/-- The line for a name, read off the headers themselves. -/
def namedLine (pairs : List (String × String)) (name : String) : String :=
  name ++ ":" ++ Text.joinWith "," ((headersNamed pairs name).map fun pair => wordedValue pair.2)

section Lines

variable {pairs : List (String × String)} {name : String}

theorem valuesUnder_of_lower (lower : Text.lower name = name) :
    MultiMap.valuesUnder false pairs name = (headersNamed pairs name).map Prod.snd := by
  have same (pair : String × String) :
      (MultiMap.normalize false pair.1 == name) = Text.sameLetters pair.1 name := by
    rw [Text.sameLetters, lower]
    rfl
  simp only [MultiMap.valuesUnder, headersNamed, same]

theorem headerValue_map_snd (pairs : List (String × String)) :
    headerValue (pairs.map Prod.snd) =
      Text.joinWith "," (pairs.map fun pair => wordedValue pair.2) := by
  rw [headerValue, List.map_map]
  congr 1
  apply List.map_congr_left
  intro pair _
  exact Text.collapseBlanks_eq pair.2

/-- The map of headers has the line for a name exactly if some header has that name. -/
theorem headerLine_ofPairs (lower : Text.lower name = name) :
    headerLine (MultiMap.ofPairs false pairs) name =
      if headersNamed pairs name ≠ [] then some (namedLine pairs name) else none := by
  rw [headerLine, MultiMap.lookup_ofPairs, valuesUnder_of_lower lower]
  by_cases none : headersNamed pairs name = []
  · simp [none]
  · have filled : (headersNamed pairs name).map Prod.snd ≠ [] := by simpa using none
    rw [if_neg filled, if_pos none, Option.map_some, headerValue_map_snd]
    rfl

end Lines

/-- The signed names stand in order, each as often as it is signed, and those of them that some
header has are written with the words of all its values. -/
theorem headers_eq_namedLines (pairs : List (String × String)) {signed : List String}
    (lower : ∀ name ∈ signed, Text.lower name = name) :
    (Text.sort signed).Perm signed ∧ (Text.sort signed).Pairwise (· ≤ ·) ∧
      headers pairs signed =
        Text.joinWith "\n"
          (((Text.sort signed).filter fun name => headersNamed pairs name ≠ []).map
            (namedLine pairs)) := by
  refine ⟨Text.sort_perm signed, ?_, ?_⟩
  · exact (Text.sort_pairwise signed).imp fun ordered => of_decide_eq_true ordered
  · rw [headers, ← List.filterMap_eq_map, List.filterMap_filter]
    congr 1
    apply List.filterMap_congr
    intro name member
    rw [headerLine_ofPairs (lower name (Text.mem_sort.mp member))]
    simp

/-- A name that is signed twice, one that is given in two spellings, a value of blanks only, blanks
beyond ASCII, and a signed name that no header has. -/
theorem headers_of_two_spellings :
    headers
        [("X-Note", " a\u3000\t b "), ("Host", "h"), ("x-note", "\u0085"), ("Range", "bytes=0-9")]
        ["x-note", "host", "date", "host"] =
      "host:h\nhost:h\nx-note:a b," := by
  have lower : ∀ name ∈ ["x-note", "host", "date", "host"], Text.lower name = name := by
    decide
  have sorted : Text.sort ["x-note", "host", "date", "host"] = ["date", "host", "host", "x-note"] :=
    Text.sort_eq_of_ordered (by decide) (by decide)
  rw [(headers_eq_namedLines _ lower).2.2, sorted]
  decide +kernel

end Canonical
end SignedGateway
