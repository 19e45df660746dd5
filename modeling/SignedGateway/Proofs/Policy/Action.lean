import SignedGateway.Policy.Action
import SignedGateway.Proofs.Uri.Query

namespace SignedGateway
namespace Policy

/-!
# The action of a query that is written anew

The action of a request is a word: the first token of its query, unless that is empty
or sets a value.  A token that is read and written anew is a word again exactly if its
value is empty and its name is not.  Whether it was a word before does not matter, so a
token such as `acl=` or `%61cl` is another word after it was written anew.
-/

/-- The word that a token is, in lower case. -/
def wordOf (token : String) : Option String :=
  if token = "" ∨ token.toList.contains '=' then none else some (Text.lowerCase token)

theorem wordOf_bare {token : String} (nonempty : token ≠ "") (bare : '=' ∉ token.toList) :
    wordOf token = some (Text.lowerCase token) :=
  if_neg (not_or.mpr ⟨nonempty, mt List.contains_iff_mem.mp bare⟩)

theorem wordOf_setting {token : String} (sets : '=' ∈ token.toList) : wordOf token = none :=
  if_pos (Or.inr (List.contains_iff_mem.mpr sets))

/-- What stands before the first `&`. -/
def firstToken (query : String) : String :=
  String.ofList (query.toList.takeWhile (· != '&'))

theorem actionOf_eq (rawQuery : Option String) :
    actionOf rawQuery = wordOf (firstToken (rawQuery.getD "")) := by
  cases rawQuery <;> rfl

/-- An empty query and none have the same action. -/
theorem actionOf_filter (rawQuery : Option String) :
    actionOf (rawQuery.filter (· != "")) = actionOf rawQuery := by
  cases rawQuery with
  | none => rfl
  | some query =>
      by_cases empty : query = ""
      · rw [empty]
        rfl
      · rw [Option.filter_some, if_pos (bne_iff_ne.mpr empty)]

theorem head?_pieces {α : Type} [DecidableEq α] (separator : α) (items : List α) :
    (Text.pieces separator items).head? = some (items.takeWhile (· != separator)) := by
  induction items with
  | nil => rfl
  | cons item rest inductionHypothesis =>
      rw [Text.pieces]
      by_cases isSeparator : item = separator
      · simp [isSeparator]
      · have kept : (item != separator) = true := bne_iff_ne.mpr isSeparator
        rw [if_neg isSeparator, List.takeWhile_cons_of_pos (p := (· != separator)) kept]
        split
        · next none => exact absurd none (Text.pieces_ne_nil separator rest)
        · next first others cut =>
            rw [cut] at inductionHypothesis
            simpa using inductionHypothesis

theorem head?_splitOn (query : String) :
    (Text.splitOn '&' query).head? = some (firstToken query) := by
  rw [Text.splitOn, List.head?_map, head?_pieces]
  rfl

/-! ## Tokens that are written -/

theorem encode_eq_empty_iff {name : String} : Uri.Percent.encode name = "" ↔ name = "" := by
  constructor
  · intro empty
    rw [← Uri.Percent.decode_encode name, empty]
    rfl
  · rintro rfl
    rfl

/-- A pair is written as a word exactly if it has a name and no value. -/
theorem wordOf_renderPair (pair : String × String) :
    wordOf (Uri.Query.renderPair pair) =
      if pair.2 = "" ∧ pair.1 ≠ "" then some (Text.lowerCase (Uri.Percent.encode pair.1))
      else none := by
  rcases pair with ⟨name, value⟩
  unfold Uri.Query.renderPair
  dsimp only
  by_cases noValue : value = ""
  · rw [if_pos noValue]
    by_cases noName : name = ""
    · rw [noName, if_neg (fun named => named.2 rfl)]
      rfl
    · rw [if_pos ⟨noValue, noName⟩]
      exact wordOf_bare (mt encode_eq_empty_iff.mp noName)
        (Uri.Percent.not_mem_encode (by decide) name)
  · rw [if_neg noValue, if_neg (fun bare => noValue bare.1)]
    apply wordOf_setting
    simp

/-- The action of a query that is written for some parameters is the word of the first. -/
theorem actionOf_render? (parameters : MultiMap) :
    actionOf (Uri.Query.render? parameters) =
      parameters.pairs.head?.bind fun pair => wordOf (Uri.Query.renderPair pair) := by
  unfold Uri.Query.render?
  by_cases none : parameters.entries.isEmpty = true
  · have noPairs : parameters.pairs = [] := by
      rw [MultiMap.pairs, List.isEmpty_iff.mp none]
      rfl
    rw [if_pos none, noPairs]
    rfl
  · rw [if_neg none]
    change wordOf (firstToken (Uri.Query.renderPairs parameters.pairs)) = _
    cases written : parameters.pairs with
    | nil => rfl
    | cons pair rest =>
        have first := head?_splitOn (Uri.Query.renderPairs (pair :: rest))
        rw [Uri.Query.splitOn_renderPairs (List.cons_ne_nil pair rest), List.map_cons,
          List.head?_cons, Option.some.injEq] at first
        rw [← first]
        rfl

/-! ## Tokens that are written anew -/

/-- The token after it was read and written anew. -/
def respell (token : String) : String :=
  Uri.Query.renderPair (Uri.Query.parsePair token)

/-- A token that sets a value, or the value of no name, or a word that is the same word
when it is written anew. -/
def KeepsWord (token : String) : Prop :=
  match Text.splitOnce '=' token with
  | some (name, value) => name = "" ∨ value ≠ ""
  | none => Text.lowerCase (Uri.Percent.encode (Uri.Percent.decode token)) = Text.lowerCase token

theorem decode_eq_empty_iff {text : String} : Uri.Percent.decode text = "" ↔ text = "" :=
  ⟨Uri.Percent.decode_eq_empty, fun empty => by rw [empty]; rfl⟩

/-- These are the tokens that are the same word, or none, before and after. -/
theorem wordOf_respell_eq_iff {token : String} (nonempty : token ≠ "") :
    wordOf token = wordOf (respell token) ↔ KeepsWord token := by
  rw [respell, wordOf_renderPair, Uri.Query.parsePair, KeepsWord]
  cases cut : Text.splitOnce '=' token with
  | none =>
      have bare := Text.not_mem_of_splitOnce_eq_none cut
      have named := mt decode_eq_empty_iff.mp nonempty
      dsimp only
      rw [wordOf_bare nonempty bare, if_pos ⟨rfl, named⟩, Option.some.injEq]
      exact eq_comm
  | some parts =>
      rcases parts with ⟨name, value⟩
      have whole := (Text.splitOnce_eq_some Text.toList_equals cut).1
      have sets : '=' ∈ token.toList := by
        rw [whole]
        simp
      dsimp only
      rw [wordOf_setting sets]
      by_cases noName : name = "" <;> by_cases noValue : value = "" <;>
        simp [decode_eq_empty_iff, noName, noValue]

end Policy
end SignedGateway
