import Mathlib.Data.List.Basic
import SignedGateway.Text.Blank

namespace SignedGateway
namespace Text

/-!
# Words

A text is cut at every blank, and what is not empty between the cuts is a word.  Collapsing the
blanks of a text writes its words again with one space between neighbours: the pass over the text
writes a space only when it comes to a further word, so nothing is written for blanks at either
end.
-/

/-- The words of a text, cut out at its blanks. -/
def wordsOf (text : String) : List String :=
  ((text.toList.splitOnP isBlank).filter fun run => run ≠ []).map String.ofList

theorem join_cons {α : Type} (separator first : List α) (rest : List (List α)) :
    join separator (first :: rest) = first ++ rest.flatMap (separator ++ ·) := by
  induction rest generalizing first with
  | nil => simp [join]
  | cons second others inductionHypothesis => simp [join, inductionHypothesis]

/-! ## Cutting out words -/

/-- The word that is being read stands in front of the first run. -/
theorem wordsFrom_eq (current text : List Char) :
    wordsFrom current text =
      ((text.splitOnP isBlank).modifyHead (current.reverse ++ ·)).filter fun run => run ≠ [] := by
  have unchanged (runs : List (List Char)) : runs.modifyHead (fun run => run) = runs := by
    cases runs <;> rfl
  induction text generalizing current with
  | nil =>
      rw [wordsFrom, List.splitOnP_nil, List.modifyHead_cons, List.append_nil]
      cases current with
      | nil => rfl
      | cons last before => simp
  | cons c rest inductionHypothesis =>
      rw [wordsFrom, List.splitOnP_cons_eq_if_modifyHead]
      split_ifs with blank nothing
      · simp [inductionHypothesis, List.isEmpty_iff.mp nothing, unchanged]
      · have begun : current ≠ [] := by simpa using nothing
        simp [inductionHypothesis, begun, unchanged]
      · rw [inductionHypothesis, List.modifyHead_modifyHead]
        simp [Function.comp_def]

theorem map_words (text : String) : (words text.toList).map String.ofList = wordsOf text := by
  rw [words, wordsFrom_eq, wordsOf]
  cases text.toList.splitOnP isBlank <;> rfl

theorem wordsFrom_ne_nil {current : List Char} (begun : current ≠ []) (text : List Char) :
    wordsFrom current text ≠ [] := by
  induction text generalizing current with
  | nil => simp [wordsFrom, begun]
  | cons c rest inductionHypothesis =>
      rw [wordsFrom]
      split_ifs with blank nothing
      · exact absurd (List.isEmpty_iff.mp nothing) begun
      · exact List.cons_ne_nil _ _
      · exact inductionHypothesis (List.cons_ne_nil c current)

/-! ## Collapsing blanks -/

mutual

/-- Within a word the rest of it is written first, and the further words behind it. -/
theorem append_collapseFrom_word {current : List Char} (begun : current ≠ []) (text : List Char) :
    current.reverse ++ collapseFrom false true text = join [' '] (wordsFrom current text) := by
  have some : current.isEmpty = false := by simpa using begun
  match text with
  | [] => simp [collapseFrom, wordsFrom, join, begun]
  | c :: rest =>
      rw [collapseFrom, wordsFrom]
      by_cases blank : isBlank c = true
      · rw [if_pos blank, if_pos blank, some, if_neg Bool.false_ne_true, collapseFrom_gap, join_cons]
        rfl
      · have later := append_collapseFrom_word (List.cons_ne_nil c current) rest
        rw [if_neg blank, if_neg blank, ← later]
        simp

/-- Behind a word each further one has a space in front of it. -/
theorem collapseFrom_gap (text : List Char) :
    collapseFrom true true text = (words text).flatMap (' ' :: ·) := by
  match text with
  | [] => rfl
  | c :: rest =>
      rw [collapseFrom, words, wordsFrom]
      by_cases blank : isBlank c = true
      · rw [if_pos blank, if_pos blank, collapseFrom_gap rest]
        rfl
      · have later := append_collapseFrom_word (List.cons_ne_nil c []) rest
        rcases List.exists_cons_of_ne_nil (wordsFrom_ne_nil (List.cons_ne_nil c []) rest) with
          ⟨first, others, found⟩
        rw [found, join_cons] at later
        rw [if_neg blank, if_neg blank, found, List.flatMap_cons]
        exact congrArg (' ' :: ·) later

end

/-- In front of the first word nothing is written. -/
theorem collapseFrom_start (gap : Bool) (text : List Char) :
    collapseFrom gap false text = join [' '] (words text) := by
  induction text generalizing gap with
  | nil => cases gap <;> rfl
  | cons c rest inductionHypothesis =>
      rw [collapseFrom, words, wordsFrom]
      by_cases blank : isBlank c = true
      · rw [if_pos blank, if_pos blank, inductionHypothesis]
        rfl
      · have later := append_collapseFrom_word (List.cons_ne_nil c []) rest
        rw [if_neg blank, if_neg blank, Bool.and_false]
        exact later

/-- A text with its blanks collapsed is its words with one space between neighbours. -/
theorem collapseBlanks_eq (text : String) : collapseBlanks text = joinWith " " (wordsOf text) := by
  have chars : (wordsOf text).map String.toList = words text.toList := by
    rw [← map_words, List.map_map]
    simp [Function.comp_def]
  rw [collapseBlanks, collapseFrom_start, joinWith, chars]
  rfl

end Text
end SignedGateway
