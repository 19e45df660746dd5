import Mathlib.Data.List.TakeWhile
import SignedGateway.Proofs.Text.Pieces
import SignedGateway.Text.Blank

namespace SignedGateway
namespace Text

/-!
# Trimming

A text whose first and last characters are not blank is left as it is, and a space
in front of a text does not show in what is left of it.  Where a mark is trimmed
instead of blanks, nothing is left exactly of a text that consists of the mark.
-/

theorem dropWhile_eq_self_of_head {α : Type} {drop : α → Bool} {items : List α}
    (first : items.head?.any drop = false) : items.dropWhile drop = items := by
  cases items with
  | nil => rfl
  | cons item rest =>
      rw [List.head?_cons, Option.any_some] at first
      rw [List.dropWhile_cons, first]
      rfl

theorem trimEnd_eq_self {α : Type} {drop : α → Bool} {items : List α}
    (last : items.getLast?.any drop = false) : trimEnd drop items = items := by
  rw [trimEnd, dropWhile_eq_self_of_head (by rwa [List.head?_reverse]), List.reverse_reverse]

theorem trimBoth_eq_self {α : Type} {drop : α → Bool} {items : List α}
    (first : items.head?.any drop = false) (last : items.getLast?.any drop = false) :
    trimBoth drop items = items := by
  rw [trimBoth, trimStart, dropWhile_eq_self_of_head first, trimEnd_eq_self last]

/-- Nothing is left exactly if everything is to be dropped. -/
theorem trimBoth_eq_nil_iff {α : Type} {drop : α → Bool} {items : List α} :
    trimBoth drop items = [] ↔ ∀ item ∈ items, drop item = true := by
  rw [trimBoth, trimStart, trimEnd, List.reverse_eq_nil_iff, List.dropWhile_eq_nil_iff]
  constructor
  · intro dropped
    rw [← List.dropWhile_eq_nil_iff]
    by_contra left
    -- What the trimming of the start stopped at would still be there.
    have stays := List.head_dropWhile_not drop left
    rw [dropped _ (List.mem_reverse.mpr (List.head_mem left))] at stays
    cases stays
  · intro all item member
    exact all item ((List.dropWhile_suffix drop).subset (List.mem_reverse.mp member))

/-- What is left of a trimming does not begin with what was dropped. -/
theorem head?_trimBoth {α : Type} (drop : α → Bool) (items : List α) :
    (trimBoth drop items).head?.any drop = false := by
  have started : ((trimStart drop items).head?).any drop = false := by
    have fresh := List.head?_dropWhile_not drop items
    rw [trimStart]
    cases first : (items.dropWhile drop).head? with
    | none => rfl
    | some item =>
        rw [first] at fresh
        exact fresh
  have front : trimBoth drop items <+: trimStart drop items := by
    rw [trimBoth, trimEnd, ← List.reverse_suffix, List.reverse_reverse]
    exact List.dropWhile_suffix drop
  rcases front with ⟨dropped, whole⟩
  cases left : trimBoth drop items with
  | nil => rfl
  | cons item rest =>
      rw [left] at whole
      rw [← whole] at started
      exact started

/-- Nor does it end with it. -/
theorem getLast?_trimBoth {α : Type} (drop : α → Bool) (items : List α) :
    (trimBoth drop items).getLast?.any drop = false := by
  have fresh := List.head?_dropWhile_not drop (trimStart drop items).reverse
  rw [trimBoth, trimEnd, List.getLast?_reverse]
  cases last : ((trimStart drop items).reverse.dropWhile drop).head? with
  | none => rfl
  | some item =>
      rw [last] at fresh
      exact fresh

theorem trim_eq_self {text : String} (first : text.toList.head?.any isBlank = false)
    (last : text.toList.getLast?.any isBlank = false) : trim text = text := by
  rw [trim, trimBoth_eq_self first last, String.ofList_toList]

/-- A text without blanks is left as it is. -/
theorem trim_of_visible {text : String} (visible : ∀ c ∈ text.toList, isBlank c = false) :
    trim text = text := by
  apply trim_eq_self
  · cases first : text.toList.head? with
    | none => rfl
    | some c => exact visible c (List.mem_of_head? first)
  · cases last : text.toList.getLast? with
    | none => rfl
    | some c => exact visible c (List.mem_of_getLast? last)

/-- What is trimmed stays as it is when it is trimmed again. -/
theorem trim_trim (text : String) : trim (trim text) = trim text := by
  apply trim_eq_self
  · rw [trim, String.toList_ofList]
    exact head?_trimBoth isBlank text.toList
  · rw [trim, String.toList_ofList]
    exact getLast?_trimBoth isBlank text.toList

theorem mem_of_mem_trim {text : String} {c : Char} (member : c ∈ (trim text).toList) :
    c ∈ text.toList := by
  rw [trim, String.toList_ofList, trimBoth, trimEnd, List.mem_reverse] at member
  have inStart := (List.dropWhile_suffix isBlank).subset member
  rw [List.mem_reverse] at inStart
  exact (List.dropWhile_suffix isBlank).subset inStart

theorem trim_space_append (text : String) : trim (" " ++ text) = trim text := by
  rw [trim, String.toList_append, trimBoth, trimStart]
  rfl

/-- A text with a visible beginning and no blank behind it. -/
theorem trim_append_eq_self {head : String} {tail : String}
    (first : head.toList.head?.any isBlank = false) (nonempty : head ≠ "")
    (last : head.toList.getLast?.any isBlank = false)
    (rest : ∀ c ∈ tail.toList, isBlank c = false) : trim (head ++ tail) = head ++ tail := by
  have filled : head.toList ≠ [] := mt String.toList_eq_nil_iff.mp nonempty
  apply trim_eq_self
  · rw [String.toList_append, List.head?_append_of_ne_nil _ filled]
    exact first
  · rw [String.toList_append, List.getLast?_append]
    cases tailLast : tail.toList.getLast? with
    | none =>
        rw [Option.none_or]
        exact last
    | some final =>
        rw [Option.some_or, Option.any_some]
        exact rest final (List.mem_of_getLast? tailLast)

/-! ## Marks -/

section Marks

variable {mark : Char} {text : String}

theorem any_eq_mark_iff {c : Option Char} : c.any (· == mark) = false ↔ c ≠ some mark := by
  cases c with
  | none => simp
  | some c => simp

theorem head?_trimMark (mark : Char) (text : String) :
    (trimMark mark text).toList.head? ≠ some mark := by
  rw [trimMark, String.toList_ofList]
  exact any_eq_mark_iff.mp (head?_trimBoth (· == mark) text.toList)

theorem getLast?_trimMark (mark : Char) (text : String) :
    (trimMark mark text).toList.getLast? ≠ some mark := by
  rw [trimMark, String.toList_ofList]
  exact any_eq_mark_iff.mp (getLast?_trimBoth (· == mark) text.toList)

theorem trimMark_eq_empty_iff : trimMark mark text = "" ↔ ∀ c ∈ text.toList, c = mark := by
  rw [trimMark, String.ofList_eq_empty_iff, trimBoth_eq_nil_iff]
  simp only [beq_iff_eq]

theorem trimMarkEnd_eq_self (last : text.toList.getLast? ≠ some mark) :
    trimMarkEnd mark text = text := by
  rw [trimMarkEnd, trimEnd_eq_self (any_eq_mark_iff.mpr last), String.ofList_toList]

end Marks

end Text
end SignedGateway
