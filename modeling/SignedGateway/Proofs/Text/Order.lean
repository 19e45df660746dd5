import SignedGateway.Text.Order

namespace SignedGateway
namespace Text

/-!
# Sorted texts

Sorting keeps what is sorted and does nothing the second time.  Lists that are
signed are sorted where they are written and once more where they are read.
-/

theorem sort_perm (texts : List String) : (sort texts).Perm texts :=
  List.mergeSort_perm texts inOrder

theorem sortPairs_perm (pairs : List (String × String)) : (sortPairs pairs).Perm pairs :=
  List.mergeSort_perm pairs pairInOrder

theorem mem_sort {texts : List String} {text : String} : text ∈ sort texts ↔ text ∈ texts :=
  (sort_perm texts).mem_iff

theorem sort_pairwise (texts : List String) :
    (sort texts).Pairwise fun left right => inOrder left right = true := by
  apply List.pairwise_mergeSort
  · intro first second third before after
    exact decide_eq_true (String.le_trans (of_decide_eq_true before) (of_decide_eq_true after))
  · intro left right
    rw [inOrder, inOrder, Bool.or_eq_true, decide_eq_true_iff, decide_eq_true_iff]
    exact String.le_total left right

/-- The order in which texts are listed does not show once they are sorted. -/
theorem sort_eq_of_perm {left right : List String} (perm : left.Perm right) :
    sort left = sort right := by
  have same := (sort_perm left).trans (perm.trans (sort_perm right).symm)
  apply same.eq_of_pairwise ?_ (sort_pairwise left) (sort_pairwise right)
  intro first second _ _ before after
  exact String.le_antisymm (of_decide_eq_true before) (of_decide_eq_true after)

/-- What is sorted already stays as it is. -/
theorem sort_sort (texts : List String) : sort (sort texts) = sort texts :=
  sort_eq_of_perm (sort_perm texts)

theorem sort_eq_of_ordered {texts ordered : List String} (perm : texts.Perm ordered)
    (pairwise : ordered.Pairwise fun left right => inOrder left right = true) :
    sort texts = ordered :=
  (sort_eq_of_perm perm).trans (List.mergeSort_of_pairwise pairwise)

/-! ## Pairs -/

theorem pairInOrder_iff {left right : String × String} :
    pairInOrder left right = true ↔ left.1 < right.1 ∨ left.1 = right.1 ∧ left.2 ≤ right.2 := by
  simp only [pairInOrder, inOrder, Bool.or_eq_true, Bool.and_eq_true, decide_eq_true_eq, beq_iff_eq]

theorem pairInOrder_trans {first second third : String × String}
    (before : pairInOrder first second = true) (after : pairInOrder second third = true) :
    pairInOrder first third = true := by
  simp only [pairInOrder_iff] at before after ⊢
  rcases before with earlier | ⟨same, inner⟩
  · rcases after with later | ⟨again, _⟩
    · exact Or.inl (String.lt_trans earlier later)
    · exact Or.inl (again ▸ earlier)
  · rcases after with later | ⟨again, outer⟩
    · exact Or.inl (same ▸ later)
    · exact Or.inr ⟨same.trans again, String.le_trans inner outer⟩

theorem pairInOrder_total (left right : String × String) :
    pairInOrder left right = true ∨ pairInOrder right left = true := by
  simp only [pairInOrder_iff]
  by_cases forward : left.1 < right.1
  · exact Or.inl (Or.inl forward)
  · by_cases backward : right.1 < left.1
    · exact Or.inr (Or.inl backward)
    · have same : left.1 = right.1 :=
        String.le_antisymm (String.not_lt.mp backward) (String.not_lt.mp forward)
      rcases String.le_total left.2 right.2 with inner | outer
      · exact Or.inl (Or.inr ⟨same, inner⟩)
      · exact Or.inr (Or.inr ⟨same.symm, outer⟩)

/-- No two different pairs stand before each other. -/
theorem pairInOrder_antisymm {left right : String × String}
    (before : pairInOrder left right = true) (after : pairInOrder right left = true) :
    left = right := by
  simp only [pairInOrder_iff] at before after
  rcases before with earlier | ⟨same, inner⟩
  · rcases after with later | ⟨again, _⟩
    · exact absurd later (String.lt_asymm earlier)
    · exact absurd (again ▸ earlier) (String.lt_irrefl _)
  · rcases after with later | ⟨_, outer⟩
    · exact absurd (same ▸ later) (String.lt_irrefl _)
    · exact Prod.ext same (String.le_antisymm inner outer)

theorem sortPairs_pairwise (pairs : List (String × String)) :
    (sortPairs pairs).Pairwise fun left right => pairInOrder left right = true := by
  apply List.pairwise_mergeSort
  · intro first second third before after
    exact pairInOrder_trans before after
  · intro left right
    exact (Bool.or_eq_true _ _).mpr (pairInOrder_total left right)

/-- The order in which pairs are listed does not show once they are sorted. -/
theorem sortPairs_eq_of_perm {left right : List (String × String)} (perm : left.Perm right) :
    sortPairs left = sortPairs right := by
  have same := (sortPairs_perm left).trans (perm.trans (sortPairs_perm right).symm)
  apply same.eq_of_pairwise ?_ (sortPairs_pairwise left) (sortPairs_pairwise right)
  intro first second _ _ before after
  exact pairInOrder_antisymm before after

end Text
end SignedGateway
