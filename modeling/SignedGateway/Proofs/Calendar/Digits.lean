import Mathlib.Data.List.Induction
import SignedGateway.Calendar.Stamp

namespace SignedGateway
namespace Calendar

/-!
# Numbers of a fixed width

A number that is written in some width with zeros in front is read back, and digits are what is
written of their value in just their number.
-/

theorem valueOf_eq_ofDigitChars (digits : List Char) :
    valueOf digits = Nat.ofDigitChars 10 digits 0 := by
  rw [Nat.ofDigitChars_eq_foldl, valueOf]
  simp only [Nat.mul_comm]

theorem valueOf_concat (digits : List Char) (c : Char) :
    valueOf (digits ++ [c]) = 10 * valueOf digits + (c.toNat - '0'.toNat) := by
  rw [valueOf, List.foldl_append, ← valueOf, Nat.mul_comm]
  rfl

theorem digitChar_of_isDigit {c : Char} (digit : c.isDigit = true) :
    c.toNat - '0'.toNat < 10 ∧ Nat.digitChar (c.toNat - '0'.toNat) = c := by
  have bounds : 48 ≤ c.toNat ∧ c.toNat ≤ 57 := Char.isDigit_iff_toNat.mp digit
  have small : c.toNat - '0'.toNat < 10 := by
    change c.toNat - 48 < 10
    omega
  refine ⟨small, Char.toNat_inj.mp ?_⟩
  rw [Nat.toNat_digitChar_of_lt_ten small]
  change 48 + (c.toNat - 48) = c.toNat
  omega

theorem toList_padded (width value : Nat) :
    (Text.padded width value).toList =
      List.replicate (width - (Nat.toDigits 10 value).length) '0' ++ Nat.toDigits 10 value :=
  String.toList_ofList

theorem toList_padded_ne_nil (width value : Nat) : (Text.padded width value).toList ≠ [] := by
  rw [toList_padded]
  exact List.append_ne_nil_of_right_ne_nil _ Nat.toDigits_ne_nil

/-! ## What is written is read back -/

theorem valueOf_padded (width value : Nat) : valueOf (Text.padded width value).toList = value := by
  rw [toList_padded, valueOf_eq_ofDigitChars, Nat.ofDigitChars_append,
    Nat.ofDigitChars_replicate_zero, Nat.mul_zero, Nat.ofDigitChars_ten_toDigits]

theorem isDigit_of_mem_padded {width value : Nat} {c : Char}
    (member : c ∈ (Text.padded width value).toList) : c.isDigit = true := by
  rw [toList_padded] at member
  rcases List.mem_append.mp member with zero | digit
  · rw [List.eq_of_mem_replicate zero]
    rfl
  · exact Nat.isDigit_of_mem_toDigits (by decide) (by decide) digit

theorem length_toDigits_le {width value : Nat} (small : value < Nat.pow 10 (width + 1)) :
    (Nat.toDigits 10 value).length ≤ width + 1 := by
  induction width generalizing value with
  | zero => exact Nat.le_of_eq (congrArg List.length (Nat.toDigits_of_lt_base small))
  | succ width inductionHypothesis =>
      by_cases single : value < 10
      · rw [Nat.toDigits_of_lt_base single, List.length_singleton]
        omega
      · have less : value / 10 < Nat.pow 10 (width + 1) := Nat.div_lt_of_lt_mul (by
          rw [Nat.mul_comm]
          exact small)
        rw [Nat.toDigits_of_base_le (by decide) (Nat.le_of_not_lt single), List.length_append,
          List.length_singleton]
        exact Nat.succ_le_succ (inductionHypothesis less)

theorem length_padded {width value : Nat} (small : value < Nat.pow 10 (width + 1)) :
    (Text.padded (width + 1) value).toList.length = width + 1 := by
  have fits := length_toDigits_le small
  rw [toList_padded, List.length_append, List.length_replicate, Nat.sub_add_cancel fits]

/-! ## Digits are what is written of their value -/

/-- The shortest numeral of the value of digits is what stands behind zeros. -/
theorem exists_zeros_append_toDigits {digits : List Char} (nonempty : digits ≠ [])
    (decimal : ∀ c ∈ digits, c.isDigit = true) :
    ∃ zeros, digits = List.replicate zeros '0' ++ Nat.toDigits 10 (valueOf digits) := by
  induction digits using List.reverseRecOn with
  | nil => exact absurd rfl nonempty
  | append_singleton digits c inductionHypothesis =>
      have digit := digitChar_of_isDigit (decimal c (List.mem_append_right _ List.mem_cons_self))
      rw [valueOf_concat]
      by_cases first : digits = []
      · subst first
        refine ⟨0, ?_⟩
        rw [valueOf, List.foldl_nil, Nat.mul_zero, Nat.zero_add, Nat.toDigits_of_lt_base digit.1,
          digit.2]
        rfl
      · have decimalBefore : ∀ c ∈ digits, c.isDigit = true :=
          fun other member => decimal other (List.mem_append_left _ member)
        rcases inductionHypothesis first decimalBefore with ⟨zeros, written⟩
        by_cases zero : valueOf digits = 0
        · refine ⟨zeros + 1, ?_⟩
          rw [zero] at written ⊢
          rw [Nat.mul_zero, Nat.zero_add, Nat.toDigits_of_lt_base digit.1, digit.2, written,
            Nat.toDigits_zero, ← List.replicate_succ']
        · have joined := Nat.toDigits_append_toDigits (by decide : 1 < 10) (Nat.pos_of_ne_zero zero)
            digit.1
          refine ⟨zeros, ?_⟩
          rw [← joined, ← List.append_assoc, ← written, Nat.toDigits_of_lt_base digit.1, digit.2]

theorem valueOf_lt {digits : List Char} (decimal : ∀ c ∈ digits, c.isDigit = true) :
    valueOf digits < Nat.pow 10 digits.length := by
  induction digits using List.reverseRecOn with
  | nil => decide
  | append_singleton digits c inductionHypothesis =>
      have digit := digitChar_of_isDigit (decimal c (List.mem_append_right _ List.mem_cons_self))
      have before := inductionHypothesis fun other member =>
        decimal other (List.mem_append_left _ member)
      rw [valueOf_concat, List.length_append, List.length_singleton, Nat.pow_eq, Nat.pow_succ]
      rw [Nat.pow_eq] at before
      omega

theorem padded_valueOf {digits : List Char} (nonempty : digits ≠ [])
    (decimal : ∀ c ∈ digits, c.isDigit = true) :
    (Text.padded digits.length (valueOf digits)).toList = digits := by
  rcases exists_zeros_append_toDigits nonempty decimal with ⟨zeros, written⟩
  have length := congrArg List.length written
  rw [List.length_append, List.length_replicate] at length
  rw [toList_padded, length, Nat.add_sub_cancel]
  exact written.symm

end Calendar
end SignedGateway
