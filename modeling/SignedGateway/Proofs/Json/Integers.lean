import SignedGateway.Proofs.Calendar.Digits
import SignedGateway.Proofs.Json.Numeral

namespace SignedGateway
namespace Json

/-!
# Integers of sixty-four bits

An integer numeral of sixty-four bits, with or without a sign, denotes the integer that it spells.
That integer is written with the very characters of the numeral, so it is read again as what it
was.  Minus zero is no integer here but a double, which is written with a fraction and lasts too.
-/

/-- What is written of the number is a numeral that denotes it. -/
def Number.Lasts (number : Number) : Prop :=
  ∃ numeral : Numeral, numeral.chars = number.render.toList ∧
    Number.ofParts numeral.parts = some number

namespace Numeral

/-- The integer that the digits in front of fraction and exponent spell with the sign. -/
def integer (numeral : Numeral) : Int :=
  if numeral.negative then -(Number.digitsValue numeral.whole.chars : Int)
  else Number.digitsValue numeral.whole.chars

/-- An integer numeral that fits in sixty-four bits with a sign or without one. -/
structure IsWord (numeral : Numeral) : Prop where
  noFraction : numeral.fraction = none
  noExponent : numeral.exponent = none
  least : -((UInt64.size / 2 : Nat) : Int) ≤ numeral.integer
  bound : numeral.integer < (UInt64.size : Int)

/-- The number that such a numeral stands for. -/
def word (numeral : Numeral) : Number :=
  if numeral.negative = true ∧ numeral.integer = 0 then .double true .zero
  else .integer numeral.integer

end Numeral

/-! ## Digits -/

namespace Number

theorem le_ofDigitChars (held : Nat) (digits : List Char) :
    held ≤ Nat.ofDigitChars 10 digits held := by
  induction digits generalizing held with
  | nil => exact Nat.le_refl held
  | cons c rest inductionHypothesis =>
      rw [Nat.ofDigitChars_cons]
      have onto := inductionHypothesis (10 * held + (c.toNat - '0'.toNat))
      omega

/-- Digits that fit are all gathered. -/
theorem gather_of_lt {held : Nat} {digits : List Char}
    (fits : Nat.ofDigitChars 10 digits held < UInt64.size) :
    gather held digits = (Nat.ofDigitChars 10 digits held, 0) := by
  induction digits generalizing held with
  | nil => rfl
  | cons c rest inductionHypothesis =>
      rw [Nat.ofDigitChars_cons] at fits ⊢
      have next := Nat.lt_of_le_of_lt (le_ofDigitChars _ rest) fits
      rw [gather, Nat.mul_comm held 10]
      exact (if_pos next).trans (inductionHypothesis fits)

theorem digitsValue_eq_ofDigitChars (digits : List Char) :
    digitsValue digits = Nat.ofDigitChars 10 digits 0 :=
  Calendar.valueOf_eq_ofDigitChars digits

end Number

namespace Numeral

variable {numeral : Numeral}

/-- Without a needless zero in front, the digits are what is written of their value. -/
theorem toDigits_digitsValue (numeral : Numeral) :
    Nat.toDigits 10 (Number.digitsValue numeral.whole.chars) = numeral.whole.chars := by
  rcases Calendar.exists_zeros_append_toDigits numeral.whole.nonempty numeral.whole.decimal with
    ⟨zeros, written⟩
  change numeral.whole.chars =
    List.replicate zeros '0' ++ Nat.toDigits 10 (Number.digitsValue numeral.whole.chars) at written
  cases zeros with
  | zero => exact written.symm
  | succ zeros =>
      rcases numeral.brief with zero | other
      · rw [zero]
        rfl
      · rw [written] at other
        exact absurd rfl other

/-! ## What it denotes -/

theorem IsWord.parts_eq (word : numeral.IsWord) :
    numeral.parts = ⟨numeral.negative, numeral.whole.chars, none, none⟩ := by
  rw [parts, word.noFraction, word.noExponent]
  rfl

theorem IsWord.gather_eq (word : numeral.IsWord) :
    Number.gather 0 numeral.whole.chars = (Number.digitsValue numeral.whole.chars, 0) := by
  have least := word.least
  have bound := word.bound
  have half : UInt64.size / 2 < UInt64.size := by decide
  have fits : Number.digitsValue numeral.whole.chars < UInt64.size := by
    unfold integer at least bound
    split_ifs at least bound <;> omega
  rw [Number.digitsValue_eq_ofDigitChars] at fits ⊢
  exact Number.gather_of_lt fits

/-- An integer numeral of sixty-four bits denotes the integer that it spells. -/
theorem IsWord.ofParts_eq (word : numeral.IsWord) :
    Number.ofParts numeral.parts = some numeral.word := by
  have least := word.least
  have gathered := word.gather_eq
  have double (parts : Number.Parts) (zero : Number.gather 0 parts.whole = (0, 0))
      (noFraction : parts.fraction = none) (noExponent : parts.exponent = none) :
      Number.double? parts = some .zero := by
    simp only [Number.double?, zero, noFraction, noExponent]
    rfl
  rw [word.parts_eq]
  unfold Numeral.word
  unfold integer at least ⊢
  cases sign : numeral.negative with
  | false => simp [Number.ofParts, Number.integer?, gathered]
  | true =>
      rw [sign, if_pos rfl] at least
      rw [if_pos rfl]
      -- Minus zero is the one numeral here that the reader does not take for an integer.
      by_cases zero : Number.digitsValue numeral.whole.chars = 0
      · rw [zero] at gathered
        have read := double ⟨true, numeral.whole.chars, none, none⟩ gathered rfl rfl
        simp [Number.ofParts, Number.integer?, gathered, read, zero]
      · have fits : Number.digitsValue numeral.whole.chars ≤ UInt64.size / 2 := by omega
        simp [Number.ofParts, Number.integer?, gathered, Nat.pos_of_ne_zero zero, fits, zero]

/-! ## What is written of it -/

theorem signedDecimal_natCast (value : Nat) :
    Text.signedDecimal (value : Int) = Text.decimal value := by
  rw [Text.signedDecimal, if_neg (Int.not_lt.mpr (Int.natCast_nonneg value)), Int.toNat_natCast]

theorem signedDecimal_neg {value : Nat} (positive : 0 < value) :
    Text.signedDecimal (-(value : Int)) = "-" ++ Text.decimal value := by
  have negative : -(value : Int) < 0 := by omega
  rw [Text.signedDecimal, if_pos negative, Int.neg_neg, Int.toNat_natCast]

/-- An integer is written again as it stood. -/
theorem IsWord.render_integer (word : numeral.IsWord)
    (notMinusZero : ¬(numeral.negative = true ∧ numeral.integer = 0)) :
    (Number.integer numeral.integer).render.toList = numeral.chars := by
  have digits := numeral.toDigits_digitsValue
  have alone : fractionChars numeral.fraction ++ exponentChars numeral.exponent = [] := by
    rw [word.noFraction, word.noExponent]
    rfl
  rw [chars, alone, List.append_nil, Number.render]
  unfold integer at notMinusZero ⊢
  cases sign : numeral.negative with
  | false =>
      rw [if_neg Bool.false_ne_true, if_neg Bool.false_ne_true, signedDecimal_natCast, Text.decimal,
        digits, String.toList_ofList]
      rfl
  | true =>
      rw [sign, if_pos rfl] at notMinusZero
      have positive : 0 < Number.digitsValue numeral.whole.chars := by
        simpa [Nat.pos_iff_ne_zero] using notMinusZero
      rw [if_pos rfl, if_pos rfl, signedDecimal_neg positive, Text.decimal, digits,
        String.toList_append]
      exact congrArg ('-' :: ·) String.toList_ofList

/-- The numeral of minus zero as it is written, with a fraction. -/
def minusZero : Numeral where
  negative := true
  whole := ⟨['0'], by decide, List.all_eq_true.mp rfl⟩
  brief := .inl rfl
  fraction := some ⟨['0'], by decide, List.all_eq_true.mp rfl⟩
  exponent := none

theorem lasts_minusZero : (Number.double true .zero).Lasts :=
  ⟨minusZero, by decide +kernel, by decide +kernel⟩

/-- What an integer numeral of sixty-four bits stands for is read again as what it was. -/
theorem IsWord.lasts (word : numeral.IsWord) : numeral.word.Lasts := by
  by_cases minusZero : numeral.negative = true ∧ numeral.integer = 0
  · rw [Numeral.word, if_pos minusZero]
    exact lasts_minusZero
  · have read := word.ofParts_eq
    rw [Numeral.word, if_neg minusZero] at read ⊢
    exact ⟨numeral, (word.render_integer minusZero).symm, read⟩

end Numeral

end Json
end SignedGateway
