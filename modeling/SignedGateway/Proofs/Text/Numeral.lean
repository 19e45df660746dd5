import Mathlib.Data.Nat.Digits.Defs
import SignedGateway.Text.Blank
import SignedGateway.Text.Decimal

namespace SignedGateway
namespace Text

/-!
# Numerals

What the reader of whole numbers takes is an optional `+` and the digits of a number below the
limit, whatever zeros stand in front.  The shortest numeral of a number is one of them.
-/

/-- The characters are digits of the given values, the highest first. -/
structure Digits (base : Nat) (cs : List Char) (values : List Nat) : Prop where
  spelled : cs.map hexValue = values.map some
  small : ∀ value ∈ values, value < base

/-- The text is an optional sign and the digits of the number, of which there is at least one. -/
def IsNumeral (base : Nat) (text : List Char) (number : Nat) : Prop :=
  ∃ sign digits values, text = sign ++ digits ∧ (sign = [] ∨ sign = ['+']) ∧ digits ≠ [] ∧
    Digits base digits values ∧ number = Nat.ofDigits base values.reverse

/-! ## Digits -/

theorem Digits.nil (base : Nat) : Digits base [] [] where
  spelled := rfl
  small := by simp

theorem Digits.eq_nil {base : Nat} {values : List Nat} (digits : Digits base [] values) :
    values = [] :=
  List.map_eq_nil_iff.mp digits.spelled.symm

theorem digits_cons_iff {base : Nat} {c : Char} {rest : List Char} {values : List Nat} :
    Digits base (c :: rest) values ↔
      ∃ digit later, values = digit :: later ∧ hexValue c = some digit ∧ digit < base ∧
        Digits base rest later := by
  constructor
  · intro digits
    cases values with
    | nil => cases digits.spelled
    | cons digit later =>
        have spelled := digits.spelled
        rw [List.map_cons, List.map_cons, List.cons.injEq] at spelled
        exact ⟨digit, later, rfl, spelled.1, digits.small digit List.mem_cons_self, spelled.2,
          fun value member => digits.small value (List.mem_cons_of_mem digit member)⟩
  · rintro ⟨digit, later, rfl, found, bound, digits⟩
    refine ⟨?_, ?_⟩
    · rw [List.map_cons, List.map_cons, found, digits.spelled]
    · intro value member
      rcases List.mem_cons.mp member with rfl | inLater
      · exact bound
      · exact digits.small value inLater

theorem Digits.hexValue_isSome {base : Nat} {cs : List Char} {values : List Nat}
    (digits : Digits base cs values) : ∀ c ∈ cs, (hexValue c).isSome = true := by
  intro c member
  have mapped : hexValue c ∈ values.map some := by
    rw [← digits.spelled]
    exact List.mem_map_of_mem member
  rcases List.mem_map.mp mapped with ⟨value, _, found⟩
  rw [← found]
  rfl

/-- A digit is one of twenty-two ASCII characters. -/
theorem toNat_of_hexValue {c : Char} (digit : (hexValue c).isSome = true) :
    48 ≤ c.toNat ∧ c.toNat ≤ 57 ∨ 97 ≤ c.toNat ∧ c.toNat ≤ 102 ∨ 65 ≤ c.toNat ∧ c.toNat ≤ 70 := by
  unfold hexValue at digit
  by_cases decimal : '0' ≤ c ∧ c ≤ '9'
  · exact .inl decimal
  · rw [if_neg decimal] at digit
    by_cases lower : 'a' ≤ c ∧ c ≤ 'f'
    · exact .inr (.inl lower)
    · rw [if_neg lower] at digit
      by_cases upper : 'A' ≤ c ∧ c ≤ 'F'
      · exact .inr (.inr upper)
      · rw [if_neg upper] at digit
        cases digit

theorem isBlank_of_hexValue {c : Char} (digit : (hexValue c).isSome = true) : isBlank c = false := by
  have bounds := toNat_of_hexValue digit
  unfold isBlank
  simp only [Bool.or_eq_false_iff, Bool.and_eq_false_iff, decide_eq_false_iff_not, beq_eq_false_iff_ne]
  omega

/-! ## Reading digits -/

/-- The number that digits spell behind those that were read. -/
def readOn (base start : Nat) (values : List Nat) : Nat :=
  values.foldl (fun total value => total * base + value) start

theorem le_readOn {base : Nat} (positive : 0 < base) (start : Nat) (values : List Nat) :
    start ≤ readOn base start values := by
  induction values generalizing start with
  | nil => exact Nat.le_refl start
  | cons value rest inductionHypothesis =>
      calc
        start ≤ start * base := Nat.le_mul_of_pos_right start positive
        _ ≤ start * base + value := Nat.le_add_right _ value
        _ ≤ readOn base (start * base + value) rest := inductionHypothesis _

theorem readOn_zero (base : Nat) (values : List Nat) :
    readOn base 0 values = Nat.ofDigits base values.reverse := by
  rw [Nat.ofDigits_eq_foldr, List.foldr_reverse, readOn]
  congr 1
  funext total value
  rw [Nat.mul_comm, Nat.add_comm]
  rfl

/-- The reader takes digits as long as the number stays below the limit. -/
theorem readDigits_eq_ok_iff {base limit start number : Nat} {cs : List Char} (positive : 0 < base)
    (below : start < limit) :
    readDigits base limit start cs = .ok number ↔
      number < limit ∧ ∃ values, Digits base cs values ∧ number = readOn base start values := by
  induction cs generalizing start with
  | nil =>
      rw [readDigits, Except.ok.injEq]
      constructor
      · rintro rfl
        exact ⟨below, [], Digits.nil base, rfl⟩
      · rintro ⟨_, values, digits, rfl⟩
        rw [digits.eq_nil]
        rfl
  | cons c rest inductionHypothesis =>
      rw [readDigits]
      simp only [digits_cons_iff]
      cases found : hexValue c with
      | none =>
          constructor
          · intro read
            cases read
          · rintro ⟨_, _, ⟨digit, _, _, digitFound, _⟩, _⟩
            cases digitFound
      | some digit =>
          by_cases large : base ≤ digit
          · simp only [if_pos large]
            constructor
            · intro read
              cases read
            · rintro ⟨_, _, ⟨_, _, _, same, bound, _⟩, _⟩
              cases same
              exact absurd bound (Nat.not_lt.mpr large)
          · simp only [if_neg large]
            by_cases beyond : limit ≤ start * base + digit
            · simp only [if_pos beyond]
              constructor
              · intro read
                cases read
              · rintro ⟨fits, _, ⟨_, later, rfl, same, _, _⟩, rfl⟩
                cases same
                have reached : limit ≤ readOn base start (digit :: later) :=
                  Nat.le_trans beyond (le_readOn positive _ later)
                exact absurd fits (Nat.not_lt.mpr reached)
            · rw [if_neg beyond, inductionHypothesis (Nat.lt_of_not_le beyond)]
              constructor
              · rintro ⟨fits, later, digits, rfl⟩
                exact ⟨fits, digit :: later, ⟨digit, later, rfl, rfl, Nat.lt_of_not_le large, digits⟩,
                  rfl⟩
              · rintro ⟨fits, _, ⟨_, later, rfl, same, _, digits⟩, rfl⟩
                cases same
                exact ⟨fits, later, digits, rfl⟩

/-- A sign is no digit. -/
theorem not_digits_plus {base : Nat} {rest : List Char} {values : List Nat} :
    ¬Digits base ('+' :: rest) values := by
  intro digits
  have found := digits.hexValue_isSome '+' List.mem_cons_self
  cases found

/-- The reader takes the numerals of the numbers below the limit. -/
theorem readNumeral_eq_ok_iff {base limit number : Nat} {text : List Char} (positive : 0 < base)
    (some_below : 0 < limit) :
    readNumeral base limit text = .ok number ↔ number < limit ∧ IsNumeral base text number := by
  have read : ∀ digits, readDigits base limit 0 digits = .ok number ↔
      number < limit ∧ ∃ values, Digits base digits values ∧
        number = Nat.ofDigits base values.reverse := by
    intro digits
    rw [readDigits_eq_ok_iff positive some_below]
    simp only [readOn_zero]
  unfold readNumeral
  split
  · constructor
    · intro taken
      cases taken
    · rintro ⟨_, sign, digits, _, whole, _, filled, _⟩
      exact absurd (List.append_eq_nil_iff.mp whole.symm).2 filled
  · constructor
    · intro taken
      cases taken
    · rintro ⟨_, sign, digits, _, whole, rfl | rfl, filled, spelled, _⟩
      · rw [List.nil_append] at whole
        subst whole
        exact absurd spelled not_digits_plus
      · exact absurd (List.cons.inj whole).2.symm filled
  · next rest noDigits =>
      rw [read rest]
      constructor
      · rintro ⟨fits, values, spelled, value⟩
        have filled : rest ≠ [] := fun empty => noDigits (by rw [empty])
        exact ⟨fits, ['+'], rest, values, rfl, .inr rfl, filled, spelled, value⟩
      · rintro ⟨fits, sign, digits, values, whole, rfl | rfl, filled, spelled, value⟩
        · rw [List.nil_append] at whole
          subst whole
          exact absurd spelled not_digits_plus
        · have same : rest = digits := (List.cons.inj whole).2
          subst same
          exact ⟨fits, values, spelled, value⟩
  · next noText _ unsigned =>
      rw [read text]
      constructor
      · rintro ⟨fits, values, spelled, value⟩
        exact ⟨fits, [], text, values, rfl, .inl rfl, noText, spelled, value⟩
      · rintro ⟨fits, sign, digits, values, rfl, rfl | rfl, filled, spelled, value⟩
        · exact ⟨fits, values, spelled, value⟩
        · exact absurd rfl (unsigned digits)

/-! ## Writing a number -/

theorem hexValue_digitChar : ∀ digit, digit < 16 → hexValue (Nat.digitChar digit) = some digit := by
  decide

theorem toDigits_eq_map_digits {base : Nat} (large : 1 < base) {number : Nat} (positive : 0 < number) :
    Nat.toDigits base number = (Nat.digits base number).reverse.map Nat.digitChar := by
  induction number using Nat.strongRecOn with
  | ind number inductionHypothesis =>
      rw [Nat.digits_def' large positive, List.reverse_cons, List.map_append]
      by_cases single : number < base
      · rw [Nat.toDigits_of_lt_base single, Nat.div_eq_of_lt single, Nat.mod_eq_of_lt single,
          Nat.digits_zero]
        rfl
      · have long : base ≤ number := Nat.le_of_not_lt single
        rw [Nat.toDigits_of_base_le large long, inductionHypothesis (number / base)
          (Nat.div_lt_self positive large) (Nat.div_pos long (Nat.lt_trans Nat.one_pos large))]
        rfl

/-- The shortest hexadecimal numeral of a number has its digits. -/
theorem exists_digits_toDigits (number : Nat) :
    ∃ values, Digits 16 (Nat.toDigits 16 number) values ∧
      number = Nat.ofDigits 16 values.reverse := by
  by_cases zero : number = 0
  · subst zero
    refine ⟨[0], ⟨rfl, ?_⟩, rfl⟩
    intro value member
    rw [List.mem_singleton.mp member]
    decide
  · have written := toDigits_eq_map_digits (by decide : 1 < 16) (Nat.pos_of_ne_zero zero)
    have small : ∀ value ∈ (Nat.digits 16 number).reverse, value < 16 := fun value member =>
      Nat.digits_lt_base (by decide) (List.mem_reverse.mp member)
    refine ⟨(Nat.digits 16 number).reverse, ⟨?_, small⟩, ?_⟩
    · rw [written, List.map_map]
      apply List.map_congr_left
      intro value member
      exact hexValue_digitChar value (small value member)
    · rw [List.reverse_reverse, Nat.ofDigits_digits]

theorem hexValue_of_mem_toDigits (number : Nat) :
    ∀ c ∈ Nat.toDigits 16 number, (hexValue c).isSome = true := by
  rcases exists_digits_toDigits number with ⟨values, digits, _⟩
  exact digits.hexValue_isSome

theorem isNumeral_toDigits (number : Nat) : IsNumeral 16 (Nat.toDigits 16 number) number := by
  rcases exists_digits_toDigits number with ⟨values, digits, value⟩
  exact ⟨[], Nat.toDigits 16 number, values, rfl, .inl rfl, Nat.toDigits_ne_nil, digits, value⟩

end Text
end SignedGateway
