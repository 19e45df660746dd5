import Mathlib.Data.List.TakeWhile
import SignedGateway.Json.Number
import SignedGateway.Proofs.Result

namespace SignedGateway
namespace Json

/-!
# Numerals in documents

A numeral is an optional minus sign, digits without a needless zero in front, an optional fraction
and an optional exponent.  The reader takes apart exactly these, and each in one way only.
-/

/-- Decimal digits, at least one. -/
structure Digits where
  chars : List Char
  nonempty : chars ≠ []
  decimal : ∀ c ∈ chars, c.isDigit = true

/-- An exponent: a mark in either case, a sign that may be left out, and digits. -/
structure Exponent where
  mark : Char
  isMark : mark = 'e' ∨ mark = 'E'
  sign : Option Bool
  digits : Digits

structure Numeral where
  negative : Bool
  whole : Digits
  brief : whole.chars = ['0'] ∨ whole.chars.head? ≠ some '0'
  fraction : Option Digits
  exponent : Option Exponent

/-- The sign of an exponent as it is written; the flag says that it is a minus. -/
def signChars : Option Bool → List Char
  | none => []
  | some false => ['+']
  | some true => ['-']

def fractionChars (fraction : Option Digits) : List Char :=
  fraction.elim [] fun digits => '.' :: digits.chars

def exponentChars (exponent : Option Exponent) : List Char :=
  exponent.elim [] fun written => written.mark :: signChars written.sign ++ written.digits.chars

namespace Numeral

/-- The numeral as it is written. -/
def chars (numeral : Numeral) : List Char :=
  (if numeral.negative then ['-'] else []) ++
    (numeral.whole.chars ++ (fractionChars numeral.fraction ++ exponentChars numeral.exponent))

def parts (numeral : Numeral) : Number.Parts where
  negative := numeral.negative
  whole := numeral.whole.chars
  fraction := numeral.fraction.map Digits.chars
  exponent := numeral.exponent.map fun written =>
    (written.sign == some true, written.digits.chars)

end Numeral

/-! ## Digits -/

/-- No digit comes next. -/
def EndsDigits (rest : List Char) : Prop :=
  ∀ c ∈ rest.head?, c.isDigit = false

theorem endsDigits_nil : EndsDigits [] := by
  simp [EndsDigits]

theorem endsDigits_cons {c : Char} (rest : List Char) (other : c.isDigit = false) :
    EndsDigits (c :: rest) := by
  simpa [EndsDigits] using other

theorem Digits.exists_cons (digits : Digits) :
    ∃ first rest, digits.chars = first :: rest ∧ first.isDigit = true := by
  rcases List.exists_cons_of_ne_nil digits.nonempty with ⟨first, rest, written⟩
  exact ⟨first, rest, written, digits.decimal first (written ▸ List.mem_cons_self)⟩

namespace Number

theorem takeDigits_append (digits : Digits) {rest : List Char} (ends : EndsDigits rest) :
    takeDigits (digits.chars ++ rest) = some (digits.chars, rest) := by
  have taken : (digits.chars ++ rest).takeWhile Char.isDigit = digits.chars := by
    rw [List.takeWhile_append_of_pos digits.decimal]
    cases rest with
    | nil => exact List.append_nil _
    | cons c later => simp [ends c rfl]
  have left : (digits.chars ++ rest).dropWhile Char.isDigit = rest := by
    rw [List.dropWhile_append_of_pos digits.decimal]
    cases rest with
    | nil => rfl
    | cons c later => simp [ends c rfl]
  simp only [takeDigits, taken, left]
  rw [if_neg (by simpa using digits.nonempty)]

theorem exists_of_takeDigits {cs taken rest : List Char}
    (done : takeDigits cs = some (taken, rest)) :
    ∃ digits : Digits, digits.chars = taken ∧ cs = taken ++ rest := by
  simp only [takeDigits] at done
  split_ifs at done with empty
  cases done
  refine ⟨⟨_, by simpa using empty, fun c member => List.mem_takeWhile_imp member⟩, rfl, ?_⟩
  exact List.takeWhile_append_dropWhile.symm

/-! ## Fractions and exponents -/

theorem takeFraction_append (fraction : Option Digits) {rest : List Char} (ends : EndsDigits rest)
    (noPoint : rest.head? ≠ some '.') :
    takeFraction (fractionChars fraction ++ rest) = some (fraction.map Digits.chars, rest) := by
  cases fraction with
  | none =>
      cases rest with
      | nil => rfl
      | cons c later =>
          have other : c ≠ '.' := by simpa using noPoint
          simp [fractionChars, takeFraction, other]
  | some digits =>
      change (takeDigits (digits.chars ++ rest)).map _ = _
      rw [takeDigits_append digits ends]
      rfl

theorem exists_of_takeFraction {cs rest : List Char} {taken : Option (List Char)}
    (done : takeFraction cs = some (taken, rest)) :
    ∃ fraction : Option Digits, fraction.map Digits.chars = taken ∧
      cs = fractionChars fraction ++ rest := by
  unfold takeFraction at done
  split at done
  · rcases Option.map_eq_some_iff.mp done with ⟨⟨digits, left⟩, read, made⟩
    cases made
    rcases exists_of_takeDigits read with ⟨digits, rfl, rfl⟩
    exact ⟨some digits, rfl, rfl⟩
  · cases done
    exact ⟨none, rfl, rfl⟩

theorem takeExponent_append (exponent : Option Exponent) :
    takeExponent (exponentChars exponent) =
      some (exponent.map fun written => (written.sign == some true, written.digits.chars), []) := by
  cases exponent with
  | none => rfl
  | some written =>
      rcases written with ⟨mark, isMark, sign, digits⟩
      have read : takeDigits digits.chars = some (digits.chars, []) := by
        have whole := takeDigits_append digits endsDigits_nil
        rwa [List.append_nil] at whole
      match sign with
      | some true => simp [exponentChars, signChars, takeExponent, isMark, read]
      | some false => simp [exponentChars, signChars, takeExponent, isMark, read]
      | none =>
          rcases digits.exists_cons with ⟨first, rest, chars, decimal⟩
          have notMinus : first ≠ '-' := by
            rintro rfl
            cases decimal
          have notPlus : first ≠ '+' := by
            rintro rfl
            cases decimal
          rw [chars] at read
          simp [exponentChars, signChars, takeExponent, isMark, chars, notMinus, notPlus, read]

theorem exists_of_takeExponent {cs rest : List Char} {taken : Option (Bool × List Char)}
    (done : takeExponent cs = some (taken, rest)) :
    ∃ exponent : Option Exponent,
      (exponent.map fun written => (written.sign == some true, written.digits.chars)) = taken ∧
        cs = exponentChars exponent ++ rest := by
  have signed {mark : Char} (isMark : mark = 'e' ∨ mark = 'E') (sign : Option Bool)
      {later : List Char} (read : (takeDigits later).map (fun read =>
        (some (sign == some true, read.1), read.2)) = some (taken, rest)) :
      ∃ exponent : Option Exponent,
        (exponent.map fun written => (written.sign == some true, written.digits.chars)) = taken ∧
          mark :: (signChars sign ++ later) = exponentChars exponent ++ rest := by
    rcases Option.map_eq_some_iff.mp read with ⟨⟨chars, left⟩, found, made⟩
    cases made
    rcases exists_of_takeDigits found with ⟨digits, rfl, rfl⟩
    refine ⟨some ⟨mark, isMark, sign, digits⟩, rfl, ?_⟩
    simp [exponentChars]
  unfold takeExponent at done
  split at done
  · cases done
    exact ⟨none, rfl, rfl⟩
  · next mark later =>
      split_ifs at done with isMark
      · split at done
        · exact signed isMark (some true) done
        · exact signed isMark (some false) done
        · exact signed isMark none done
      · cases done
        exact ⟨none, rfl, rfl⟩

/-! ## Numerals -/

theorem endsDigits_exponentChars (exponent : Option Exponent) :
    EndsDigits (exponentChars exponent) := by
  cases exponent with
  | none => exact endsDigits_nil
  | some written =>
      apply endsDigits_cons
      rcases written.isMark with lower | upper
      · rw [lower]
        rfl
      · rw [upper]
        rfl

theorem head_exponentChars (exponent : Option Exponent) :
    (exponentChars exponent).head? ≠ some '.' := by
  cases exponent with
  | none => simp [exponentChars]
  | some written =>
      rcases written.isMark with lower | upper
      · simp [exponentChars, lower]
      · simp [exponentChars, upper]

theorem endsDigits_fractionChars (fraction : Option Digits) {rest : List Char}
    (ends : EndsDigits rest) : EndsDigits (fractionChars fraction ++ rest) := by
  cases fraction with
  | none => exact ends
  | some digits => exact endsDigits_cons _ rfl

/-- The parts of a numeral behind its sign. -/
def unsigned? (negative : Bool) (cs : List Char) : Option Parts := do
  let (whole, afterWhole) ← takeDigits cs
  let (fraction, afterFraction) ← takeFraction afterWhole
  let (exponent, rest) ← takeExponent afterFraction
  if !rest.isEmpty then none
  else
    match whole with
    | '0' :: _ :: _ => none
    | _ => some ⟨negative, whole, fraction, exponent⟩

theorem parts?_minus (cs : List Char) : parts? ('-' :: cs) = unsigned? true cs := rfl

theorem parts?_of_head {cs : List Char} (head : cs.head? ≠ some '-') :
    parts? cs = unsigned? false cs := by
  match cs with
  | [] => rfl
  | c :: rest =>
      have other : c ≠ '-' := by simpa using head
      unfold parts?
      split
      next negative unsigned signed =>
        split at signed
        · next later same => exact absurd (List.cons.inj same).1 other
        · cases signed
          rfl

/-- Digits have a needless zero in front exactly if they begin with a zero and go on. -/
theorem brief_iff {whole : List Char} :
    (whole = ['0'] ∨ whole.head? ≠ some '0') ↔ ∀ c rest, whole ≠ '0' :: c :: rest := by
  constructor
  · rintro (rfl | other) c rest same
    · cases same
    · rw [same] at other
      exact other rfl
  · intro brief
    match whole with
    | [] => exact Or.inr (by simp)
    | [c] =>
        by_cases zero : c = '0'
        · exact Or.inl (zero ▸ rfl)
        · exact Or.inr (by simpa using zero)
    | c :: next :: rest =>
        refine Or.inr fun zero => ?_
        cases zero
        exact brief next rest rfl

theorem unsigned?_eq_some_iff {negative : Bool} {cs : List Char} {parts : Parts} :
    unsigned? negative cs = some parts ↔
      ∃ numeral : Numeral, numeral.negative = negative ∧ numeral.parts = parts ∧
        cs = numeral.whole.chars ++
          (fractionChars numeral.fraction ++ exponentChars numeral.exponent) := by
  constructor
  · intro read
    unfold unsigned? at read
    rcases Option.bind_eq_some_iff.mp read with ⟨⟨whole, afterWhole⟩, readWhole, fractional⟩
    rcases Option.bind_eq_some_iff.mp fractional with
      ⟨⟨fraction, afterFraction⟩, readFraction, exponential⟩
    rcases Option.bind_eq_some_iff.mp exponential with ⟨⟨exponent, rest⟩, readExponent, made⟩
    clear read fractional exponential
    dsimp only at made
    split_ifs at made with more
    rcases exists_of_takeDigits readWhole with ⟨whole, rfl, rfl⟩
    rcases exists_of_takeFraction readFraction with ⟨fraction, rfl, rfl⟩
    rcases exists_of_takeExponent readExponent with ⟨exponent, rfl, rfl⟩
    have nothing : rest = [] := by simpa using more
    subst nothing
    split at made
    · cases made
    · next brief =>
        cases made
        have isBrief := brief_iff.mpr fun c later same => brief c later same
        exact ⟨⟨negative, whole, isBrief, fraction, exponent⟩, rfl, rfl, by simp⟩
  · rintro ⟨numeral, rfl, rfl, rfl⟩
    have ends := endsDigits_exponentChars numeral.exponent
    have readWhole := takeDigits_append numeral.whole
      (endsDigits_fractionChars numeral.fraction ends)
    have readFraction := takeFraction_append numeral.fraction ends
      (head_exponentChars numeral.exponent)
    unfold unsigned?
    simp only [readWhole, readFraction, takeExponent_append, Option.bind_some, Option.bind_eq_bind]
    split_ifs with more
    · cases more
    · split
      · next c later same => exact absurd same (brief_iff.mp numeral.brief c later)
      · rfl

/-- The reader takes numerals, and all of them. -/
theorem parts?_eq_some_iff {literal : List Char} {parts : Parts} :
    parts? literal = some parts ↔
      ∃ numeral : Numeral, numeral.chars = literal ∧ numeral.parts = parts := by
  constructor
  · intro read
    by_cases head : literal.head? = some '-'
    · rcases List.head?_eq_some_iff.mp head with ⟨cs, rfl⟩
      rw [parts?_minus] at read
      rcases unsigned?_eq_some_iff.mp read with ⟨numeral, negative, made, rfl⟩
      refine ⟨numeral, ?_, made⟩
      rw [Numeral.chars, if_pos negative]
      rfl
    · rw [parts?_of_head head] at read
      rcases unsigned?_eq_some_iff.mp read with ⟨numeral, positive, made, rfl⟩
      refine ⟨numeral, ?_, made⟩
      rw [Numeral.chars, positive]
      rfl
  · rintro ⟨numeral, rfl, rfl⟩
    by_cases negative : numeral.negative = true
    · rw [Numeral.chars, if_pos negative]
      exact (parts?_minus _).trans (unsigned?_eq_some_iff.mpr ⟨numeral, negative, rfl, rfl⟩)
    · rcases numeral.whole.exists_cons with ⟨first, rest, written, decimal⟩
      have head : numeral.chars.head? ≠ some '-' := by
        rw [Numeral.chars, if_neg negative, written]
        rintro ⟨⟩
        cases decimal
      rw [parts?_of_head head]
      refine unsigned?_eq_some_iff.mpr ⟨numeral, Bool.eq_false_iff.mpr negative, rfl, ?_⟩
      rw [Numeral.chars, if_neg negative]
      rfl

end Number

end Json
end SignedGateway
