import Mathlib.Tactic.SplitIfs
import SignedGateway.Json.Tree

namespace SignedGateway
namespace Json

/-!
# Characters within quotation marks

Between quotation marks a character stands for itself, or is written as an escape of one letter, or
as a code unit of four hexadecimal digits.  Code units are those of UTF-16: one beyond the lower
half of them is written as a pair of surrogates, and half a pair denotes nothing.
-/

/-! ## As it is written -/

/-- The escapes of one letter, with what they stand for. -/
def escapes : List (Char × Char) :=
  [('"', '"'), ('\\', '\\'), ('/', '/'), ('b', Char.ofNat 8), ('f', Char.ofNat 12), ('n', '\n'),
    ('r', '\r'), ('t', '\t')]

/-- Four hexadecimal digits. -/
structure CodeUnit where
  chars : List Char
  length : chars.length = 4
  hexadecimal : ∀ c ∈ chars, (Text.hexValue c).isSome = true

inductive Item where
  | plain (c : Char) (free : c ≠ '"' ∧ c ≠ '\\' ∧ 0x20 ≤ c.toNat)
  | escape (letter meant : Char) (known : (letter, meant) ∈ escapes)
  | unit (code : CodeUnit)

def Item.chars : Item → List Char
  | .plain c _ => [c]
  | .escape letter _ _ => ['\\', letter]
  | .unit code => '\\' :: 'u' :: code.chars

/-- A text as it is written, with its quotation marks. -/
def quotedChars (items : List Item) : List Char :=
  '"' :: items.flatMap Item.chars ++ ['"']

/-! ## What it denotes -/

/-- Hexadecimal digits read from the left onto a number. -/
def hexOnto (value : Nat) (digits : List Char) : Nat :=
  digits.foldl (fun held c => held * 16 + (Text.hexValue c).getD 0) value

def CodeUnit.value (code : CodeUnit) : Nat :=
  hexOnto 0 code.chars

/-- The first half of a pair. -/
def IsHigh (code : Nat) : Prop :=
  0xD800 ≤ code ∧ code ≤ 0xDBFF

/-- The second half of a pair. -/
def IsLow (code : Nat) : Prop :=
  0xDC00 ≤ code ∧ code ≤ 0xDFFF

instance (code : Nat) : Decidable (IsHigh code) :=
  inferInstanceAs (Decidable (_ ∧ _))

instance (code : Nat) : Decidable (IsLow code) :=
  inferInstanceAs (Decidable (_ ∧ _))

/-- The character that a pair stands for. -/
def pairChar (high low : Nat) : Char :=
  Char.ofNat ((high - 0xD800) * 1024 + (low - 0xDC00) + 0x10000)

/-- The characters that a text denotes, unless half of a pair stands in it alone. -/
def textOf? : List Item → Option (List Char)
  | [] => some []
  | .plain c _ :: rest => (textOf? rest).map (c :: ·)
  | .escape _ meant _ :: rest => (textOf? rest).map (meant :: ·)
  | .unit code :: rest =>
      if IsLow code.value then none
      else if IsHigh code.value then
        match rest with
        | .unit next :: later =>
            if IsLow next.value then (textOf? later).map (pairChar code.value next.value :: ·)
            else none
        | _ => none
      else (textOf? rest).map (Char.ofNat code.value :: ·)

/-! ## Reading it -/

namespace TextScan

/-- The text read so far, with one more item. -/
def pushItem (scan : TextScan) : Item → TextScan
  | .plain c _ => scan.push c
  | .escape _ meant _ => scan.push meant
  | .unit code => scan.pushUnit code.value

/-- What is spoilt stays so. -/
theorem sound_foldl {scan : TextScan} (spoilt : scan.sound = false) (items : List Item) :
    (items.foldl pushItem scan).sound = false := by
  induction items generalizing scan with
  | nil => exact spoilt
  | cons item rest inductionHypothesis =>
      apply inductionHypothesis
      cases item with
      | plain c free => simp [pushItem, push, spoilt]
      | escape letter meant known => simp [pushItem, push, spoilt]
      | unit code =>
          simp only [pushItem, pushUnit]
          split <;> split_ifs <;> first | exact spoilt | rfl

theorem finish_foldl_of_spoilt {scan : TextScan} (spoilt : scan.sound = false)
    (items : List Item) : (items.foldl pushItem scan).finish = none := by
  simp [finish, sound_foldl spoilt items]

/-- A character was read whole. -/
theorem map_cons_reverse (read : List Char) (c : Char) (text : Option (List Char)) :
    (text.map fun more => String.ofList ((c :: read).reverse ++ more)) =
      (text.map (c :: ·)).map fun more => String.ofList (read.reverse ++ more) := by
  simp [Option.map_map, Function.comp_def]

section Units

variable {code : Nat} (read : List Char)

theorem pushUnit_plain (notLow : ¬ IsLow code) (notHigh : ¬ IsHigh code) :
    pushUnit ⟨read, true, none⟩ code = ⟨Char.ofNat code :: read, true, none⟩ :=
  (if_neg notLow).trans (if_neg notHigh)

theorem pushUnit_high (notLow : ¬ IsLow code) (high : IsHigh code) :
    pushUnit ⟨read, true, none⟩ code = ⟨read, true, some code⟩ :=
  (if_neg notLow).trans (if_pos high)

theorem pushUnit_low (low : IsLow code) : pushUnit ⟨read, true, none⟩ code = ⟨read, false, none⟩ :=
  if_pos low

theorem pushUnit_pair (high : Nat) (low : IsLow code) :
    pushUnit ⟨read, true, some high⟩ code = ⟨pairChar high code :: read, true, none⟩ :=
  if_pos low

theorem pushUnit_broken (high : Nat) (notLow : ¬ IsLow code) :
    pushUnit ⟨read, true, some high⟩ code = ⟨read, false, none⟩ :=
  if_neg notLow

end Units

/-- What is read of the items of a text is what they denote. -/
theorem finish_foldl (items : List Item) (read : List Char) :
    (items.foldl pushItem ⟨read, true, none⟩).finish =
      (textOf? items).map fun more => String.ofList (read.reverse ++ more) := by
  induction items using textOf?.induct generalizing read with
  | case1 => simp [textOf?, finish]
  | case2 c free rest inductionHypothesis =>
      rw [textOf?, ← map_cons_reverse]
      exact inductionHypothesis (c :: read)
  | case3 letter meant known rest inductionHypothesis =>
      rw [textOf?, ← map_cons_reverse]
      exact inductionHypothesis (meant :: read)
  | case4 code rest low =>
      unfold textOf?
      rw [if_pos low, List.foldl_cons, pushItem, pushUnit_low read low]
      exact finish_foldl_of_spoilt rfl rest
  | case5 code notLow high next later low inductionHypothesis =>
      unfold textOf?
      rw [if_neg notLow, if_pos high]
      dsimp only
      rw [if_pos low, List.foldl_cons, pushItem,
        pushUnit_high read notLow high, List.foldl_cons, pushItem, pushUnit_pair read _ low,
        ← map_cons_reverse]
      exact inductionHypothesis _
  | case6 code notLow high next later notPaired =>
      unfold textOf?
      rw [if_neg notLow, if_pos high]
      dsimp only
      rw [if_neg notPaired, List.foldl_cons, pushItem,
        pushUnit_high read notLow high, List.foldl_cons, pushItem,
        pushUnit_broken read _ notPaired]
      exact finish_foldl_of_spoilt rfl later
  | case7 code rest notLow high alone =>
      unfold textOf?
      rw [if_neg notLow, if_pos high, List.foldl_cons, pushItem, pushUnit_high read notLow high]
      -- Whatever else comes next leaves the first half alone.
      match rest with
      | [] => rfl
      | .plain c free :: later => exact finish_foldl_of_spoilt rfl later
      | .escape letter meant known :: later => exact finish_foldl_of_spoilt rfl later
      | .unit next :: later => exact (alone next later rfl).elim
  | case8 code rest notLow notHigh inductionHypothesis =>
      unfold textOf?
      rw [if_neg notLow, if_neg notHigh, List.foldl_cons, pushItem,
        pushUnit_plain read notLow notHigh, ← map_cons_reverse]
      exact inductionHypothesis _

end TextScan

end Json
end SignedGateway
