import Mathlib.Data.List.Basic
import SignedGateway.Text.Ascii

namespace SignedGateway
namespace Text

/-!
# Lower case and digits

Lower case is a normal form: it is reached in one step.  Bytes written as digits are
found again, and the digits are none of the marks that divide a header.
-/

theorem toLower_of_not_upper {c : Char} (other : ¬('A'.val ≤ c.val ∧ c.val ≤ 'Z'.val)) :
    c.toLower = c :=
  dif_neg other

theorem toLower_toLower (c : Char) : c.toLower.toLower = c.toLower := by
  by_cases upper : 'A'.val ≤ c.val ∧ c.val ≤ 'Z'.val
  · apply toLower_of_not_upper
    have moved : c.toLower.val = c.val + ('a'.val - 'A'.val) := by
      unfold Char.toLower
      rw [dif_pos upper]
    rw [UInt32.le_iff_toNat_le, UInt32.le_iff_toNat_le] at upper
    have distance : ('a'.val - 'A'.val).toNat = 32 := rfl
    have bounds : 65 ≤ c.val.toNat ∧ c.val.toNat ≤ 90 := upper
    rw [moved, UInt32.le_iff_toNat_le, UInt32.le_iff_toNat_le, UInt32.toNat_add, distance]
    change ¬(65 ≤ (c.val.toNat + 32) % 4294967296 ∧ (c.val.toNat + 32) % 4294967296 ≤ 90)
    omega
  · rw [toLower_of_not_upper upper, toLower_of_not_upper upper]

/-- A character is its lower case or the upper case of it. -/
theorem eq_toLower_or_eq_toUpper (c : Char) : c = c.toLower ∨ c = c.toLower.toUpper := by
  by_cases upper : 'A'.val ≤ c.val ∧ c.val ≤ 'Z'.val
  · right
    have moved : c.toLower.val = c.val + ('a'.val - 'A'.val) := by
      unfold Char.toLower
      rw [dif_pos upper]
    have bounds : 65 ≤ c.val.toNat ∧ c.val.toNat ≤ 90 := upper
    have distance : ('a'.val - 'A'.val).toNat = 32 := rfl
    have back : ('A'.val - 'a'.val).toNat = 4294967264 := rfl
    have size : c.toLower.val.toNat = c.val.toNat + 32 := by
      rw [moved, UInt32.toNat_add, distance]
      omega
    have lower : 'a'.val ≤ c.toLower.val ∧ c.toLower.val ≤ 'z'.val := by
      rw [UInt32.le_iff_toNat_le, UInt32.le_iff_toNat_le, size]
      change 97 ≤ c.val.toNat + 32 ∧ c.val.toNat + 32 ≤ 122
      omega
    apply Char.ext
    unfold Char.toUpper
    rw [dif_pos lower]
    apply UInt32.toNat_inj.mp
    rw [UInt32.toNat_add, back, size]
    omega
  · exact Or.inl (toLower_of_not_upper upper).symm

/-- The texts of one lower case. -/
def spellings : List Char → List (List Char)
  | [] => [[]]
  | c :: rest => (spellings rest).flatMap fun tail => [c :: tail, c.toUpper :: tail]

theorem mem_spellings (cs : List Char) : cs ∈ spellings (cs.map Char.toLower) := by
  induction cs with
  | nil => exact List.mem_singleton_self []
  | cons c rest inductionHypothesis =>
      rw [List.map_cons, spellings, List.mem_flatMap]
      refine ⟨rest, inductionHypothesis, ?_⟩
      rcases eq_toLower_or_eq_toUpper c with same | upper
      · rw [← same]
        exact List.mem_cons_self
      · rw [← upper]
        exact List.mem_cons_of_mem _ List.mem_cons_self

/-- What holds of all spellings of some words holds of every text that is one of them but
for the case of its letters. -/
theorem of_lower_mem (holds : String → Bool) {words : List String}
    (every : words.all (fun word => (spellings word.toList).all fun cs => holds (String.ofList cs)) =
      true)
    {text : String} (member : lower text ∈ words) : holds text = true := by
  have spelled := mem_spellings text.toList
  have letters : text.toList.map Char.toLower = (lower text).toList := by
    rw [lower, String.toList_ofList]
  rw [letters] at spelled
  have found := List.all_eq_true.mp (List.all_eq_true.mp every _ member) text.toList spelled
  rwa [String.ofList_toList] at found

@[simp]
theorem lower_lower (text : String) : lower (lower text) = lower text := by
  rw [lower, lower, String.toList_ofList, List.map_map]
  congr 1
  apply List.map_congr_left
  intro c _
  exact toLower_toLower c

theorem sameLetters_self (text : String) : sameLetters text text = true :=
  beq_self_eq_true (lower text)

/-- Bytes are read back from their digits. -/
theorem bytesOfHex_hexOfBytes (bytes : List UInt8) : bytesOfHex (hexOfBytes bytes) = some bytes := by
  rw [bytesOfHex, hexOfBytes, String.toList_ofList]
  induction bytes with
  | nil => rfl
  | cons byte rest inductionHypothesis =>
      have bound := byte.toNat_lt
      have whole : byte.toNat / 16 * 16 + byte.toNat % 16 = byte.toNat := by
        omega
      rw [List.flatMap_cons]
      simp only [List.cons_append, List.nil_append]
      rw [bytesOfHexDigits, hexValue_hexDigitLower _ (by omega), hexValue_hexDigitLower _ (by omega)]
      simp only [inductionHypothesis, Option.map_some, whole, UInt8.ofNat_toNat]

/-- The digits that bytes are written with. -/
def isLowerHexDigit (c : Char) : Bool :=
  (List.range 16).any fun value => c == hexDigitLower value

theorem isLowerHexDigit_of_mem_hexOfBytes {bytes : List UInt8} {c : Char}
    (member : c ∈ (hexOfBytes bytes).toList) : isLowerHexDigit c = true := by
  rw [hexOfBytes, String.toList_ofList] at member
  rcases List.mem_flatMap.mp member with ⟨byte, _, inByte⟩
  have bound := byte.toNat_lt
  rw [isLowerHexDigit, List.any_eq_true]
  rcases List.mem_cons.mp inByte with rfl | inLow
  · exact ⟨byte.toNat / 16, List.mem_range.mpr (by omega), beq_self_eq_true _⟩
  · rw [List.mem_singleton.mp inLow]
    exact ⟨byte.toNat % 16, List.mem_range.mpr (by omega), beq_self_eq_true _⟩

/-- What holds of the sixteen digits holds of every character that is written. -/
theorem forall_mem_hexOfBytes {holds : Char → Prop}
    (digits : ∀ value, value < 16 → holds (hexDigitLower value)) {bytes : List UInt8} :
    ∀ c ∈ (hexOfBytes bytes).toList, holds c := by
  intro c member
  have digit := isLowerHexDigit_of_mem_hexOfBytes member
  rw [isLowerHexDigit, List.any_eq_true] at digit
  rcases digit with ⟨value, bound, same⟩
  rw [beq_iff_eq] at same
  rw [same]
  exact digits value (List.mem_range.mp bound)

end Text
end SignedGateway
