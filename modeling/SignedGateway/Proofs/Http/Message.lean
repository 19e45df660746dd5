import Mathlib.Data.List.Basic
import SignedGateway.Http.Message
import SignedGateway.Text.Blank

namespace SignedGateway
namespace Http

/-!
# Tokens

A token is not empty and is made of token characters only.  The marks between
the parts of a header or of a request line are no token characters.
-/

theorem ne_empty_of_isToken {text : String} (token : isToken text = true) : text ≠ "" := by
  rw [isToken, Bool.and_eq_true, bne_iff_ne] at token
  exact token.1

theorem isTokenChar_of_isToken {text : String} (token : isToken text = true) {c : Char}
    (member : c ∈ text.toList) : isTokenChar c = true := by
  rw [isToken, Bool.and_eq_true] at token
  exact List.all_eq_true.mp token.2 c member

theorem not_mem_of_isToken {c : Char} (other : isTokenChar c = false) {text : String}
    (token : isToken text = true) : c ∉ text.toList := by
  intro member
  rw [isTokenChar_of_isToken token member] at other
  cases other

/-- No blank character is a token character. -/
theorem isBlank_of_isTokenChar {c : Char} (token : isTokenChar c = true) :
    Text.isBlank c = false := by
  rw [isTokenChar, Bool.or_eq_true] at token
  rcases token with alphanumeric | listed
  · have bounds : (97 ≤ c.toNat ∧ c.toNat ≤ 122) ∨ (65 ≤ c.toNat ∧ c.toNat ≤ 90) ∨
        (48 ≤ c.toNat ∧ c.toNat ≤ 57) := by
      simpa [Text.isAsciiAlphanumeric, Char.le_def, UInt32.le_iff_toNat_le, or_assoc] using
        alphanumeric
    unfold Text.isBlank
    simp only [Bool.or_eq_false_iff, Bool.and_eq_false_iff, decide_eq_false_iff_not, beq_eq_false_iff_ne]
    omega
  · have visible : "!#$%&'*+-.^_`|~".toList.any Text.isBlank = false := by
      decide
    exact eq_false_of_ne_true (List.any_eq_false.mp visible c (List.contains_iff_mem.mp listed))

end Http
end SignedGateway
