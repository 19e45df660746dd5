import SignedGateway.Text.Ascii

namespace SignedGateway
namespace Text

/-!
# Reading whole numbers

A number is an optional `+` and at least one digit.  Its value must stay below a
limit, and of several faults the leftmost is reported.
-/

/-- Why a text is no number below the limit. -/
inductive NumeralError where
  | empty
  | invalidDigit
  | tooLarge
  deriving DecidableEq, Repr

def NumeralError.message : NumeralError → String
  | .empty => "cannot parse integer from empty string"
  | .invalidDigit => "invalid digit found in string"
  | .tooLarge => "number too large to fit in target type"

/-- Digits of the given base read from the left onto `value`. -/
def readDigits (base limit : Nat) : Nat → List Char → Except NumeralError Nat
  | value, [] => .ok value
  | value, c :: rest =>
      match hexValue c with
      | none => .error .invalidDigit
      | some digit =>
          if base ≤ digit then .error .invalidDigit
          else if limit ≤ value * base + digit then .error .tooLarge
          else readDigits base limit (value * base + digit) rest

/-- A numeral of the given base whose value is below `limit`. -/
def readNumeral (base limit : Nat) (text : List Char) : Except NumeralError Nat :=
  match text with
  | [] => .error .empty
  | ['+'] => .error .invalidDigit
  | '+' :: digits => readDigits base limit 0 digits
  | digits => readDigits base limit 0 digits

/-- A decimal numeral of sixty-four bits. -/
def readWord (text : String) : Except NumeralError Nat :=
  readNumeral 10 UInt64.size text.toList

/-- The decimal digits of a number. -/
def decimal (value : Nat) : String :=
  String.ofList (Nat.toDigits 10 value)

/-- The decimal digits of an integer, with a sign when it is negative. -/
def signedDecimal (value : Int) : String :=
  if value < 0 then "-" ++ decimal (-value).toNat else decimal value.toNat

/-- The decimal digits of a number with zeros in front up to `width`. -/
def padded (width value : Nat) : String :=
  let digits := Nat.toDigits 10 value
  String.ofList (List.replicate (width - digits.length) '0' ++ digits)

end Text
end SignedGateway
