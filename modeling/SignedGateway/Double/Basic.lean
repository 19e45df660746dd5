namespace SignedGateway

/-!
# Doubles

The doubles that are not negative, each as a whole number times a power of two.
Every operation works out its exact result as a quotient of whole numbers and
rounds it once to the nearest double; a half goes to the even neighbour.
-/

/-- The number `mantissa * 2 ^ exponent`.  The mantissa has fifty-three bits unless
the exponent is the least one. -/
structure Double where
  mantissa : Nat
  exponent : Int
  deriving DecidableEq, Repr

namespace Double

/-- Mantissas are below this. -/
def mantissaLimit : Nat := Nat.pow 2 53

def leastExponent : Int := -1074

def greatestExponent : Int := 971

def zero : Double := ⟨0, leastExponent⟩

/-- The whole number nearest to a quotient. -/
def nearest (numerator denominator : Nat) : Nat :=
  let whole := numerator / denominator
  let rest := numerator % denominator
  if 2 * rest < denominator then whole
  else if denominator < 2 * rest then whole + 1
  else whole + whole % 2

/-- A quotient divided by a power of two. -/
def scaled (numerator denominator : Nat) (exponent : Int) : Nat × Nat :=
  (numerator * Nat.pow 2 (-exponent).toNat, denominator * Nat.pow 2 exponent.toNat)

/-- The exponent at which a quotient has fifty-three bits before the point, or the
least exponent when that is greater. -/
def exponentFor (numerator denominator : Nat) : Int :=
  let size : Int := (Nat.log2 numerator : Int) - Nat.log2 denominator
  let atSize := scaled numerator denominator size
  max (if atSize.2 ≤ atSize.1 then size - 52 else size - 53) leastExponent

/-- The double nearest to a quotient; `none` beyond the greatest double. -/
def ofQuotient (numerator denominator : Nat) : Option Double :=
  if numerator = 0 then some zero
  else
    let exponent := exponentFor numerator denominator
    let quotient := scaled numerator denominator exponent
    let mantissa := nearest quotient.1 quotient.2
    let rounded : Double :=
      if mantissa = mantissaLimit then ⟨mantissaLimit / 2, exponent + 1⟩ else ⟨mantissa, exponent⟩
    if greatestExponent < rounded.exponent then none else some rounded

def multiply (left right : Double) : Option Double :=
  let exponent := left.exponent + right.exponent
  ofQuotient (left.mantissa * right.mantissa * Nat.pow 2 exponent.toNat)
    (Nat.pow 2 (-exponent).toNat)

/-- The quotient of two doubles of which the second is not zero. -/
def divide (left right : Double) : Option Double :=
  let exponent := left.exponent - right.exponent
  ofQuotient (left.mantissa * Nat.pow 2 exponent.toNat)
    (right.mantissa * Nat.pow 2 (-exponent).toNat)

/-- The greatest power of ten within the doubles. -/
def greatestTen : Nat := 308

/-- The double nearest to a power of ten that is not beyond the greatest one. -/
def tenTo (power : Nat) : Double :=
  (ofQuotient (Nat.pow 10 power) 1).getD zero

/-- A number of at most sixty-four bits times a power of ten.  The number is
rounded first and then multiplied or divided by a rounded power of ten, so that
the result may miss the nearest double by a little.  A negative power beyond the
greatest one takes two divisions, and after two nothing is left. -/
def ofScaled (value : Nat) (power : Int) : Option Double := do
  let start ← ofQuotient value 1
  if start = zero then return zero
  else if (greatestTen : Int) < power then none
  else if 0 ≤ power then start.multiply (tenTo power.toNat)
  else if -(greatestTen : Int) ≤ power then start.divide (tenTo (-power).toNat)
  else if -(2 * greatestTen : Int) ≤ power then
    (← start.divide (tenTo greatestTen)).divide (tenTo ((-power).toNat - greatestTen))
  else return zero

end Double
end SignedGateway
