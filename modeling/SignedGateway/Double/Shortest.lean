import SignedGateway.Double.Basic

namespace SignedGateway

/-!
# The fewest digits that read back

A double is written as a whole number times a power of ten, with no more digits
than are needed to find the same double again.  The powers of ten are tried from
above: on the first one at which a neighbour of the double rounds to it, the
nearer of such neighbours is taken, and of two as near the even one.
-/

/-- The number `digits * 10 ^ power`. -/
structure Decimal where
  digits : Nat
  power : Int
  deriving DecidableEq, Repr

namespace Decimal

/-- The double nearest to a decimal. -/
def toDouble (decimal : Decimal) : Option Double :=
  Double.ofQuotient (decimal.digits * Nat.pow 10 decimal.power.toNat)
    (Nat.pow 10 (-decimal.power).toNat)

end Decimal

namespace Double

/-- The double as a quotient of whole numbers. -/
def quotient (value : Double) : Nat × Nat :=
  (value.mantissa * Nat.pow 2 value.exponent.toNat, Nat.pow 2 (-value.exponent).toNat)

/-- A power of ten that is not below a double other than zero. -/
def powerAbove (value : Double) : Int :=
  let (numerator, denominator) := value.quotient
  if denominator ≤ numerator then (Nat.toDigits 10 (numerator / denominator)).length
  else 1 - ((Nat.toDigits 10 (denominator / numerator)).length : Int)

/-- The decimal with the given power of ten that rounds to a double and is nearest
to it, if there is one. -/
def onGrid? (value : Double) (power : Int) : Option Decimal :=
  let (numerator, denominator) := value.quotient
  let above := numerator * Nat.pow 10 (-power).toNat
  let below := denominator * Nat.pow 10 power.toNat
  let lower : Decimal := ⟨above / below, power⟩
  let upper : Decimal := ⟨above / below + 1, power⟩
  let nearer := if nearest above below = lower.digits then lower else upper
  let other := if nearer = lower then upper else lower
  if nearer.toDouble = some value then some nearer
  else if other.toDouble = some value then some other
  else none

/-- The first decimal found on the powers of ten from the given one down.  The
seventeenth digit always suffices. -/
def shortestFrom (value : Double) : Nat → Int → Decimal
  | 0, power => (onGrid? value power).getD ⟨0, power⟩
  | tries + 1, power =>
      match onGrid? value power with
      | some decimal => decimal
      | none => shortestFrom value tries (power - 1)

/-- The decimal of fewest digits that rounds to a double. -/
def shortest (value : Double) : Decimal :=
  if value.mantissa = 0 then ⟨0, 0⟩ else shortestFrom value 20 value.powerAbove

end Double
end SignedGateway
