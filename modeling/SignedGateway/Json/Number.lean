import SignedGateway.Double.Shortest
import SignedGateway.Text.Decimal

namespace SignedGateway

/-!
# Numbers in documents

A whole number of sixty-four bits is kept as the integer it is.  Every other
number is a double: one with a fraction or an exponent, one that is too long for
sixty-four bits, and minus zero.
-/

namespace Json

inductive Number where
  | integer (value : Int)
  | double (negative : Bool) (size : Double)
  deriving DecidableEq, Repr

namespace Number

/-- A numeral taken apart. -/
structure Parts where
  negative : Bool
  whole : List Char
  fraction : Option (List Char)
  exponent : Option (Bool × List Char)

/-- Digits, at least one, and the rest. -/
def takeDigits (cs : List Char) : Option (List Char × List Char) :=
  let digits := cs.takeWhile Char.isDigit
  if digits.isEmpty then none else some (digits, cs.dropWhile Char.isDigit)

/-- A fraction after a point, if there is a point. -/
def takeFraction (cs : List Char) : Option (Option (List Char) × List Char) :=
  match cs with
  | '.' :: rest => (takeDigits rest).map fun read => (some read.1, read.2)
  | rest => some (none, rest)

/-- An exponent with its sign, if there is one; the flag says that it is negative. -/
def takeExponent (cs : List Char) : Option (Option (Bool × List Char) × List Char) :=
  match cs with
  | [] => some (none, [])
  | mark :: rest =>
      if mark = 'e' ∨ mark = 'E' then
        match rest with
        | '-' :: digits => (takeDigits digits).map fun read => (some (true, read.1), read.2)
        | '+' :: digits => (takeDigits digits).map fun read => (some (false, read.1), read.2)
        | digits => (takeDigits digits).map fun read => (some (false, read.1), read.2)
      else some (none, mark :: rest)

/-- A numeral that fills the whole text and has no needless zero in front. -/
def parts? (literal : List Char) : Option Parts := do
  let (negative, unsigned) :=
    match literal with
    | '-' :: rest => (true, rest)
    | rest => (false, rest)
  let (whole, afterWhole) ← takeDigits unsigned
  let (fraction, afterFraction) ← takeFraction afterWhole
  let (exponent, rest) ← takeExponent afterFraction
  if !rest.isEmpty then none
  else
    match whole with
    | '0' :: _ :: _ => none
    | _ => some ⟨negative, whole, fraction, exponent⟩

/-- Digits read from the left onto a number. -/
def digitsValue (digits : List Char) : Nat :=
  digits.foldl (fun value c => value * 10 + (c.toNat - '0'.toNat)) 0

/-- Digits read from the left onto a number while it fits in sixty-four bits, and
how many digits are left over. -/
def gather : Nat → List Char → Nat × Nat
  | held, [] => (held, 0)
  | held, c :: rest =>
      let next := held * 10 + (c.toNat - '0'.toNat)
      if next < UInt64.size then gather next rest else (held, rest.length + 1)

/-- The double that a numeral denotes, without its sign; `none` when it is beyond
all doubles.  Only the digits that fit in sixty-four bits count; of the others
those before the point still raise the power of ten. -/
def double? (parts : Parts) : Option Double :=
  let fraction := parts.fraction.getD []
  let whole := gather 0 parts.whole
  let all := gather whole.1 fraction
  let shift : Int :=
    match parts.exponent with
    | none => 0
    | some (true, digits) => -(digitsValue digits : Int)
    | some (false, digits) => (digitsValue digits : Int)
  Double.ofScaled all.1 (whole.2 - (fraction.length - all.2 : Nat) + shift)

/-- The integer that a numeral denotes when it is written without fraction and
exponent and fits in sixty-four bits. -/
def integer? (parts : Parts) : Option Int :=
  if parts.fraction.isSome || parts.exponent.isSome then none
  else
    let whole := gather 0 parts.whole
    if 0 < whole.2 then none
    else if parts.negative then
      if 0 < whole.1 ∧ whole.1 ≤ UInt64.size / 2 then some (-(whole.1 : Int)) else none
    else some whole.1

/-- The number that a numeral denotes; `none` when it is beyond all numbers. -/
def ofParts (parts : Parts) : Option Number :=
  match integer? parts with
  | some value => some (.integer value)
  | none => (double? parts).map (.double parts.negative)

/-- A decimal as documents write it: from `10 ^ -5` to below `10 ^ 16` with a point
and a digit behind it and without an exponent, otherwise with an exponent and one
digit before the point, which is left out when no digit follows. -/
def renderDecimal (decimal : Decimal) : String :=
  let digits := Nat.toDigits 10 decimal.digits
  let zeros (count : Int) := List.replicate count.toNat '0'
  let point := digits.length + decimal.power
  String.ofList <|
    if 0 ≤ decimal.power ∧ point ≤ 16 then digits ++ zeros decimal.power ++ ['.', '0']
    else if 0 < point ∧ point ≤ 16 then
      digits.take point.toNat ++ '.' :: digits.drop point.toNat
    else if -5 < point ∧ point ≤ 0 then '0' :: '.' :: zeros (-point) ++ digits
    else
      let fraction := digits.drop 1
      digits.take 1 ++ (if fraction.isEmpty then [] else '.' :: fraction) ++
        'e' :: (Text.signedDecimal (point - 1)).toList

def render : Number → String
  | .integer value => Text.signedDecimal value
  | .double negative size => (if negative then "-" else "") ++ renderDecimal size.shortest

/-- The value of a number that is whole and not negative. -/
def toNat? : Number → Option Nat
  | .integer value => if 0 ≤ value then some value.toNat else none
  | .double .. => none

end Number
end Json
end SignedGateway
