import SignedGateway.Text.Ascii

namespace SignedGateway

/-!
# Fresh text

Minted keys, tokens and names are made of random hexadecimal digits.  A supply
holds a sequence of endless digit streams; every draw takes the next stream, so
that no two draws share digits, and the shape of what is drawn is fixed whatever
the streams hold.
-/

structure Supply where
  digit : (draw place : Nat) → Fin 16
  used : Nat

namespace Supply

/-- A supply that always gives the same digits.  Its streams repeat after sixteen
digits and differ in these. -/
def repeatable : Supply :=
  let mixed (draw : Nat) := (draw + 1) * 0x9E3779B97F4A7C15 % UInt64.size
  ⟨fun draw place => Fin.ofNat 16 (mixed draw / Nat.pow 16 (place % 16)), 0⟩

/-- The digits of the stream that is next. -/
def digits (supply : Supply) (length : Nat) : List (Fin 16) :=
  (List.range length).map (supply.digit supply.used)

def next (supply : Supply) : Supply :=
  { supply with used := supply.used + 1 }

/-- Digits in lower case. -/
def lowerText (supply : Supply) (length : Nat) : String :=
  String.ofList ((supply.digits length).map fun digit => Text.hexDigitLower digit.val)

/-- Digits in upper case. -/
def upperText (supply : Supply) (length : Nat) : String :=
  String.ofList ((supply.digits length).map fun digit => Text.hexDigitUpper digit.val)

/-- An identifier in five groups of digits; the third group begins with the
version, four, and the fourth with the variant, `8` to `b`. -/
def identifier (supply : Supply) : String :=
  let digits := supply.digits 30
  let text := (digits.map fun digit => Text.hexDigitLower digit.val)
  let variant := Text.hexDigitLower (8 + (supply.digit supply.used 30).val % 4)
  String.ofList
    (text.take 8 ++ '-' :: (text.drop 8).take 4 ++ '-' :: '4' :: (text.drop 12).take 3 ++
      '-' :: variant :: (text.drop 15).take 3 ++ '-' :: (text.drop 18).take 12)

end Supply
end SignedGateway
