namespace SignedGateway
namespace Text

/-!
# ASCII letters and hexadecimal digits

Header names, protocol tokens and digests are compared and written in ASCII.
`lower` changes the letters `A` to `Z` and nothing else.
-/

/-- The text with `A` to `Z` in lower case. -/
def lower (text : String) : String :=
  String.ofList (text.toList.map Char.toLower)

/-- Equality that looks through the case of ASCII letters. -/
def sameLetters (left right : String) : Bool :=
  lower left == lower right

def isAsciiAlphanumeric (c : Char) : Bool :=
  ('a' ≤ c && c ≤ 'z') || ('A' ≤ c && c ≤ 'Z') || ('0' ≤ c && c ≤ '9')

/-- The value of a hexadecimal digit of either case. -/
def hexValue (c : Char) : Option Nat :=
  if '0' ≤ c ∧ c ≤ '9' then some (c.toNat - '0'.toNat)
  else if 'a' ≤ c ∧ c ≤ 'f' then some (c.toNat - 'a'.toNat + 10)
  else if 'A' ≤ c ∧ c ≤ 'F' then some (c.toNat - 'A'.toNat + 10)
  else none

def hexDigitLower (value : Nat) : Char :=
  if value < 10 then Char.ofNat (value + '0'.toNat) else Char.ofNat (value - 10 + 'a'.toNat)

def hexDigitUpper (value : Nat) : Char :=
  if value < 10 then Char.ofNat (value + '0'.toNat) else Char.ofNat (value - 10 + 'A'.toNat)

/-- Two lower-case digits per byte, the high half first. -/
def hexOfBytes (bytes : List UInt8) : String :=
  String.ofList (bytes.flatMap fun byte =>
    [hexDigitLower (byte.toNat / 16), hexDigitLower (byte.toNat % 16)])

/-- The bytes that pairs of hexadecimal digits spell, if the text is made of such
pairs. -/
def bytesOfHexDigits : List Char → Option (List UInt8)
  | [] => some []
  | [_] => none
  | high :: low :: rest =>
      match hexValue high, hexValue low with
      | some h, some l => (bytesOfHexDigits rest).map (UInt8.ofNat (h * 16 + l) :: ·)
      | _, _ => none

def bytesOfHex (text : String) : Option (List UInt8) :=
  bytesOfHexDigits text.toList

theorem hexValue_hexDigitLower :
    ∀ value, value < 16 → hexValue (hexDigitLower value) = some value := by
  decide

end Text
end SignedGateway
