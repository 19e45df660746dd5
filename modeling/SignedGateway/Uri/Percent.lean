import SignedGateway.Text.Ascii
import SignedGateway.Text.Utf8

namespace SignedGateway
namespace Uri
namespace Percent

/-!
# Percent coding

A byte that may not stand for itself is written as `%` and two upper-case
hexadecimal digits.  Which bytes stand for themselves is a parameter: paths,
queries and canonical requests keep the unreserved characters, the lookups of
the credentials service keep letters and digits only.

Reading undoes every complete `%XX` of either case and leaves any other `%`
alone, so every text can be read.
-/

/-- Letters, digits, `-`, `.`, `_` and `~`. -/
def isUnreserved (byte : UInt8) : Bool :=
  let c := Char.ofNat byte.toNat
  Text.isAsciiAlphanumeric c || c == '-' || c == '.' || c == '_' || c == '~'

/-- Letters and digits. -/
def isAlphanumeric (byte : UInt8) : Bool :=
  Text.isAsciiAlphanumeric (Char.ofNat byte.toNat)

def escaped (byte : UInt8) : List Char :=
  ['%', Text.hexDigitUpper (byte.toNat / 16), Text.hexDigitUpper (byte.toNat % 16)]

def encodeByte (keep : UInt8 → Bool) (byte : UInt8) : List Char :=
  if keep byte then [Char.ofNat byte.toNat] else escaped byte

/-- The text whose UTF-8 bytes are kept or escaped one by one. -/
def encodeWith (keep : UInt8 → Bool) (text : String) : String :=
  String.ofList ((Utf8.bytesOf text).flatMap (encodeByte keep))

/-- Percent coding that keeps the unreserved characters. -/
def encode (text : String) : String :=
  encodeWith isUnreserved text

def hexPair (high low : UInt8) : Option UInt8 :=
  match Text.hexValue (Char.ofNat high.toNat), Text.hexValue (Char.ofNat low.toNat) with
  | some h, some l => some (UInt8.ofNat (h * 16 + l))
  | _, _ => none

/-- The byte that three bytes escape, if they are an escape. -/
def unescape (mark high low : UInt8) : Option UInt8 :=
  if mark = 0x25 then hexPair high low else none

/-- The bytes with every complete escape undone. -/
def decodeBytes : List UInt8 → List UInt8
  | [] => []
  | [only] => [only]
  | [first, second] => [first, second]
  | first :: second :: third :: rest =>
      match unescape first second third with
      | some value => value :: decodeBytes rest
      | none => first :: decodeBytes (second :: third :: rest)

/-- The text behind the escapes; bytes that are no UTF-8 become the replacement
character. -/
def decode (text : String) : String :=
  Utf8.decodeLossy (decodeBytes (Utf8.bytesOf text))

end Percent
end Uri
end SignedGateway
