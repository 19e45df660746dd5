namespace SignedGateway
namespace Utf8

/-!
# UTF-8

Text is written as bytes and read back by one machine that takes a byte at a
time.  Strict reading refuses the first byte that no text can have there.  Reading
in pieces goes on: it leaves a gap for every longest stretch that begins a
character and cannot end it, and then looks at the offending byte afresh.  Lossy
reading writes the replacement character into the gaps.
-/

/-- The bytes of a text, character by character. -/
def encode (cs : List Char) : List UInt8 :=
  cs.flatMap String.utf8EncodeChar

/-- The bytes of a string. -/
def bytesOf (text : String) : List UInt8 :=
  encode text.toList

/-- Where the reader stands: between characters, or within one that still owes
bytes, the next of which must lie between `low` and `high`; `point` holds the
bits read so far. -/
inductive Pending where
  | between
  | within (owed low high point : Nat)
  deriving DecidableEq, Repr

/-- What one more byte does to a character. -/
inductive Step where
  | goOn (next : Pending)
  | finish (c : Char)
  | broken
  deriving DecidableEq, Repr

/-- The first byte of a character.  The bounds on the second byte shut out
overlong forms, surrogates and code points above `0x10FFFF`. -/
def first (byte : Nat) : Step :=
  if byte < 0x80 then .finish (Char.ofNat byte)
  else if byte < 0xC2 then .broken
  else if byte < 0xE0 then .goOn (.within 1 0x80 0xBF (byte - 0xC0))
  else if byte = 0xE0 then .goOn (.within 2 0xA0 0xBF (byte - 0xE0))
  else if byte = 0xED then .goOn (.within 2 0x80 0x9F (byte - 0xE0))
  else if byte < 0xF0 then .goOn (.within 2 0x80 0xBF (byte - 0xE0))
  else if byte = 0xF0 then .goOn (.within 3 0x90 0xBF (byte - 0xF0))
  else if byte < 0xF4 then .goOn (.within 3 0x80 0xBF (byte - 0xF0))
  else if byte = 0xF4 then .goOn (.within 3 0x80 0x8F (byte - 0xF0))
  else .broken

def step (pending : Pending) (byte : UInt8) : Step :=
  match pending with
  | .between => first byte.toNat
  | .within owed low high point =>
      if low ≤ byte.toNat ∧ byte.toNat ≤ high then
        if owed ≤ 1 then .finish (Char.ofNat (point * 64 + byte.toNat % 64))
        else .goOn (.within (owed - 1) 0x80 0xBF (point * 64 + byte.toNat % 64))
      else .broken

/-- The text that the bytes spell, if they spell one. -/
def decodeFrom : Pending → List UInt8 → Option (List Char)
  | .between, [] => some []
  | .within .., [] => none
  | pending, byte :: rest =>
      match step pending byte with
      | .goOn next => decodeFrom next rest
      | .finish c => (decodeFrom .between rest).map (c :: ·)
      | .broken => none

def decode (bytes : List UInt8) : Option String :=
  (decodeFrom .between bytes).map String.ofList

/-- Written in place of bytes that are no text. -/
def replacement : Char := '\uFFFD'

/-- What the bytes spell, character by character, with `none` for what is no text. -/
def piecesFrom : Pending → List UInt8 → List (Option Char)
  | .between, [] => []
  | .within .., [] => [none]
  | pending, byte :: rest =>
      match step pending byte with
      | .goOn next => piecesFrom next rest
      | .finish c => some c :: piecesFrom .between rest
      | .broken =>
          match pending with
          | .between => none :: piecesFrom .between rest
          | .within .. =>
              match first byte.toNat with
              | .goOn next => none :: piecesFrom next rest
              | .finish c => none :: some c :: piecesFrom .between rest
              | .broken => none :: none :: piecesFrom .between rest

def pieces (bytes : List UInt8) : List (Option Char) :=
  piecesFrom .between bytes

/-- The text that the bytes spell, with `replacement` for what is no text. -/
def decodeLossy (bytes : List UInt8) : String :=
  String.ofList ((pieces bytes).map (·.getD replacement))

end Utf8
end SignedGateway
