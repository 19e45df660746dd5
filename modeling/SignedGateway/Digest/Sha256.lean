namespace SignedGateway
namespace Digest

/-!
# SHA-256

The digest of a byte string: the message is padded to whole blocks of sixty-four
bytes, and every block is mixed into a state of eight words.
-/

/-- The eight words that the blocks are mixed into. -/
structure State where
  a : UInt32
  b : UInt32
  c : UInt32
  d : UInt32
  e : UInt32
  f : UInt32
  g : UInt32
  h : UInt32

def State.initial : State :=
  ⟨0x6a09e667, 0xbb67ae85, 0x3c6ef372, 0xa54ff53a, 0x510e527f, 0x9b05688c, 0x1f83d9ab, 0x5be0cd19⟩

def roundConstants : List UInt32 :=
  [0x428a2f98, 0x71374491, 0xb5c0fbcf, 0xe9b5dba5, 0x3956c25b, 0x59f111f1, 0x923f82a4, 0xab1c5ed5,
   0xd807aa98, 0x12835b01, 0x243185be, 0x550c7dc3, 0x72be5d74, 0x80deb1fe, 0x9bdc06a7, 0xc19bf174,
   0xe49b69c1, 0xefbe4786, 0x0fc19dc6, 0x240ca1cc, 0x2de92c6f, 0x4a7484aa, 0x5cb0a9dc, 0x76f988da,
   0x983e5152, 0xa831c66d, 0xb00327c8, 0xbf597fc7, 0xc6e00bf3, 0xd5a79147, 0x06ca6351, 0x14292967,
   0x27b70a85, 0x2e1b2138, 0x4d2c6dfc, 0x53380d13, 0x650a7354, 0x766a0abb, 0x81c2c92e, 0x92722c85,
   0xa2bfe8a1, 0xa81a664b, 0xc24b8b70, 0xc76c51a3, 0xd192e819, 0xd6990624, 0xf40e3585, 0x106aa070,
   0x19a4c116, 0x1e376c08, 0x2748774c, 0x34b0bcb5, 0x391c0cb3, 0x4ed8aa4a, 0x5b9cca4f, 0x682e6ff3,
   0x748f82ee, 0x78a5636f, 0x84c87814, 0x8cc70208, 0x90befffa, 0xa4506ceb, 0xbef9a3f7, 0xc67178f2]

def rotate (word amount : UInt32) : UInt32 :=
  (word >>> amount) ||| (word <<< (32 - amount))

/-- Four bytes as one word, the first byte on top. -/
def wordsOfBytes : List UInt8 → List UInt32
  | b0 :: b1 :: b2 :: b3 :: rest =>
      ((b0.toUInt32 <<< 24) ||| (b1.toUInt32 <<< 16) ||| (b2.toUInt32 <<< 8) ||| b3.toUInt32) ::
        wordsOfBytes rest
  | _ => []

def bytesOfWord (word : UInt32) : List UInt8 :=
  [(word >>> 24).toUInt8, (word >>> 16).toUInt8, (word >>> 8).toUInt8, word.toUInt8]

/-- The schedule of one block, sixteen words to begin with, made longer word by
word. -/
def extend : Nat → Array UInt32 → Array UInt32
  | 0, schedule => schedule
  | count + 1, schedule =>
      let place := schedule.size
      let w15 := schedule.getD (place - 15) 0
      let w2 := schedule.getD (place - 2) 0
      let s0 := rotate w15 7 ^^^ rotate w15 18 ^^^ (w15 >>> 3)
      let s1 := rotate w2 17 ^^^ rotate w2 19 ^^^ (w2 >>> 10)
      extend count
        (schedule.push (schedule.getD (place - 16) 0 + s0 + schedule.getD (place - 7) 0 + s1))

/-- One round with its constant and its word of the schedule. -/
def round (state : State) (step : UInt32 × UInt32) : State :=
  let s1 := rotate state.e 6 ^^^ rotate state.e 11 ^^^ rotate state.e 25
  let choice := (state.e &&& state.f) ^^^ ((~~~state.e) &&& state.g)
  let t1 := state.h + s1 + choice + step.1 + step.2
  let s0 := rotate state.a 2 ^^^ rotate state.a 13 ^^^ rotate state.a 22
  let majority := (state.a &&& state.b) ^^^ (state.a &&& state.c) ^^^ (state.b &&& state.c)
  ⟨t1 + s0 + majority, state.a, state.b, state.c, state.d + t1, state.e, state.f, state.g⟩

/-- Mix one block of sixteen words into the state. -/
def compress (state : State) (block : List UInt32) : State :=
  let schedule := (extend 48 block.toArray).toList
  let mixed := (roundConstants.zip schedule).foldl round state
  ⟨state.a + mixed.a, state.b + mixed.b, state.c + mixed.c, state.d + mixed.d,
   state.e + mixed.e, state.f + mixed.f, state.g + mixed.g, state.h + mixed.h⟩

/-- The first `count` blocks of sixteen words, mixed in turn. -/
def absorb : Nat → State → List UInt32 → State
  | 0, state, _ => state
  | count + 1, state, message => absorb count (compress state (message.take 16)) (message.drop 16)

/-- The message, one bit, zeros up to eight bytes short of a whole block, and the
length in bits. -/
def pad (message : List UInt8) : List UInt8 :=
  let bits := message.length * 8
  let zeros := (119 - message.length % 64) % 64
  let size := [56, 48, 40, 32, 24, 16, 8, 0].map fun shift => UInt8.ofNat (bits >>> shift)
  message ++ [0x80] ++ List.replicate zeros 0 ++ size

def sha256 (message : List UInt8) : List UInt8 :=
  let padded := pad message
  let state := absorb (padded.length / 64) State.initial (wordsOfBytes padded)
  [state.a, state.b, state.c, state.d, state.e, state.f, state.g, state.h].flatMap bytesOfWord

end Digest
end SignedGateway
