import SignedGateway.Digest.Sha256

namespace SignedGateway
namespace Digest

/-!
# The hash functions behind signatures

Everything that signs or verifies takes its digest and its keyed digest from a
suite, so that what is shown about signatures holds for any pair of functions.
The gateway runs with SHA-256 and the keyed construction over it.
-/

structure Suite where
  digest : List UInt8 → List UInt8
  mac : (key message : List UInt8) → List UInt8

/-- Keyed hashing: the key fills one block, and is mixed in before and after. -/
def hmacSha256 (key message : List UInt8) : List UInt8 :=
  let short := if 64 < key.length then sha256 key else key
  let block := short ++ List.replicate (64 - short.length) 0
  let inner := sha256 (block.map (· ^^^ 0x36) ++ message)
  sha256 (block.map (· ^^^ 0x5c) ++ inner)

def Suite.sha256 : Suite :=
  ⟨Digest.sha256, hmacSha256⟩

end Digest
end SignedGateway
