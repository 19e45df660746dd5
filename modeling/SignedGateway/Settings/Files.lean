import SignedGateway.Text.Utf8

namespace SignedGateway

/-!
# Files

Records and connections may stand in files.  The gateway sees files through what
is found under a path: bytes, or the reason why there are none.
-/

structure Files where
  read : String → Except String (List UInt8)

/-- The text in a file. -/
def Files.text (files : Files) (path : String) : Except String String :=
  match files.read path with
  | .error reason => .error reason
  | .ok bytes =>
      match Utf8.decode bytes with
      | some text => .ok text
      | none => .error "stream did not contain valid UTF-8"

end SignedGateway
