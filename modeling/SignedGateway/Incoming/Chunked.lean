import SignedGateway.Error
import SignedGateway.MultiMap
import SignedGateway.Text.Blank
import SignedGateway.Text.Decimal
import SignedGateway.Text.Utf8

namespace SignedGateway
namespace Chunked

/-!
# Bodies in signed chunks

A client may send a body in chunks of its own.  Every chunk is a line with its
size in hexadecimal digits, which may carry extensions after a semicolon, then
so many bytes and a line break; a chunk of size zero ends the body, and what
follows it is ignored.
-/

/-- The content coding that marks such a body. -/
def coding : String := "aws-chunked"

/-- Whether the headers announce a body in chunks. -/
def isAnnounced (headers : MultiMap) : Bool :=
  (headers.get "content-encoding").any (fun value =>
    Text.occurs coding.toList (Text.lower value).toList) ||
    ((headers.getFirst? "x-amz-content-sha256").map (Text.startsWith "STREAMING-")).getD false

/-- Why a body is not made of chunks. -/
inductive Fault where
  | missingSizeLine
  | sizeNotText
  | invalidSize (text : String)
  | truncatedData
  | missingLineBreak
  deriving DecidableEq, Repr

def Fault.message : Fault → String
  | .missingSizeLine => "Malformed aws-chunked body: missing chunk size line"
  | .sizeNotText => "Malformed aws-chunked body: invalid chunk size encoding"
  | .invalidSize text => "Malformed aws-chunked body: invalid chunk size '" ++ text ++ "'"
  | .truncatedData => "Malformed aws-chunked body: chunk data truncated"
  | .missingLineBreak => "Malformed aws-chunked body: missing CRLF after chunk data"

def Fault.toGatewayError (fault : Fault) : GatewayError :=
  .malformed .invalidArgument fault.message

/-- The bytes before the first line break and those after it. -/
def cutLine : List UInt8 → Option (List UInt8 × List UInt8)
  | [] => none
  | [_] => none
  | first :: second :: rest =>
      if first = 13 ∧ second = 10 then some ([], rest)
      else (cutLine (second :: rest)).map fun parts => (first :: parts.1, parts.2)

theorem length_of_cutLine {bytes line rest : List UInt8} (cut : cutLine bytes = some (line, rest)) :
    bytes.length = line.length + 2 + rest.length := by
  fun_induction cutLine bytes generalizing line rest with
  | case1 => simp at cut
  | case2 => simp at cut
  | case3 first second tail lineBreak =>
      simp only [Option.some.injEq, Prod.mk.injEq] at cut
      rcases cut with ⟨rfl, rfl⟩
      simp
      omega
  | case4 first second tail noBreak inductionHypothesis =>
      rw [Option.map_eq_some_iff] at cut
      rcases cut with ⟨⟨before, after⟩, cutTail, parts⟩
      simp only [Prod.mk.injEq] at parts
      rcases parts with ⟨rfl, rfl⟩
      have shorter := inductionHypothesis cutTail
      simp only [List.length_cons] at shorter ⊢
      omega

/-- The size that a line announces. -/
def readSize (line : List UInt8) : Except Fault Nat :=
  let digits := line.takeWhile (· != 0x3B)
  match Utf8.decode digits with
  | none => .error .sizeNotText
  | some text =>
      match Text.readNumeral 16 UInt64.size (Text.trim text).toList with
      | .ok size => .ok size
      | .error _ => .error (.invalidSize text)

/-- The bytes after a line break at the very beginning. -/
def afterLineBreak : List UInt8 → Option (List UInt8)
  | first :: second :: rest => if first = 13 ∧ second = 10 then some rest else none
  | _ => none

theorem length_of_afterLineBreak {bytes rest : List UInt8}
    (cut : afterLineBreak bytes = some rest) :
    bytes.length = rest.length + 2 := by
  unfold afterLineBreak at cut
  split at cut
  · split at cut
    · simp only [Option.some.injEq] at cut
      subst cut
      simp
    · simp at cut
  · simp at cut

/-- The data of all chunks in order. -/
def decode (body : List UInt8) : Except Fault (List UInt8) :=
  match _ : cutLine body with
  | none => .error .missingSizeLine
  | some (line, rest) =>
      match readSize line with
      | .error fault => .error fault
      | .ok size =>
          if size = 0 then .ok []
          else if (rest.take size).length < size then .error .truncatedData
          else
            match _ : afterLineBreak (rest.drop size) with
            | none => .error .missingLineBreak
            | some next =>
                match decode next with
                | .error fault => .error fault
                | .ok data => .ok (rest.take size ++ data)
  termination_by body.length
  decreasing_by
    have whole := length_of_cutLine ‹cutLine body = some (line, rest)›
    have tail := length_of_afterLineBreak ‹afterLineBreak (rest.drop size) = some next›
    rw [List.length_drop] at tail
    omega

/-- The codings that are left of a `content-encoding` value without the one for
chunks, if any. -/
def otherCodings (value : String) : Option String :=
  let codings :=
    ((Text.splitOn ',' value).map Text.trim).filter fun name =>
      name != "" && !Text.sameLetters name coding
  if codings.isEmpty then none else some (Text.joinWith ", " codings)

end Chunked
end SignedGateway
